import AnnotatedSql.Text.Case

/-!
The two SQL dialects, and what sets them apart outside their grammars: the default schema, the comments that may
carry a directive, the spelling of placeholders and of quoted names.
-/
namespace AnnotatedSql

/-- Comment forms that may carry a query directive. -/
structure CommentForms where
  /-- Lines that start with `--`. -/
  dash : Bool
  /-- Lines that start with `#`. -/
  hash : Bool
  /-- Comments between `/*` and `*/`. -/
  slashStar : Bool
deriving Repr, DecidableEq

inductive Dialect where
  | postgreSQL
  | mySQL
deriving Repr, DecidableEq, Inhabited

namespace Dialect

def name : Dialect → String
  | postgreSQL => "postgresql"
  | mySQL => "mysql"

/-- The dialect that a name in any case stands for. -/
def ofName? (text : String) : Option Dialect :=
  let lower := Text.toLower text
  if lower = "postgresql" ∨ lower = "postgres" ∨ lower = "pg" then some postgreSQL
  else if lower = "mysql" ∨ lower = "mysql8" then some mySQL
  else none

/-- What is said of a name that stands for no dialect. -/
def unknownMessage (text : String) : String :=
  "Unknown dialect: '" ++ text ++ "'. Supported dialects: postgresql, mysql."

theorem ofName?_name (dialect : Dialect) : ofName? dialect.name = some dialect := by
  cases dialect <;> decide +kernel

/-- The schema of tables named without one. -/
def defaultSchema : Dialect → String
  | postgreSQL => "public"
  | mySQL => ""

def commentForms : Dialect → CommentForms
  | postgreSQL => { dash := true, hash := false, slashStar := true }
  | mySQL => { dash := true, hash := true, slashStar := true }

/-- Whether emitted SQL has `?` placeholders unless told otherwise. -/
def positionalParameters (dialect : Dialect) : Bool :=
  dialect == mySQL

/-- Whether a lone parameter in `IN (…)` stands for a list of values. -/
def inListSlices (dialect : Dialect) : Bool :=
  dialect == mySQL

/-- The character around a quoted name. -/
def nameQuote : Dialect → Char
  | postgreSQL => '"'
  | mySQL => '\x60'

/-- A character that an unquoted name keeps as it is. Unquoted PostgreSQL names fold to lower case. -/
def isPlainNameChar (dialect : Dialect) (c : Char) : Bool :=
  match dialect with
  | postgreSQL => c.isLower || c.isDigit || c == '_'
  | mySQL => c.isAlphanum || c == '_'

/-- Whether a name reads back as itself without quotes. -/
def isPlainName (dialect : Dialect) (text : String) : Bool :=
  match text.toList with
  | [] => false
  | c :: cs => (c.isAlpha || c == '_') && (c :: cs).all dialect.isPlainNameChar

/-- A name between quotes, with the quotes inside it doubled. -/
def quoteName (quote : Char) (text : String) : String :=
  String.ofList (quote :: text.toList.flatMap (fun c => if c = quote then [c, c] else [c]) ++ [quote])

/-- Spells an identifier so that it reads back as `text`. -/
def quoteIdentifier (dialect : Dialect) (text : String) : String :=
  if dialect.isPlainName text then text else quoteName dialect.nameQuote text

end Dialect

end AnnotatedSql
