import AnnotatedSql.Dialect
import AnnotatedSql.Text.Letter

/-!
The grammars that texts are read in: one for each dialect, and a general one that takes PostgreSQL texts with `?`
placeholders. This module has the rules about characters and the binding strength of operators.
-/
namespace AnnotatedSql.Sql

inductive Grammar where
  | postgreSQL
  | mySQL
  | general
deriving Repr, DecidableEq

end Sql

/-- The grammar that a dialect's texts are written in. -/
def Dialect.grammar : Dialect → Sql.Grammar
  | postgreSQL => .postgreSQL
  | mySQL => .mySQL

namespace Sql.Grammar

/-- Whether a character can start an unquoted name. -/
def isNameStart (grammar : Grammar) (c : Char) : Bool :=
  match grammar with
  | postgreSQL => Text.isAlphabetic c || c == '_'
  | mySQL => Text.isAlphabetic c || c == '_' || c == '$' || c == '@' || (0x80 ≤ c.toNat && c.toNat ≤ 0xFFFF)
  | general => Text.isAlphabetic c || c == '_' || c == '#' || c == '@'

/-- Whether an unquoted name can go on with a character. -/
def isNamePart (grammar : Grammar) (c : Char) : Bool :=
  match grammar with
  | postgreSQL => Text.isAlphabetic c || c.isDigit || c == '$' || c == '_'
  | mySQL => grammar.isNameStart c || c.isDigit
  | general => Text.isAlphabetic c || c.isDigit || c == '@' || c == '$' || c == '#' || c == '_'

/-- Whether a character quotes names. -/
def isNameQuote (grammar : Grammar) (c : Char) : Bool :=
  match grammar with
  | postgreSQL => c == '"'
  | mySQL => c == '\x60'
  | general => c == '"' || c == '\x60'

/-- Whether an operator takes in a following character. Only PostgreSQL lets users define operators. -/
def isOperatorPart (grammar : Grammar) (c : Char) : Bool :=
  grammar == postgreSQL && "+-*/<>=~!@#%^&|\x60?".toList.contains c

/-- Whether a backslash escapes in a quoted text. -/
def backslashEscapes (grammar : Grammar) : Bool :=
  grammar == mySQL

/-- Whether names may start with digits. -/
def digitNames (grammar : Grammar) : Bool :=
  grammar == mySQL

end Sql.Grammar

end AnnotatedSql
