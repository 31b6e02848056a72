import AnnotatedSql.QualifiedName
import AnnotatedSql.Sql.Token
import AnnotatedSql.SqlType

/-!
Syntax trees of statements. A tree keeps what typing a query needs: names, the shape of expressions and of `FROM`
clauses, and every expression that a placeholder can stand in. Forms that typing does not look into are kept as the
list of their operands, in the order in which they are written down in the form.
-/
namespace AnnotatedSql.Sql

/-- An identifier, with the quote it is written in. -/
structure Ident where
  value : String
  quote : Option Char := none
deriving Repr, DecidableEq, Inhabited

def Word.ident (word : Word) : Ident where
  value := word.value
  quote := word.quote

/-- A text for the inside of quotes, with each quote doubled. A pair of quotes is taken for one doubled already, and
    a quote after a backslash is left alone. -/
def escapeQuotes (quote : Char) (last : Char) : List Char → List Char
  | [] => []
  | [c] => if c = quote && last != '\\' then [c, c] else [c]
  | c :: d :: rest =>
    if c = quote then
      if last = '\\' then c :: escapeQuotes quote last (d :: rest)
      else if d = quote then c :: c :: escapeQuotes quote c rest
      else c :: c :: escapeQuotes quote c (d :: rest)
    else c :: escapeQuotes quote c (d :: rest)

/-- The identifier as it is written. -/
def Ident.display (ident : Ident) : String :=
  match ident.quote with
  | some quote => String.ofList (quote :: escapeQuotes quote '\x00' ident.value.toList ++ [quote])
  | none => ident.value

/-- A name of one or more parts. -/
abbrev ObjectName := List Ident

namespace ObjectName

def display (name : ObjectName) : String :=
  ".".intercalate (name.map Ident.display)

/-- Schema and name. Of three parts the first, a database, is left out; longer names are taken whole. -/
def qualified : ObjectName → QualifiedName
  | [name] => { schema := none, name := name.value }
  | [schema, name] => { schema := some schema.value, name := name.value }
  | [_, schema, name] => { schema := some schema.value, name := name.value }
  | name => { schema := none, name := display name }

/-- The last part of a column path, and the part before it. -/
def column (path : ObjectName) : Option String × String :=
  match path.reverse with
  | [] => (none, "")
  | [name] => (none, name.value)
  | name :: qualifier :: _ => (some qualifier.value, name.value)

end ObjectName

/-- The name of a range variable, and the names that it gives to its columns. -/
structure Alias where
  name : Ident
  columns : List Ident
deriving Repr, DecidableEq

inductive Literal where
  | number (digits : String)
  | text (kind : TextKind) (value : String)
  | boolean
  | null
  | placeholder (spelling : String)
deriving Repr, DecidableEq

/-- Operators between two operands, as far as typing tells them apart. -/
inductive BinaryOp where
  | and
  | or
  | xor
  /-- `=`, `<>`, `<`, `<=`, `>` and `>=` -/
  | comparison
  /-- `<=>`, an equality that holds between nulls. -/
  | nullSafe
  /-- `||` -/
  | concat
  /-- `+`, `-` and `*` -/
  | arithmetic
  /-- `/` and `%` -/
  | division
  | other
deriving Repr, DecidableEq

inductive UnaryOp where
  | not
  /-- `@`, the absolute value; what follows it may be the name of a parameter. -/
  | abs
  | other
deriving Repr, DecidableEq

/-- How the rows of two sides of a join are combined. -/
inductive JoinKind where
  /-- Inner, semi and anti joins. -/
  | inner
  | left
  | right
  | full
  /-- Joins whose constraint does not show: cross joins, applications, as-of joins, and semi and anti joins without a
      side. -/
  | plain
deriving Repr, DecidableEq

/-- A wildcard's place: byte offsets of its first and behind its last character. -/
structure Extent where
  start : Nat
  stop : Nat
deriving Repr, DecidableEq

mutual

inductive Expr where
  | ident (name : Ident)
  /-- A column path such as `t.c`. -/
  | path (parts : ObjectName)
  | literal (value : Literal)
  /-- In parentheses. -/
  | nested (inner : Expr)
  | tuple (items : List Expr)
  | binary (left : Expr) (op : BinaryOp) (right : Expr)
  | unary (op : UnaryOp) (operand : Expr)
  /-- A comparison with `ANY` or `ALL`. -/
  | quantified (left right : Expr)
  /-- `IS [NOT] NULL`, `TRUE` or `FALSE` -/
  | test (operand : Expr)
  /-- `IS [NOT] DISTINCT FROM` -/
  | distinct (left right : Expr)
  | inList (operand : Expr) (items : List Expr)
  | inQuery (operand : Expr) (query : Query)
  | between (operand low high : Expr)
  /-- `LIKE`, `ILIKE` or `SIMILAR TO` -/
  | like (operand pattern : Expr)
  | cast (operand : Expr) (type : SqlType)
  | call (call : Call)
  | case (operand : Option Expr) (conditions results : List Expr) (otherwise : Option Expr)
  | subquery (query : Query)
  | exists (query : Query)
  /-- A text with its type in front: `DATE '2020-01-01'`. -/
  | typed (type : SqlType)
  | interval (value : Expr)
  /-- Any other form. -/
  | form (operands : List Expr)

/-- A function call. -/
structure Call where
  name : ObjectName
  args : CallArgs
  filter : Option Expr
  /-- Operands of the window that it runs over. -/
  window : List Expr
  /-- Order of the group that it aggregates. -/
  withinGroup : List Expr

inductive CallArgs where
  /-- A call without parentheses. -/
  | none
  /-- Arguments, and what the clauses after them hold. -/
  | list (args : List Arg) (clauses : List Expr)
  | query (query : Query)

/-- An argument of a call. The value is missing for a wildcard. -/
inductive Arg where
  | positional (value : Option Expr)
  /-- `name => value` with a plain name. -/
  | named (value : Option Expr)
  /-- `label => value` with any expression for a name. -/
  | labelled (label : Expr) (value : Option Expr)

structure Query where
  recursive : Bool
  ctes : List Cte
  body : Body
  orderBy : List Expr
  limit : Option Expr
  offset : Option Expr
  fetch : Option Expr

/-- A common table expression. -/
structure Cte where
  asName : Alias
  query : Query

inductive Body where
  | select (select : Select)
  | query (query : Query)
  | setOperation (left right : Body)
  | values (rows : List (List Expr))
  | insert (insert : Insert)
  | update (update : Update)
  | table

structure Select where
  /-- Operands of `DISTINCT ON` and `TOP`. -/
  head : List Expr
  items : List Item
  tables : List FromItem
  /-- Operands of lateral views. -/
  views : List Expr
  selection : Option Expr
  groupBy : List Expr
  /-- Operands of `CLUSTER BY`, `DISTRIBUTE BY` and `SORT BY`. -/
  sorting : List Expr
  having : Option Expr
  /-- Operands of named windows. -/
  windows : List Expr
  qualify : Option Expr

/-- An item of a select list or of a `RETURNING` clause. -/
inductive Item where
  | expr (value : Expr)
  | aliased (value : Expr) (asName : Ident)
  | wildcard (extent : Extent)
  /-- `name.*`; the place is unknown if the name starts with a quoted text. -/
  | qualified (name : ObjectName) (extent : Option Extent)

/-- A `FROM` item with the joins that follow it. -/
structure FromItem where
  relation : Relation
  joins : List Join

structure Join where
  relation : Relation
  kind : JoinKind
  on : Option Expr
  /-- Columns that both sides share. -/
  shared : List Ident
  /-- Conditions of a join whose constraint does not show. -/
  hidden : List Expr

/-- What a `FROM` item ranges over. -/
inductive Relation where
  | table (name : ObjectName) (asName : Option Alias) (hints : List Expr)
  /-- A table function; the name is missing if it is not called like a table. -/
  | function (name : Option ObjectName) (operands : List Expr) (asName : Option Alias)
  | derived (lateral : Bool) (query : Query) (asName : Option Alias)
  | joined (inner : FromItem) (asName : Option Alias)
  /-- A relation whose columns are not known. -/
  | hidden (operands : List Expr)
  /-- A relation with rows and columns exchanged, whose columns are not known either. -/
  | pivoted (inner : Relation) (operands : List Expr)

structure Insert where
  table : ObjectName
  columns : List Ident
  source : Option Query
  partitions : List Expr
  /-- What is done instead when a row exists. -/
  updates : List Assignment
  updateWhere : Option Expr
  returning : List Item

structure Update where
  table : FromItem
  assignments : List Assignment
  tables : Option FromItem
  selection : Option Expr
  returning : List Item

/-- An assignment; the target is missing if it is a list of columns. -/
structure Assignment where
  target : Option ObjectName
  value : Expr

end

instance : Inhabited Expr := ⟨.form []⟩

structure Delete where
  tables : List FromItem
  /-- Further tables that the condition looks at. -/
  others : List FromItem
  selection : Option Expr
  returning : List Item
  orderBy : List Expr
  limit : Option Expr

/-- A type as it is written in a definition or a cast. -/
inductive TypeName where
  | interval
  /-- A type known by name only. -/
  | custom (name : ObjectName)
  /-- `ENUM('a', 'b')`; the labels are missing if they come with numbers or a width. -/
  | enum (labels : Option (List String))
  | plain (type : SqlType) (unsigned : Bool)
deriving Repr

namespace TypeName

/-- The type behind a type's name. -/
def ofCustom (name : ObjectName) : SqlType :=
  let text := ".".intercalate (name.map Ident.value)
  match Text.toLower text with
  | "serial" | "serial4" => .integer
  | "bigserial" | "serial8" => .bigInt
  | "smallserial" | "serial2" => .smallInt
  | "year" => .smallInt
  | _ => .custom text

def sqlType : TypeName → SqlType
  | interval => .interval
  | custom name => ofCustom name
  | enum _ => .custom "enum"
  | plain type _ => type

def isUnsigned : TypeName → Bool
  | plain _ unsigned => unsigned
  | _ => false

end TypeName

/-- What a column definition says beside name and type. -/
inductive ColumnOption where
  | null
  | notNull
  | primaryKey
  | comment (text : String)
  /-- What does not change the shape of the column. -/
  | other
deriving Repr, DecidableEq

structure ColumnSyntax where
  name : Ident
  type : TypeName
  /-- In the order written. -/
  options : List ColumnOption
deriving Repr

structure ArgSyntax where
  name : Option Ident
  type : TypeName
  hasDefault : Bool
deriving Repr

/-- A change of a table's columns. -/
inductive Alteration where
  | addColumn (column : ColumnSyntax)
  | dropColumn (name : Ident)
  | renameColumn (old new : Ident)
  | renameTable (name : ObjectName)
  | addPrimaryKey (columns : List Ident)
  | other
deriving Repr

/-- A statement that changes a catalog. -/
inductive Definition where
  /-- `keys` are the primary keys that stand outside of the columns. -/
  | table (name : ObjectName) (columns : List ColumnSyntax) (keys : List (List Ident))
  | enum (name : ObjectName) (labels : List Ident)
  | function (name : ObjectName) (args : List ArgSyntax) (result : Option TypeName)
  | alterTable (name : ObjectName) (changes : List Alteration)
  | commentTable (name : ObjectName) (text : Option String)
  | commentColumn (name : ObjectName) (text : Option String)
  | dropTables (names : List ObjectName)
deriving Repr

/-- A statement. Those that are neither compiled nor part of a schema are known by their leading keywords. -/
inductive Statement where
  | query (query : Query)
  | insert (insert : Insert)
  | update (update : Update)
  | delete (delete : Delete)
  | truncate (partitions : List Expr)
  | definition (keywords : String) (definition : Definition)
  | other (keywords : String)

end AnnotatedSql.Sql
