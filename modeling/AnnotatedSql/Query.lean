import AnnotatedSql.Catalog
import AnnotatedSql.Directive

/-!
Compiled queries: what a directive-annotated statement becomes, with its parameters and its output columns typed.
-/
namespace AnnotatedSql

/-- A typed column: one of the catalog, or the result of an expression. -/
structure Column where
  /-- Empty for an expression without a name. -/
  name : String
  /-- Tag of the base type. -/
  type : String
  notNull : Bool
  isArray : Bool
  /-- Stands for a list of values at run time. -/
  isSlice : Bool := false
  unsigned : Bool := false
  length : Option Nat
  /-- The table of a plain column reference. -/
  table : Option QualifiedName := none
  tableAlias : Option String := none
  /-- The enum type of the column. -/
  enumRef : Option QualifiedName := none
  comment : Option String := none
deriving Repr, DecidableEq

namespace Column

/-- The column of an expression of a given type. -/
def ofType (name : String) (type : SqlType) (notNull : Bool) : Column where
  name
  type := type.tag
  notNull
  isArray := type.isArray
  length := type.length

/-- A column of unknown type, which may be null. -/
def any (name : String) : Column :=
  ofType name .unknown false

/-- Type information of `other`, with the name and nullability of the column. -/
def withTypeOf (column other : Column) : Column :=
  { column with
    type := other.type
    isArray := other.isArray
    unsigned := other.unsigned
    length := other.length
    enumRef := other.enumRef }

/-- The enum type that a column type of a schema names, if the catalog has it. -/
def enumRef? (catalog : Catalog) (schema : String) (type : SqlType) : Option QualifiedName :=
  match type.element with
  | .custom name =>
    let dotted := QualifiedName.ofDotted name
    let lookup : QualifiedName := { dotted with schema := dotted.schema <|> some schema }
    (catalog.enum? lookup).map fun _ => lookup
  | _ => none

/-- A column of a catalog table. -/
def ofDef (catalog : Catalog) (table : TableDef) (column : ColumnDef) : Column :=
  let schema := catalog.schemaName table.name.schema
  { name := column.name
    type := column.type.tag
    notNull := !column.nullable
    isArray := column.isArray
    unsigned := column.unsigned
    length := column.length
    table := some { schema := some schema, name := table.name.name }
    enumRef := enumRef? catalog schema column.type
    comment := column.comment }

end Column

/-- A resolved placeholder. -/
structure Parameter where
  /-- Its ordinal number, from 1. -/
  number : Nat
  column : Column
  /-- Byte offset from the start of the statement. -/
  location : Nat
deriving Repr, DecidableEq

/-- The parameters of one tuple of values, for inserts of many rows. -/
structure InsertValues where
  params : List Parameter
  /-- Number of expressions in the tuple. -/
  length : Nat
deriving Repr, DecidableEq

/-- A compiled statement. -/
structure Query where
  command : Command
  name : String
  /-- The statement's comments, its directive aside. -/
  comments : List String
  params : List Parameter
  columns : List Column
  /-- The edited text, without comment lines. -/
  sql : String
  /-- Columns that the caller does not supply. -/
  omits : List String
  insertValues : Option InsertValues
  filename : String
deriving Repr, DecidableEq

/-- Queries by name; those of one name keep their order. -/
def Query.sortByName (queries : List Query) : List Query :=
  queries.mergeSort fun a b => !(b.name < a.name : Bool)

end AnnotatedSql
