import AnnotatedSql.Compile.Scope
import AnnotatedSql.Sql.Tree

/-!
The catalog as one statement sees it: its tables, and the common table expressions in force.
-/
namespace AnnotatedSql

structure View where
  catalog : Catalog
  dialect : Dialect
  /-- Columns of common table expressions, by their names in lower case. -/
  ctes : Keyed (List Column) := []

namespace View

/-- The view with one more common table expression, which hides an earlier one of its name. -/
def addCte (view : View) (asName : Sql.Alias) (columns : List Column) : View :=
  { view with ctes := view.ctes.insert (Text.toLower asName.name.value) (renameColumns columns asName.columns) }

/-- A table as a range variable. -/
def tableVar (view : View) (table : TableDef) (asName : Option Sql.Alias) : RangeVar :=
  .ofColumns table.name.name asName (table.columns.values.map (Column.ofDef view.catalog table))

/-- The relation of a name. Common table expressions hide tables for names without a schema. -/
def relation (view : View) (name : Sql.ObjectName) (asName : Option Sql.Alias) : Except Error RangeVar :=
  let qualified := name.qualified
  match if qualified.schema.isNone then view.ctes.get? (Text.toLower qualified.name) else none with
  | some columns => .ok (.ofColumns qualified.name asName columns)
  | none =>
    match view.catalog.table? qualified with
    | some table => .ok (view.tableVar table asName)
    | none => .error (.tableNotFound qualified.display)

end View

end AnnotatedSql
