import AnnotatedSql.Catalog
import AnnotatedSql.Diagnostic
import AnnotatedSql.FieldType
import AnnotatedSql.Source.Split
import AnnotatedSql.Sql.Parse

/-!
Building a catalog from the text of its definitions. Statements that define nothing are passed over, and so are those
that cannot be read.
-/
namespace AnnotatedSql

open Sql (Alteration ColumnOption ColumnSyntax Definition Ident ObjectName TypeName)

/-- A catalog under construction, and the warnings about its definitions. -/
structure Draft where
  catalog : Catalog
  warnings : List Diagnostic := []

/-- The values of an enum type, read back from the way in which its labels are written down. -/
def enumValues (labels : List String) : List String :=
  let quoted := labels.map fun label =>
    "\x27" ++ String.ofList (Sql.escapeQuotes '\x27' '\x00' label.toList) ++ "\x27"
  match FieldType.read ("ENUM(" ++ ", ".intercalate quoted ++ ")") with
  | .ok type => type.values
  | .error _ => []

/-- What an option says about its column. -/
def ColumnDef.applyOption (column : ColumnDef) : ColumnOption → ColumnDef
  | .null => { column with nullable := true }
  | .notNull => { column with nullable := false }
  | .primaryKey => { column with isPrimaryKey := true, nullable := false }
  | .comment text => { column with comment := some text }
  | .other => column

/-- The columns of a primary key take part in it and are not null. -/
def TableDef.addPrimaryKey (table : TableDef) (key : List Ident) : TableDef :=
  key.foldl (fun table name =>
    { table with columns := table.columns.modifyFirst (· == name.value) (·.applyOption .primaryKey) }) table

namespace Catalog

/-- A column of a table, and the catalog with the enum type that the column brings along. -/
def defineColumn (catalog : Catalog) (table : QualifiedName) (given : ColumnSyntax) : Catalog × ColumnDef :=
  let plain := { ColumnDef.ofType given.name.value given.type.sqlType with unsigned := given.type.isUnsigned }
  let column := given.options.foldl ColumnDef.applyOption plain
  match given.type with
  | .enum labels =>
    let name := table.name ++ "_" ++ given.name.value
    let values := (labels.map enumValues).getD []
    (catalog.addEnum table.schema { name, values, isNotNull := !column.nullable },
      { column with type := .custom name })
  | _ => (catalog, column)

/-- Puts columns into a table. Their enum types come first. -/
def defineColumns (catalog : Catalog) (table : TableDef) (given : List ColumnSyntax) : Catalog × TableDef :=
  given.foldl (fun (catalog, table) column =>
    let (catalog, column) := catalog.defineColumn table.name column
    (catalog, table.addColumn column)) (catalog, table)

/-- Renames a column in its place. There is no outcome if the new name belongs to another column and the old one was
    the last. -/
def renameColumn? (table : TableDef) (old new : String) : Option TableDef :=
  match table.columns.indexOf? old, table.columns.get? old with
  | some index, some column =>
    ((table.columns.erase old).insertAt? index new { column with name := new }).map fun columns =>
      { table with columns }
  | _, _ => some table

/-- Changes a table. After it was renamed, further changes under the old name find nothing. -/
def alter? (catalog : Catalog) (name : QualifiedName) : Alteration → Option Catalog
  | .addColumn given =>
    let (catalog, column) := catalog.defineColumn name given
    some (catalog.modifyTable name (·.addColumn column))
  | .dropColumn column =>
    some (catalog.modifyTable name fun table => { table with columns := table.columns.erase column.value })
  | .renameColumn old new =>
    match catalog.alterable? name with
    | none => some catalog
    | some table => (renameColumn? table old.value new.value).map fun changed => catalog.modifyTable name fun _ => changed
  | .renameTable new =>
    match catalog.removable? name with
    | none => some catalog
    | some table =>
      let renamed := { table with name := { schema := name.schema, name := (ObjectName.qualified new).name } }
      some ((catalog.removeTable name).addTable renamed)
  | .addPrimaryKey key => some (catalog.modifyTable name (·.addPrimaryKey key))
  | .other => some catalog

end Catalog

namespace Draft

def unknownTable (name : QualifiedName) : Diagnostic where
  kind := .tableNotFound
  severity := .warning
  message := "ALTER TABLE references table '" ++ name.display ++ "' which was not found in schema"
  help := some "Ensure the CREATE TABLE statement appears before ALTER TABLE"

/-- Takes a definition in. -/
def define? (draft : Draft) (definition : Definition) : Option Draft :=
  let catalog := draft.catalog
  match definition with
  | .table name columns keys =>
    let (catalog, table) := catalog.defineColumns { name := ObjectName.qualified name } columns
    some { draft with catalog := catalog.addTable (keys.foldl TableDef.addPrimaryKey table) }
  | .enum name labels =>
    let name := ObjectName.qualified name
    some { draft with catalog := catalog.addEnum name.schema { name := name.name, values := labels.map Ident.value } }
  | .function name args result =>
    let name := ObjectName.qualified name
    let function : FunctionDef := {
      name := name.name
      args := args.map fun arg =>
        { name := arg.name.map Ident.value, type := arg.type.sqlType, hasDefault := arg.hasDefault }
      returnType := (result.map TypeName.sqlType).getD .unknown
      returnNotNull := false }
    some { draft with catalog := catalog.addFunction name.schema function }
  | .alterTable name changes =>
    let name := ObjectName.qualified name
    if catalog.hasTable name then
      (changes.foldlM (fun (catalog : Catalog) change => catalog.alter? name change) catalog).map fun catalog =>
        { draft with catalog }
    else some { draft with warnings := draft.warnings ++ [unknownTable name] }
  | .commentTable name text =>
    some { draft with
      catalog := catalog.modifyTable (ObjectName.qualified name) fun table => { table with comment := text } }
  | .commentColumn name text =>
    let column := (name.getLast?.map Ident.value).getD ""
    some { draft with
      catalog := catalog.modifyTable (ObjectName.qualified name.dropLast) fun table =>
        { table with columns := table.columns.modifyFirst (· == column) fun column =>
            { column with comment := text } } }
  | .dropTables names =>
    some { draft with
      catalog := names.foldl (fun catalog name => catalog.removeTable (ObjectName.qualified name)) catalog }

/-- Takes in what a statement defines. -/
def step? (draft : Draft) : Sql.Statement → Option Draft
  | .definition _ definition => draft.define? definition
  | _ => some draft

/-- The statements of a text, and none if it cannot be read. There is no answer if the reading breaks off. -/
def statements? (dialect : Dialect) (text : List Char) : Option (List Sql.Statement) :=
  match Sql.parse dialect.grammar (String.ofList (Text.trim text)) with
  | .ok statements => some statements
  | .error .brokenOff => none
  | .error _ => some []

/-- Takes in the definitions of a text. If it cannot be read as a whole, its statements are read one by one. There is
    no outcome if a statement's extent does not lie on characters of the text. -/
def read? (dialect : Dialect) (draft : Draft) (text : String) : Option Draft :=
  match Sql.parse dialect.grammar text with
  | .ok statements => statements.foldlM step? draft
  | .error .brokenOff => none
  | .error _ =>
    (Source.statements dialect text.toList).foldlM (fun draft extent => do
      let part ← extent.text? text.toList
      (← statements? dialect part).foldlM step? draft) draft

end Draft

end AnnotatedSql
