import AnnotatedSql.Compile.Output
import AnnotatedSql.Source.Edit

/-!
Wildcards of a statement's own select list or `RETURNING` clause, replaced by the columns that they stand for. Those
of subqueries and of common table expressions stay.
-/
namespace AnnotatedSql

open Sql (Body Item ObjectName Statement)

/-- Whether a name belongs to more than one column, letter case aside. -/
def isShared (columns : List Column) (name : String) : Bool :=
  1 < (columns.filter fun column => Text.toLower column.name == Text.toLower name).length

/-- The columns of an unqualified wildcard. A name that more than one of them has is qualified. -/
def Frame.spelled (dialect : Dialect) (frame : Frame) : List String :=
  frame.vars.flatMap fun var =>
    var.columns.map fun column =>
      let name := dialect.quoteIdentifier column.name
      if isShared frame.columns column.name && !var.label.isEmpty then
        dialect.quoteIdentifier var.label ++ "." ++ name
      else name

/-- The columns of a qualified wildcard, under its qualifier as it is written. -/
def RangeVar.spelled (dialect : Dialect) (name : ObjectName) (var : RangeVar) : List String :=
  var.columns.map fun column => name.display ++ "." ++ dialect.quoteIdentifier column.name

/-- The edit that puts columns in the place of a wildcard. A wildcard without columns stays. -/
def replaceWildcard (text : List Char) (extent : Sql.Extent) (columns : List String) : List Source.Edit :=
  match columns, Text.slice? text extent.start extent.stop with
  | [], _ | _, none => []
  | columns, some old => [{ location := extent.start, old, new := (", ".intercalate columns).toList }]

/-- The edits for the wildcards among select items. -/
def itemEdits (dialect : Dialect) (text : List Char) (frame : Frame) (items : List Item) :
    Except Error (List Source.Edit) := do
  let edits ← items.mapM fun
    | .wildcard extent => pure (replaceWildcard text extent (frame.spelled dialect))
    | .qualified name extent =>
      let qualifier := (name.getLast?.map Sql.Ident.value).getD ""
      match frame.var? qualifier with
      | none => throw (.tableNotFound qualifier)
      | some var =>
        match extent with
        | some extent => pure (replaceWildcard text extent (var.spelled dialect name))
        | none => pure []
    | _ => pure []
  return edits.flatten

namespace View

/-- The edits for the wildcards of a query body and of the sides of its set operations. -/
def bodyEdits (view : View) (text : List Char) : Body → Except Error (List Source.Edit)
  | .select select => do itemEdits view.dialect text (← view.frame [] {} select.tables) select.items
  | .setOperation left right => do return (← view.bodyEdits text left) ++ (← view.bodyEdits text right)
  | _ => .ok []

/-- The edits for all wildcards of a statement that are replaced. -/
def wildcardEdits (view : View) (text : List Char) (statement : Statement) : Except Error (List Source.Edit) := do
  match statement with
  | .query query =>
    let view ← view.withCtes query.recursive [] query.ctes
    view.bodyEdits text query.body
  | _ =>
    match ← view.returningFrame? statement with
    | some (items, frame) => itemEdits view.dialect text frame items
    | none => return []

end View

end AnnotatedSql
