import AnnotatedSql.Query
import AnnotatedSql.Sql.Tree

/-!
Scopes: the range variables that a column reference can mean. A scope is a stack of frames, one for each level of
nested queries, and a reference is looked up from the innermost level outwards.
-/
namespace AnnotatedSql

open Sql (Alias Ident)

/-- Gives new names to the first columns. -/
def renameColumns : List Column → List Ident → List Column
  | column :: columns, name :: names => { column with name := name.value } :: renameColumns columns names
  | columns, _ => columns

/-- What a query ranges over: a table, a common table expression, a subquery or a table function. -/
structure RangeVar where
  name : String
  asName : Option String
  columns : List Column
deriving Repr, DecidableEq

namespace RangeVar

/-- A range variable under an alias, which renames columns and stands as their origin. -/
def ofColumns (name : String) (asName : Option Alias) (columns : List Column) : RangeVar :=
  match asName with
  | none => { name, asName := none, columns }
  | some asName =>
    { name
      asName := some asName.name.value
      columns := (renameColumns columns asName.columns).map fun column =>
        { column with tableAlias := some asName.name.value } }

/-- The name that qualified references use. An alias hides the name. -/
def label (var : RangeVar) : String :=
  var.asName.getD var.name

/-- Whether a qualifier refers to the range variable. -/
def isNamed (var : RangeVar) (qualifier : String) : Bool :=
  Text.sameLetters var.label qualifier

/-- The column of a name: spelled exactly so, or else the first one that differs in letter case only. -/
def column? (var : RangeVar) (name : String) : Option Column :=
  var.columns.find? (·.name == name) <|> var.columns.find? (Text.sameLetters ·.name name)

/-- The range variable on the side of an outer join that may lack a row. -/
def nullable (var : RangeVar) : RangeVar :=
  { var with columns := var.columns.map fun column => { column with notNull := false } }

end RangeVar

/-- The range variables of one query level. -/
structure Frame where
  vars : List RangeVar := []
  /-- Columns that a join merges, so that a reference to one of them is not ambiguous. -/
  merged : List String := []
deriving Repr, DecidableEq

namespace Frame

def single (var : RangeVar) : Frame :=
  { vars := [var] }

/-- The first range variable that a qualifier refers to. -/
def var? (frame : Frame) (qualifier : String) : Option RangeVar :=
  frame.vars.find? (·.isNamed qualifier)

/-- All columns, as an unqualified wildcard lists them. -/
def columns (frame : Frame) : List Column :=
  frame.vars.flatMap RangeVar.columns

end Frame

/-- The frames that are visible at a point of a statement, innermost first. -/
abbrev Scope := List Frame

namespace Scope

/-- The column that a reference means. A level decides as soon as it knows the qualifier, or the column where there
    is no qualifier. -/
def lookup (qualifier : Option String) (name : String) : Scope → Except Error Column
  | [] =>
    match qualifier with
    | some qualifier => .error (.tableNotFound qualifier)
    | none => .error (.columnNotFound none name)
  | frame :: outer =>
    match qualifier with
    | some qualifier =>
      match frame.var? qualifier with
      | some var =>
        match var.column? name with
        | some column => .ok column
        | none => .error (.columnNotFound (some qualifier) name)
      | none => lookup (some qualifier) name outer
    | none =>
      match frame.vars.filterMap (·.column? name) with
      | [] => lookup none name outer
      | [column] => .ok column
      | column :: _ =>
        if frame.merged.any (Text.sameLetters · name) then .ok column else .error (.ambiguousColumn name)

end Scope

end AnnotatedSql
