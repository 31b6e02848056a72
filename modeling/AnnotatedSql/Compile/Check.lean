import AnnotatedSql.Catalog
import AnnotatedSql.Compile.Numbering

/-!
Checks on a statement before anything is typed: the spelling of its placeholders, the shape of its values and the calls
in it.
-/
namespace AnnotatedSql

open Sql (Expr Statement)

/-- A statement uses one style of placeholders. -/
def checkStyle (occurrences : List Occurrence) : Except Error Unit :=
  let named := occurrences.any Occurrence.isNamed
  let numbered := occurrences.any (·.number?.isSome)
  let positional := occurrences.any (·.kind == .positional)
  if named && (numbered || positional) then
    .error (.validation
      "query mixes positional parameters ($1 or ?) and named parameters (sqlc.arg, :name or @name)")
  else if numbered && positional then
    .error (.validation "query mixes numbered ($1) and unnumbered (?) parameters")
  else .ok ()

/-- The least number from `start` on, among `count` of them, that is missing from a list. -/
def firstMissing? (numbers : List Nat) (start : Nat) : Nat → Option Nat
  | 0 => none
  | count + 1 => if numbers.contains start then firstMissing? numbers (start + 1) count else some start

/-- Numbers start from 1 and leave none out. -/
def checkNumbers (occurrences : List Occurrence) : Except Error Unit :=
  let numbers := occurrences.filterMap Occurrence.number?
  if numbers.contains 0 then .error (.validation "there is no parameter $0")
  else
    -- The first gap is not above the length of the list, since all numbers below it are there, and one above it.
    match firstMissing? numbers 1 numbers.length with
    | some missing =>
      if numbers.any (missing < ·) then
        .error (.validation s!"could not determine data type of parameter ${missing}")
      else .ok ()
    | none => .ok ()

/-- The rows of `VALUES` in an insert have the same length, and as many values as there are columns named. -/
def checkInsert : Statement → Except Error Unit
  | .insert insert =>
    match insert.source.map Sql.Query.body with
    | some (.values rows) =>
      let size := (rows.head?.map List.length).getD 0
      if rows.any (·.length != size) then .error (.validation "VALUES lists must all be the same length")
      else if insert.columns.isEmpty then .ok ()
      else if size > insert.columns.length then
        .error (.validation "INSERT has more expressions than target columns")
      else if size < insert.columns.length then
        .error (.validation "INSERT has more target columns than expressions")
      else .ok ()
    | _ => .ok ()
  | _ => .ok ()

/-- Helpers are known and take one name; functions of the catalog take a number of arguments that one of their
    signatures accepts. -/
def checkCall (catalog : Catalog) (call : Sql.Call) : Except Error Unit :=
  let helper? := match call.name with
    | [space, helper] => if Text.sameLetters space.value "sqlc" then some (Text.toLower helper.value) else none
    | _ => none
  match helper? with
  | some helper =>
    if !(["arg", "narg", "slice"].contains helper) then
      .error (.validation s!"function sqlc.{helper} does not exist")
    else if (helperCall? call).isNone then
      .error (.validation s!"expected 1 identifier or string parameter to sqlc.{helper}")
    else .ok ()
  | none =>
    let name := Sql.ObjectName.qualified call.name
    let overloads := catalog.functions name
    let count := match call.args with
      | .list args _ => args.length
      | _ => 0
    if !overloads.isEmpty && !overloads.any (·.accepts count) then
      .error (.validation s!"function {name.display} does not accept {count} argument(s)")
    else .ok ()

/-- The first call that fails its check decides. -/
def checkCalls (catalog : Catalog) (statement : Statement) : Except Error Unit :=
  statement.all.forM fun
    | .call call => checkCall catalog call
    | _ => .ok ()

end AnnotatedSql
