import AnnotatedSql.Compile.Output
import AnnotatedSql.Placeholder
import AnnotatedSql.Sql.Walk

/-!
References to parameters. A statement is walked in the order of its text; for each placeholder the walk notes where it
stands, as far as that tells its type, and which range variables are visible there. Nothing is resolved here.
-/
namespace AnnotatedSql

open Sql (Arg Assignment Body Call CallArgs Cte Expr FromItem Item Join Literal Relation Select Statement)

/-- Where a placeholder stands, as far as its type is concerned. -/
inductive Context where
  /-- Compared with a column. -/
  | column (qualifier : Option String) (name : String)
  /-- `column = ANY(…)` -/
  | anyOf (qualifier : Option String) (name : String)
  /-- The only element of `column IN (…)`, where such a list grows at run time. -/
  | inList (qualifier : Option String) (name : String)
  /-- Written into a column. -/
  | target (table : QualifiedName) (column : String)
  /-- One of `count` arguments of a function. -/
  | argument (function : QualifiedName) (index count : Nat)
  | cast (type : SqlType)
  | limit
  | offset
  | unknown
deriving Repr, DecidableEq

namespace Context

/-- What the other side of an operator says about a placeholder. -/
def ofOperand : Expr → Context
  | .ident name => .column none name.value
  | .path parts => .column (Sql.ObjectName.column parts).1 (Sql.ObjectName.column parts).2
  | .nested inner => ofOperand inner
  | .cast _ type => .cast type
  | _ => .unknown

/-- The context of the operand of `ANY` or `ALL`. -/
def quantified : Context → Context
  | .column qualifier name => .anyOf qualifier name
  | _ => .unknown

/-- The context of a list that stands for many values. -/
def listed : Context → Context
  | .column qualifier name => .inList qualifier name
  | context => context

end Context

/-- A placeholder that the walk met. -/
structure Found where
  /-- Its number, if its spelling has one. -/
  number : Option Nat
  context : Context
  scope : Scope
  /-- The row of `VALUES` that it stands in. -/
  row : Option Nat
deriving Repr, DecidableEq

/-- What the walk depends on. -/
structure Walk where
  view : View
  /-- Whether a lone element of an `IN` list stands for many values. -/
  slices : Bool
  row : Option Nat := none

/-- What is found in the parts of a construct. The first part that fails decides. -/
abbrev Finding := Except Error (List Found)

/-- What several parts hold, in order. -/
def Finding.all (parts : List Finding) : Finding := do
  return (← parts.mapM id).flatten

/-- Every second part is taken from another list. -/
def interleave {α : Type} : List α → List α → List α
  | a :: as, b :: bs => a :: b :: interleave as bs
  | _, _ => []

namespace Walk

/-- The number in a placeholder's spelling. -/
def numberOf? (spelling : String) : Option Nat :=
  match spelling.toList with
  | '$' :: digits | '?' :: digits => Text.readWord? digits
  | _ => none

def found (walk : Walk) (scope : Scope) (context : Context) (spelling : String) : Found :=
  { number := numberOf? spelling, context, scope, row := walk.row }

/-- The placeholders among expressions of forms that say nothing about types. -/
def unknowns (walk : Walk) (scope : Scope) (exprs : List Expr) : List Found :=
  exprs.filterMap fun
    | .literal (.placeholder spelling) => some (walk.found scope .unknown spelling)
    | _ => none

end Walk

mutual

/-- The placeholders of an expression; one that is the whole expression has the context given. -/
def Walk.expr (walk : Walk) (scope : Scope) (context : Context) : Expr → Finding
  | .literal (.placeholder spelling) => .ok [walk.found scope context spelling]
  | .nested inner => walk.expr scope context inner
  | .ident _ | .path _ | .literal _ | .typed _ => .ok []
  | .binary left op right =>
    match op, left, right with
    | .and, left, right | .or, left, right | .xor, left, right => do
      return (← walk.expr scope .unknown left) ++ (← walk.expr scope .unknown right)
    | _, .tuple lefts, .tuple rights =>
      if lefts.length = rights.length then do
        return (← Finding.all (walk.exprs scope (rights.map .ofOperand) lefts)) ++
          (← Finding.all (walk.exprs scope (lefts.map .ofOperand) rights))
      else do
        return (← Finding.all (walk.exprs scope (lefts.map fun _ => .unknown) lefts)) ++
          (← Finding.all (walk.exprs scope (rights.map fun _ => .unknown) rights))
    | _, left, right => do
      return (← walk.expr scope (.ofOperand right) left) ++ (← walk.expr scope (.ofOperand left) right)
  | .quantified left right => do
    return (← walk.expr scope .unknown left) ++ (← walk.expr scope (Context.ofOperand left).quantified right)
  | .inList operand items => do
    let context := Context.ofOperand operand
    let context := if items.length = 1 ∧ walk.slices then context.listed else context
    return (← walk.expr scope .unknown operand) ++
      (← Finding.all (walk.exprs scope (items.map fun _ => context) items))
  | .inQuery operand query => do
    return (← walk.expr scope .unknown operand) ++ (← walk.query scope query)
  | .between operand low high => do
    return (← walk.expr scope .unknown operand) ++ (← walk.expr scope (.ofOperand operand) low) ++
      (← walk.expr scope (.ofOperand operand) high)
  | .like operand pattern => do
    return (← walk.expr scope .unknown operand) ++ (← walk.expr scope (.ofOperand operand) pattern)
  | .cast operand type => walk.expr scope (.cast type) operand
  | .call call => walk.call scope call
  | .case operand conditions results otherwise => do
    let context := (operand.map Context.ofOperand).getD .unknown
    return (← walk.exprOption scope .unknown operand) ++
      (← Finding.all (interleave (walk.exprs scope (conditions.map fun _ => context) conditions)
        (walk.exprs scope (results.map fun _ => .unknown) results))) ++
      (← walk.exprOption scope .unknown otherwise)
  | .subquery query => walk.query scope query
  | .exists query => walk.query scope query
  | .unary _ operand => walk.expr scope .unknown operand
  | .test operand => walk.expr scope .unknown operand
  | .tuple items => Finding.all (walk.exprs scope (items.map fun _ => .unknown) items)
  | .distinct left right => .ok (walk.unknowns scope (left.all ++ right.all))
  | .interval value => .ok (walk.unknowns scope value.all)
  | .form operands => .ok (walk.unknowns scope (Sql.allOfList operands))

/-- The placeholders of each of some expressions, each under its own context. -/
def Walk.exprs (walk : Walk) (scope : Scope) : List Context → List Expr → List Finding
  | context :: contexts, value :: rest => walk.expr scope context value :: walk.exprs scope contexts rest
  | _, _ => []

def Walk.exprOption (walk : Walk) (scope : Scope) (context : Context) : Option Expr → Finding
  | none => .ok []
  | some value => walk.expr scope context value

/-- The placeholders of a call: its arguments, its clauses, its filter and its window. -/
def Walk.call (walk : Walk) (scope : Scope) : Call → Finding
  | ⟨name, args, filter, window, _⟩ => do
    return (← walk.callArgs scope (Sql.ObjectName.qualified name) args) ++
      (← walk.exprOption scope .unknown filter) ++ walk.unknowns scope (Sql.allOfList window)

def Walk.callArgs (walk : Walk) (scope : Scope) (function : QualifiedName) : CallArgs → Finding
  | .none => .ok []
  | .list args clauses => do
    return (← walk.args scope function args.length 0 args) ++ walk.unknowns scope (Sql.allOfList clauses)
  | .query query => walk.query scope query

/-- The placeholders of arguments, from the one with the given index on. -/
def Walk.args (walk : Walk) (scope : Scope) (function : QualifiedName) (count index : Nat) : List Arg → Finding
  | [] => .ok []
  | .positional value :: rest => do
    return (← walk.exprOption scope (.argument function index count) value) ++
      (← walk.args scope function count (index + 1) rest)
  | .named value :: rest => do
    return (← walk.exprOption scope (.argument function index count) value) ++
      (← walk.args scope function count (index + 1) rest)
  | .labelled _ value :: rest => do
    return (← walk.exprOption scope (.argument function index count) value) ++
      (← walk.args scope function count (index + 1) rest)

/-- The placeholders of a query. -/
def Walk.query (walk : Walk) (outer : Scope) : Sql.Query → Finding
  | ⟨recursive, ctes, body, orderBy, limit, offset, _⟩ => do
    let walk := { walk with view := ← walk.view.withCtes recursive outer ctes }
    let inCtes ← walk.ctes outer ctes
    let (inBody, scope) ← walk.body outer body
    return inCtes ++ inBody ++ (← Finding.all (walk.exprs scope (orderBy.map fun _ => .unknown) orderBy)) ++
      (← walk.exprOption scope .limit limit) ++ (← walk.exprOption scope .offset offset)

def Walk.ctes (walk : Walk) (outer : Scope) : List Cte → Finding
  | [] => .ok []
  | ⟨_, query⟩ :: rest => do return (← walk.query outer query) ++ (← walk.ctes outer rest)

/-- The placeholders of a query body, and the scope of the clauses after it. -/
def Walk.body (walk : Walk) (outer : Scope) : Body → Except Error (List Found × Scope)
  | .select select => walk.select outer select
  | .query query => do return (← walk.query outer query, outer)
  | .setOperation left right => do
    let (inLeft, _) ← walk.body outer left
    let (inRight, _) ← walk.body outer right
    return (inLeft ++ inRight, outer)
  | .values rows => do return (← walk.rows outer rows, outer)
  | .insert insert => .ok (walk.unknowns outer insert.all, outer)
  | .update update => .ok (walk.unknowns outer update.all, outer)
  | .table => .ok ([], outer)

def Walk.rows (walk : Walk) (outer : Scope) : List (List Expr) → Finding
  | [] => .ok []
  | row :: rest => do
    return (← Finding.all (walk.exprs outer (row.map fun _ => .unknown) row)) ++ (← walk.rows outer rest)

def Walk.select (walk : Walk) (outer : Scope) : Select → Except Error (List Found × Scope)
  | ⟨_, items, tables, _, selection, groupBy, _, having, _, qualify⟩ => do
    let scope := (← walk.view.frame outer {} tables) :: outer
    let found := (← walk.items scope items) ++ (← walk.fromItems outer scope tables) ++
      (← walk.exprOption scope .unknown selection) ++
      (← Finding.all (walk.exprs scope (groupBy.map fun _ => .unknown) groupBy)) ++
      (← walk.exprOption scope .unknown having) ++ (← walk.exprOption scope .unknown qualify)
    return (found, scope)

def Walk.items (walk : Walk) (scope : Scope) : List Item → Finding
  | [] => .ok []
  | .expr value :: rest => do return (← walk.expr scope .unknown value) ++ (← walk.items scope rest)
  | .aliased value _ :: rest => do return (← walk.expr scope .unknown value) ++ (← walk.items scope rest)
  | .wildcard _ :: rest => walk.items scope rest
  | .qualified _ _ :: rest => walk.items scope rest

/-- The placeholders of `FROM` items, whose join conditions see all of them. -/
def Walk.fromItems (walk : Walk) (outer scope : Scope) : List FromItem → Finding
  | [] => .ok []
  | item :: rest => do return (← walk.fromItem outer scope item) ++ (← walk.fromItems outer scope rest)

def Walk.fromItem (walk : Walk) (outer scope : Scope) : FromItem → Finding
  | ⟨relation, joins⟩ => do return (← walk.relation outer scope relation) ++ (← walk.joins outer scope joins)

def Walk.joins (walk : Walk) (outer scope : Scope) : List Join → Finding
  | [] => .ok []
  | ⟨relation, _, on, _, _⟩ :: rest => do
    return (← walk.relation outer scope relation) ++ (← walk.exprOption scope .unknown on) ++
      (← walk.joins outer scope rest)

def Walk.relation (walk : Walk) (outer scope : Scope) : Relation → Finding
  | .table _ _ _ => .ok []
  | .derived lateral query _ => walk.query (if lateral then scope else outer) query
  | .joined inner _ => walk.fromItem outer scope inner
  | .function _ operands _ => .ok (walk.unknowns scope (Sql.allOfList operands))
  | .hidden operands => .ok (walk.unknowns scope (Sql.allOfList operands))
  | .pivoted inner operands => .ok (walk.unknowns scope (inner.all ++ Sql.allOfList operands))

end

namespace Walk

/-- The placeholders of assignments to columns of a table. -/
def assignments (walk : Walk) (table : Option QualifiedName) (scope : Scope) (given : List Assignment) : Finding :=
  Finding.all (given.map fun assignment =>
    let context := match table, assignment.target.bind List.getLast? with
      | some table, some column => .target table column.value
      | _, _ => .unknown
    walk.expr scope context assignment.value)

/-- The placeholders of a row of values that are written into columns. -/
def targetRow (walk : Walk) (table : QualifiedName) (columns : List String) (row : List Expr) : Finding :=
  Finding.all (walk.exprs [] (row.mapIdx fun i _ =>
    match columns[i]? with
    | some column => .target table column
    | none => .unknown) row)

def insert (walk : Walk) (given : Sql.Insert) : Finding := do
  let table := Sql.ObjectName.qualified given.table
  let var ← walk.view.relation given.table none
  let columns := if given.columns.isEmpty then var.columns.map Column.name else given.columns.map Sql.Ident.value
  let scope := [Frame.single var]
  let inSource ← match given.source with
    | none => pure []
    | some source =>
      match source.body with
      | .values rows =>
        Finding.all (rows.mapIdx fun i row => { walk with row := some i }.targetRow table columns row)
      | _ => walk.query [] source
  return inSource ++ (← walk.assignments (some table) scope given.updates) ++
    (← walk.exprOption scope .unknown given.updateWhere) ++ (← walk.items scope given.returning)

/-- The table that an `UPDATE` changes. -/
def updated? : Relation → Option QualifiedName
  | .table name _ _ => some (Sql.ObjectName.qualified name)
  | .function name _ _ => name.map Sql.ObjectName.qualified
  | _ => none

def update (walk : Walk) (given : Sql.Update) : Finding := do
  let scope := [← walk.view.frame [] {} (given.table :: given.tables.toList)]
  return (← walk.fromItem [] scope given.table) ++
    (← walk.assignments (updated? given.table.relation) scope given.assignments) ++
    (← walk.fromItems [] scope given.tables.toList) ++ (← walk.exprOption scope .unknown given.selection) ++
    (← walk.items scope given.returning)

def delete (walk : Walk) (given : Sql.Delete) : Finding := do
  let tables := given.tables ++ given.others
  let scope := [← walk.view.frame [] {} tables]
  return (← walk.fromItems [] scope tables) ++ (← walk.exprOption scope .unknown given.selection) ++
    (← walk.items scope given.returning) ++
    (← Finding.all (walk.exprs scope (given.orderBy.map fun _ => .unknown) given.orderBy)) ++
    (← walk.exprOption scope .limit given.limit)

/-- All placeholders of a statement, in the order of the walk. -/
def statement (walk : Walk) : Statement → Finding
  | .query query => walk.query [] query
  | .insert given => walk.insert given
  | .update given => walk.update given
  | .delete given => walk.delete given
  | _ => .ok []

end Walk

/-- The walk meets `LIMIT` before `OFFSET`. Where a text has them the other way round, the two are exchanged. -/
def alignLimits : List Found → List Occurrence → List Found
  | a :: b :: rest, o :: p :: others =>
    if a.context = .limit ∧ b.context = .offset ∧ o.slot = some .offset ∧ p.slot = some .limit then
      b :: a :: alignLimits rest others
    else a :: alignLimits (b :: rest) (p :: others)
  | found, _ => found

/-- A reference to a parameter. -/
structure Reference where
  number : Nat
  /-- Byte offset from the start of the statement. -/
  location : Nat
  context : Context
  scope : Scope
  row : Option Nat
deriving Repr, DecidableEq

namespace Reference

/-- What the walk found at an occurrence with an ordinal number. A number in the spelling counts more. -/
def ofFound (found : Found) (occurrence : Occurrence) (ordinal : Nat) : Reference where
  number := found.number.getD ordinal
  location := occurrence.location
  context := found.context
  scope := found.scope
  row := found.row

/-- The references of a statement, in the order of its text. The placeholders of the tree have to be as many as those
    of the text. -/
def ofStatement (walk : Walk) (statement : Statement) (occurrences : List Occurrence) (ordinals : List Nat) :
    Except Error (List Reference) := do
  let found ← walk.statement statement
  if found.length ≠ occurrences.length then
    throw (.invalidEdit
      s!"statement has {found.length} placeholders but its text has {occurrences.length}")
  return (alignLimits found occurrences).zipWith (fun found (occurrence, ordinal) =>
    ofFound found occurrence ordinal) (occurrences.zip ordinals)

/-- The first of some references. If it says nothing about its type, the first later one that does supplies that. -/
def merge? : List Reference → Option Reference
  | [] => none
  | first :: rest =>
    if first.context = .unknown then
      match rest.find? (·.context ≠ .unknown) with
      | some other => some { first with context := other.context, scope := other.scope }
      | none => some first
    else some first

/-- One reference for each number, in ascending order. -/
def unique (references : List Reference) : List Reference :=
  let numbers := (references.map number).eraseDups.mergeSort
  numbers.filterMap fun number => merge? (references.filter (·.number = number))

end Reference

end AnnotatedSql
