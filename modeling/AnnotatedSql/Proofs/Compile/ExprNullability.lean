import AnnotatedSql.Proofs.Compile.JoinNullability
import AnnotatedSql.Proofs.Compile.Success
import AnnotatedSql.Proofs.Compile.WildcardNames

/-!
Nulls in the values of expressions. Given a row for each level of its scope, an expression takes the cells that the
three-valued logic of SQL allows it (`Sql.Expr.Yields`). An expression whose column is marked as never null takes
none that is null (`View.exprColumn_notNull_sound`), as long as the patterns, bounds and list members in it are marked
as well (`View.isGuarded`): the mark of `LIKE`, `BETWEEN` and `IN` looks at the first operand only.
-/
namespace AnnotatedSql

open Sql (Arg BinaryOp Expr Ident Literal ObjectName UnaryOp)

section Cells

variable {α : Type}

/-- The columns of a frame, each with its cell of a row. -/
def Frame.cells (frame : Frame) (row : Row α) : List (Column × Option α) :=
  (frame.vars.zip row).flatMap fun entry => entry.1.columns.zip entry.2

namespace Scope

/-- The columns of a scope, each with its cell of the row that its level is at. -/
def cells (scope : Scope) (rows : List (Row α)) : List (Column × Option α) :=
  (scope.zip rows).flatMap fun entry => entry.1.cells entry.2

/-- Rows that the levels of a scope can be at: a cell for each column, and one with a value where the column is marked
    as never null. -/
def Allows (scope : Scope) (rows : List (Row α)) : Prop :=
  List.Forall₂ (fun frame row => List.Forall₂ RangeVar.Allows frame.vars row) scope rows

/-- A reference takes the cell of the column that it means. -/
def Denotes (scope : Scope) (rows : List (Row α)) (qualifier : Option String) (name : String) (cell : Option α) :
    Prop :=
  ∃ column, scope.lookup qualifier name = .ok column ∧ (column, cell) ∈ scope.cells rows

theorem Allows.of_mem_cells {scope : Scope} {rows : List (Row α)} (hrows : scope.Allows rows) {column : Column}
    {cell : Option α} (hcell : (column, cell) ∈ scope.cells rows) : column.Allows cell := by
  obtain ⟨⟨frame, row⟩, hlevel, hcell⟩ := List.mem_flatMap.1 hcell
  have hrow := (List.forall₂_iff_zip.1 hrows).2 hlevel
  obtain ⟨⟨var, cells⟩, hvar, hcell⟩ := List.mem_flatMap.1 hcell
  have hcells := (List.forall₂_iff_zip.1 hrow).2 hvar
  exact (List.forall₂_iff_zip.1 hcells).2 hcell

theorem exists_mem_of_lookup {scope : Scope} {qualifier : Option String} {name : String} {column : Column}
    (hcolumn : scope.lookup qualifier name = .ok column) :
    ∃ frame ∈ scope, ∃ var ∈ frame.vars, column ∈ var.columns := by
  induction scope with
  | nil => cases qualifier <;> simp [lookup] at hcolumn
  | cons frame outer ih =>
    have hhere {var : RangeVar} (hvar : var ∈ frame.vars) (hfound : var.column? name = some column) :
        ∃ frame' ∈ frame :: outer, ∃ var ∈ frame'.vars, column ∈ var.columns :=
      ⟨frame, List.mem_cons_self, var, hvar, (RangeVar.mem_of_column? hfound).1⟩
    have houter (hfound : lookup qualifier name outer = .ok column) :
        ∃ frame' ∈ frame :: outer, ∃ var ∈ frame'.vars, column ∈ var.columns := by
      obtain ⟨level, hlevel, hmem⟩ := ih hfound
      exact ⟨level, List.mem_cons_of_mem _ hlevel, hmem⟩
    have hfirst {others : List Column} (hfound : frame.vars.filterMap (·.column? name) = column :: others) :
        ∃ frame' ∈ frame :: outer, ∃ var ∈ frame'.vars, column ∈ var.columns := by
      have hmem : column ∈ frame.vars.filterMap (·.column? name) := hfound ▸ List.mem_cons_self
      obtain ⟨var, hvar, hfound⟩ := List.mem_filterMap.1 hmem
      exact hhere hvar hfound
    cases qualifier with
    | some qualifier =>
      simp only [lookup] at hcolumn
      split at hcolumn
      next var hvar =>
        split at hcolumn
        next found hfound => exact hhere (List.mem_of_find?_eq_some hvar) (Except.ok.inj hcolumn ▸ hfound)
        next => cases hcolumn
      next => exact houter hcolumn
    | none =>
      simp only [lookup] at hcolumn
      split at hcolumn
      next => exact houter hcolumn
      next found hfound => exact hfirst (Except.ok.inj hcolumn ▸ hfound)
      next found others _ hfound =>
        split at hcolumn
        next => exact hfirst (Except.ok.inj hcolumn ▸ hfound)
        next => cases hcolumn

end Scope

theorem exists_mem_zip {β γ : Type} {values : List β} {others : List γ} (hlength : values.length = others.length)
    {value : β} (hvalue : value ∈ values) : ∃ other, (value, other) ∈ values.zip others := by
  rw [← List.map_fst_zip hlength.le] at hvalue
  obtain ⟨⟨value, other⟩, hmem, rfl⟩ := List.mem_map.1 hvalue
  exact ⟨other, hmem⟩

theorem Scope.Allows.exists_denotes {scope : Scope} {rows : List (Row α)} (hrows : scope.Allows rows)
    {qualifier : Option String} {name : String} (hlookup : (scope.lookup qualifier name).isOk = true) :
    ∃ cell, scope.Denotes rows qualifier name cell := by
  cases hcolumn : scope.lookup qualifier name with
  | error => simp [hcolumn, Except.isOk, Except.toBool] at hlookup
  | ok column =>
    obtain ⟨frame, hframe, var, hvar, hmem⟩ := exists_mem_of_lookup hcolumn
    obtain ⟨row, hrow⟩ := exists_mem_zip hrows.length_eq hframe
    have hvars := (List.forall₂_iff_zip.1 hrows).2 hrow
    obtain ⟨cells, hcells⟩ := exists_mem_zip hvars.length_eq hvar
    have hcolumns := (List.forall₂_iff_zip.1 hvars).2 hcells
    obtain ⟨cell, hcell⟩ := exists_mem_zip hcolumns.length_eq hmem
    exact ⟨cell, column, hcolumn,
      List.mem_flatMap.2 ⟨_, hrow, List.mem_flatMap.2 ⟨_, hcells, hcell⟩⟩⟩

end Cells

/-- The truth values among the values of a database. -/
structure Truth (α : Type) where
  holds : α → Bool
  value : Bool → α
  holds_value : ∀ answer, holds (value answer) = answer

/-- Conjunction of truth values, a missing one being unknown. -/
def conj : Option Bool → Option Bool → Option Bool
  | some true, right => right
  | some false, _ => some false
  | none, some false => some false
  | none, _ => none

def disj (left right : Option Bool) : Option Bool :=
  (conj (left.map not) (right.map not)).map not

theorem conj_ne_none {left right : Option Bool} (hleft : left ≠ none) (hright : right ≠ none) :
    conj left right ≠ none := by
  cases left with
  | none => exact absurd rfl hleft
  | some left => cases left <;> simp [conj, hright]

theorem disj_ne_none {left right : Option Bool} (hleft : left ≠ none) (hright : right ≠ none) :
    disj left right ≠ none := by
  have hconj : conj (left.map not) (right.map not) ≠ none := conj_ne_none (by simpa) (by simpa)
  simpa [disj] using hconj

section Values

variable {α : Type}

/-- An answer about two cells. It is unknown exactly if one of them is null. -/
def Compares (left right : Option α) (answer : Option Bool) : Prop :=
  answer = none ↔ left = none ∨ right = none

theorem Compares.ne_none {left right : Option α} {answer : Option Bool} (hanswer : Compares left right answer)
    (hleft : left ≠ none) (hright : right ≠ none) : answer ≠ none :=
  fun h => (hanswer.1 h).elim hleft hright

theorem foldr_disj_ne_none {value : Option α} {cells : List (Option α)} {answers : List (Option Bool)}
    (hanswers : List.Forall₂ (Compares value) cells answers) (hvalue : value ≠ none)
    (hcells : ∀ cell ∈ cells, cell ≠ none) : answers.foldr disj (some false) ≠ none := by
  induction hanswers with
  | nil => exact Option.some_ne_none _
  | cons hanswer _ ih =>
    obtain ⟨hcell, hcells⟩ := List.forall_mem_cons.1 hcells
    exact disj_ne_none (hanswer.ne_none hvalue hcell) (ih hcells)

theorem exists_compares (left right : Option α) : ∃ answer, Compares left right answer := by
  by_cases h : left = none ∨ right = none
  · exact ⟨none, by simp [Compares, h]⟩
  · exact ⟨some true, by simp [Compares, h]⟩

namespace Truth

variable (truth : Truth α)

/-- A form gives an answer, or with `NOT` the opposite one. -/
def Gives (answer : Option Bool) (cell : Option α) : Prop :=
  cell = answer.map truth.value ∨ cell = (answer.map not).map truth.value

/-- Whether `CASE` takes a branch: its condition holds, or equals the operand if there is one. -/
def Takes (operand : Option (Option α)) (condition : Option α) (taken : Bool) : Prop :=
  match operand with
  | none => taken = (condition.map truth.holds == some true)
  | some operand => ∃ answer, Compares operand condition answer ∧ taken = (answer == some true)

theorem Gives.ne_none {truth : Truth α} {answer : Option Bool} {cell : Option α} (hcell : truth.Gives answer cell)
    (hanswer : answer ≠ none) : cell ≠ none := by
  obtain rfl | rfl := hcell <;> simpa using hanswer

theorem exists_takes (operand : Option (Option α)) (condition : Option α) :
    ∃ taken, truth.Takes operand condition taken := by
  cases operand with
  | none => exact ⟨_, rfl⟩
  | some operand =>
    obtain ⟨answer, hanswer⟩ := exists_compares operand condition
    exact ⟨_, answer, hanswer, rfl⟩

end Truth

/-- The cell of the first branch that is taken, or else the last one. -/
def choose : List Bool → List (Option α) → Option α → Option α
  | true :: _, cell :: _, _ => cell
  | false :: taken, _ :: cells, last => choose taken cells last
  | _, _, last => last

theorem choose_mem (taken : List Bool) (cells : List (Option α)) (last : Option α) :
    choose taken cells last ∈ cells ++ [last] := by
  fun_induction choose taken cells last with
  | case1 => simp
  | case2 taken cell cells last ih => simp only [List.cons_append, List.mem_cons, ih, or_true]
  | case3 => simp

/-- The cells of a literal. A placeholder stands for any. -/
def Sql.Literal.Yields (cell : Option α) : Literal → Prop
  | .null => cell = none
  | .placeholder _ => True
  | .number _ | .text _ _ | .boolean => cell ≠ none

/-- The cells of an operator between two cells. -/
def Sql.BinaryOp.Yields (truth : Truth α) (left right cell : Option α) : BinaryOp → Prop
  | .and => cell = (conj (left.map truth.holds) (right.map truth.holds)).map truth.value
  | .or => cell = (disj (left.map truth.holds) (right.map truth.holds)).map truth.value
  | .comparison => ∃ answer, Compares left right answer ∧ truth.Gives answer cell
  | .nullSafe => ∃ answer, cell = some (truth.value answer)
  | .arithmetic => cell = none ↔ left = none ∨ right = none
  | .xor | .concat | .division | .other => False

def Sql.UnaryOp.Yields (truth : Truth α) (operand cell : Option α) : UnaryOp → Prop
  | .not => cell = ((operand.map truth.holds).map Bool.not).map truth.value
  | .abs | .other => cell = none ↔ operand = none

theorem Sql.BinaryOp.Yields.ne_none {truth : Truth α} {left right cell : Option α} {op : BinaryOp}
    (hcell : op.Yields truth left right cell) (hleft : left ≠ none) (hright : right ≠ none) : cell ≠ none := by
  cases op with
  | and => rw [hcell, ne_eq, Option.map_eq_none_iff]; exact conj_ne_none (by simpa) (by simpa)
  | or => rw [hcell, ne_eq, Option.map_eq_none_iff]; exact disj_ne_none (by simpa) (by simpa)
  | comparison =>
    obtain ⟨answer, hanswer, hcell⟩ := hcell
    exact hcell.ne_none (hanswer.ne_none hleft hright)
  | nullSafe =>
    obtain ⟨answer, rfl⟩ := hcell
    exact Option.some_ne_none _
  | arithmetic => exact fun h => (hcell.1 h).elim hleft hright
  | xor | concat | division | other => exact hcell.elim

theorem Sql.UnaryOp.Yields.ne_none {truth : Truth α} {operand cell : Option α} {op : UnaryOp}
    (hcell : op.Yields truth operand cell) (hoperand : operand ≠ none) : cell ≠ none := by
  cases op with
  | not => rw [hcell]; simpa using hoperand
  | abs | other => exact fun h => hoperand (hcell.1 h)

/-- A function that gives the first of its arguments that is not null. -/
def Sql.Ident.isCoalesce (name : Ident) : Bool :=
  Text.toLower name.value == "coalesce" || Text.toLower name.value == "ifnull"

/-- A plain call with unnamed arguments. -/
def Sql.Expr.plainCall (name : Ident) (values : List Expr) : Expr :=
  .call ⟨[name], .list (values.map fun value => .positional (some value)) [], none, [], []⟩

variable (truth : Truth α) (scope : Scope) (rows : List (Row α))

/-- The cells that an expression takes over rows for the levels of its scope. -/
inductive Sql.Expr.Yields : Expr → Option α → Prop where
  | ident {name : Ident} {cell : Option α} : scope.Denotes rows none name.value cell → Yields (.ident name) cell
  | path {parts : ObjectName} {cell : Option α} :
      scope.Denotes rows (ObjectName.column parts).1 (ObjectName.column parts).2 cell →
      Yields (.path parts) cell
  | literal {value : Literal} {cell : Option α} : value.Yields cell → Yields (.literal value) cell
  | nested {inner : Expr} {cell : Option α} :
      Yields inner cell → Yields (.nested inner) cell
  | binary {left right : Expr} {op : BinaryOp} {first second cell : Option α} :
      Yields left first → Yields right second → op.Yields truth first second cell →
      Yields (.binary left op right) cell
  | unary {operand : Expr} {op : UnaryOp} {value cell : Option α} :
      Yields operand value → op.Yields truth value cell →
      Yields (.unary op operand) cell
  | test {operand : Expr} {value : Option α} (answer : Bool) :
      Yields operand value → Yields (.test operand) (some (truth.value answer))
  | like {operand pattern : Expr} {value other cell : Option α} {answer : Option Bool} :
      Yields operand value → Yields pattern other →
      Compares value other answer → truth.Gives answer cell → Yields (.like operand pattern) cell
  | between {operand low high : Expr} {value least most cell : Option α} {above below : Option Bool} :
      Yields operand value → Yields low least → Yields high most →
      Compares value least above → Compares value most below → truth.Gives (conj above below) cell →
      Yields (.between operand low high) cell
  | inList {operand : Expr} {items : List Expr} {value cell : Option α} {cells : List (Option α)}
      {answers : List (Option Bool)} :
      Yields operand value → items.length = cells.length →
      (∀ entry ∈ items.zip cells, Yields entry.1 entry.2) →
      List.Forall₂ (Compares value) cells answers → truth.Gives (answers.foldr disj (some false)) cell →
      Yields (.inList operand items) cell
  | case {operand otherwise : Option Expr} {conditions results : List Expr} {value last : Option α}
      {checks cells : List (Option α)} {taken : List Bool} :
      (∀ inner ∈ operand, Yields inner value) → conditions.length = checks.length →
      (∀ entry ∈ conditions.zip checks, Yields entry.1 entry.2) →
      List.Forall₂ (truth.Takes (operand.map fun _ => value)) checks taken → results.length = cells.length →
      (∀ entry ∈ results.zip cells, Yields entry.1 entry.2) →
      (∀ inner ∈ otherwise, Yields inner last) → (otherwise = none → last = none) →
      Yields (.case operand conditions results otherwise) (choose taken cells last)
  | coalesce {name : Ident} {values : List Expr} {cells : List (Option α)} :
      name.isCoalesce = true → values.length = cells.length →
      (∀ entry ∈ values.zip cells, Yields entry.1 entry.2) →
      Yields (.plainCall name values) (cells.findSome? id)

end Values

/-- Expressions with a value: built from literals, from references that mean a column, and by the forms above. -/
inductive Sql.Expr.Scalar (scope : Scope) : Expr → Prop where
  | ident {name : Ident} : (scope.lookup none name.value).isOk = true → Scalar scope (.ident name)
  | path {parts : ObjectName} :
      (scope.lookup (ObjectName.column parts).1 (ObjectName.column parts).2).isOk = true → Scalar scope (.path parts)
  | literal (value : Literal) : Scalar scope (.literal value)
  | nested {inner : Expr} : Scalar scope inner → Scalar scope (.nested inner)
  | binary {left right : Expr} {op : BinaryOp} :
      op ∈ [.and, .or, .comparison, .nullSafe, .arithmetic] → Scalar scope left → Scalar scope right →
      Scalar scope (.binary left op right)
  | unary {operand : Expr} (op : UnaryOp) : Scalar scope operand → Scalar scope (.unary op operand)
  | test {operand : Expr} : Scalar scope operand → Scalar scope (.test operand)
  | like {operand pattern : Expr} : Scalar scope operand → Scalar scope pattern → Scalar scope (.like operand pattern)
  | between {operand low high : Expr} :
      Scalar scope operand → Scalar scope low → Scalar scope high → Scalar scope (.between operand low high)
  | inList {operand : Expr} {items : List Expr} :
      Scalar scope operand → (∀ item ∈ items, Scalar scope item) → Scalar scope (.inList operand items)
  | case {operand otherwise : Option Expr} {conditions results : List Expr} :
      (∀ inner ∈ operand, Scalar scope inner) → (∀ condition ∈ conditions, Scalar scope condition) →
      (∀ result ∈ results, Scalar scope result) → (∀ inner ∈ otherwise, Scalar scope inner) →
      Scalar scope (.case operand conditions results otherwise)
  | coalesce {name : Ident} {values : List Expr} :
      name.isCoalesce = true → (∀ value ∈ values, Scalar scope value) → Scalar scope (.plainCall name values)

section Total

variable {α : Type}

theorem Sql.Literal.exists_yields (truth : Truth α) (value : Literal) : ∃ cell : Option α, value.Yields cell := by
  cases value with
  | null => exact ⟨none, rfl⟩
  | placeholder => exact ⟨none, trivial⟩
  | number | text | boolean => exact ⟨some (truth.value true), Option.some_ne_none _⟩

theorem Sql.BinaryOp.exists_yields (truth : Truth α) {op : BinaryOp}
    (hop : op ∈ [.and, .or, .comparison, .nullSafe, .arithmetic]) (left right : Option α) :
    ∃ cell, op.Yields truth left right cell := by
  cases op with
  | and | or => exact ⟨_, rfl⟩
  | comparison =>
    obtain ⟨answer, hanswer⟩ := exists_compares left right
    exact ⟨_, answer, hanswer, .inl rfl⟩
  | nullSafe => exact ⟨_, true, rfl⟩
  | arithmetic =>
    by_cases h : left = none ∨ right = none
    · exact ⟨none, by simp [Yields, h]⟩
    · exact ⟨some (truth.value true), by simp [Yields, h]⟩
  | xor | concat | division | other => simp at hop

theorem Sql.UnaryOp.exists_yields (truth : Truth α) (op : UnaryOp) (operand : Option α) :
    ∃ cell, op.Yields truth operand cell := by
  cases op with
  | not => exact ⟨_, rfl⟩
  | abs | other => exact ⟨operand, Iff.rfl⟩

theorem exists_forall₂ {β γ : Type} {R : β → γ → Prop} {values : List β}
    (h : ∀ value ∈ values, ∃ other, R value other) : ∃ others, List.Forall₂ R values others := by
  induction values with
  | nil => exact ⟨[], .nil⟩
  | cons value values ih =>
    obtain ⟨other, hother⟩ := h value List.mem_cons_self
    obtain ⟨others, hothers⟩ := ih fun value hvalue => h value (List.mem_cons_of_mem _ hvalue)
    exact ⟨other :: others, .cons hother hothers⟩

variable {truth : Truth α} {scope : Scope} {rows : List (Row α)}

theorem Sql.Expr.exists_yields_all {values : List Expr}
    (hvalues : ∀ value ∈ values, ∃ cell, value.Yields truth scope rows cell) :
    ∃ cells : List (Option α), values.length = cells.length ∧
      ∀ entry ∈ values.zip cells, entry.1.Yields truth scope rows entry.2 := by
  obtain ⟨cells, hcells⟩ := exists_forall₂ hvalues
  obtain ⟨hlength, hzip⟩ := List.forall₂_iff_zip.1 hcells
  exact ⟨cells, hlength, fun entry hentry => hzip hentry⟩

theorem Sql.Expr.exists_yields_option {value : Option Expr}
    (hvalue : ∀ inner ∈ value, ∃ cell, inner.Yields truth scope rows cell) :
    ∃ cell : Option α, (∀ inner ∈ value, inner.Yields truth scope rows cell) ∧ (value = none → cell = none) := by
  cases value with
  | none => exact ⟨none, by simp⟩
  | some inner =>
    obtain ⟨cell, hcell⟩ := hvalue inner rfl
    exact ⟨cell, by simpa using hcell⟩

/-- Expressions built from the forms above take a cell over all rows that their scope allows. -/
theorem Sql.Expr.Scalar.exists_yields {value : Expr} (hvalue : value.Scalar scope) (hrows : scope.Allows rows) :
    ∃ cell, value.Yields truth scope rows cell := by
  induction hvalue with
  | ident hlookup =>
    obtain ⟨cell, hcell⟩ := hrows.exists_denotes hlookup
    exact ⟨cell, .ident hcell⟩
  | path hlookup =>
    obtain ⟨cell, hcell⟩ := hrows.exists_denotes hlookup
    exact ⟨cell, .path hcell⟩
  | literal value =>
    obtain ⟨cell, hcell⟩ := value.exists_yields truth
    exact ⟨cell, .literal hcell⟩
  | nested _ ih =>
    obtain ⟨cell, hcell⟩ := ih
    exact ⟨cell, .nested hcell⟩
  | binary hop _ _ hleft hright =>
    obtain ⟨first, hfirst⟩ := hleft
    obtain ⟨second, hsecond⟩ := hright
    obtain ⟨cell, hcell⟩ := BinaryOp.exists_yields truth hop first second
    exact ⟨cell, .binary hfirst hsecond hcell⟩
  | unary op _ ih =>
    obtain ⟨operand, hoperand⟩ := ih
    obtain ⟨cell, hcell⟩ := op.exists_yields truth operand
    exact ⟨cell, .unary hoperand hcell⟩
  | test _ ih =>
    obtain ⟨operand, hoperand⟩ := ih
    exact ⟨_, .test true hoperand⟩
  | like _ _ hoperand hpattern =>
    obtain ⟨operand, hoperand⟩ := hoperand
    obtain ⟨pattern, hpattern⟩ := hpattern
    obtain ⟨answer, hanswer⟩ := exists_compares operand pattern
    exact ⟨_, .like hoperand hpattern hanswer (.inl rfl)⟩
  | between _ _ _ hoperand hlow hhigh =>
    obtain ⟨operand, hoperand⟩ := hoperand
    obtain ⟨low, hlow⟩ := hlow
    obtain ⟨high, hhigh⟩ := hhigh
    obtain ⟨above, habove⟩ := exists_compares operand low
    obtain ⟨below, hbelow⟩ := exists_compares operand high
    exact ⟨_, .between hoperand hlow hhigh habove hbelow (.inl rfl)⟩
  | inList _ _ hoperand hitems =>
    obtain ⟨operand, hoperand⟩ := hoperand
    obtain ⟨cells, hlength, hcells⟩ := exists_yields_all hitems
    obtain ⟨answers, hanswers⟩ := exists_forall₂ fun cell (_ : cell ∈ cells) => exists_compares operand cell
    exact ⟨_, .inList hoperand hlength hcells hanswers (.inl rfl)⟩
  | @case operand _ _ _ _ _ _ _ hoperand hconditions hresults hotherwise =>
    obtain ⟨subject, hsubject, -⟩ := exists_yields_option hoperand
    obtain ⟨checks, hlength, hchecks⟩ := exists_yields_all hconditions
    obtain ⟨cells, hwidth, hcells⟩ := exists_yields_all hresults
    obtain ⟨last, hlast, hmissing⟩ := exists_yields_option hotherwise
    obtain ⟨taken, htaken⟩ := exists_forall₂ fun check (_ : check ∈ checks) =>
      truth.exists_takes (operand.map fun _ => subject) check
    exact ⟨_, .case hsubject hlength hchecks htaken hwidth hcells hlast hmissing⟩
  | coalesce hname _ hvalues =>
    obtain ⟨cells, hlength, hcells⟩ := exists_yields_all hvalues
    exact ⟨_, .coalesce hname hlength hcells⟩

end Total

namespace View

/-- Whether the column of an expression is marked as never null. -/
def isNotNull (view : View) (scope : Scope) (value : Expr) : Bool :=
  match view.exprColumn scope value with
  | .ok column => column.notNull
  | .error _ => false

/-- Whether operands that the mark of a form does not look at are marked wherever the form is. -/
def isCovered (view : View) (scope : Scope) (operand : Expr) (others : List Expr) : Bool :=
  !view.isNotNull scope operand || others.all (view.isNotNull scope)

mutual

/-- Whether in all of an expression that its cell depends on, the patterns, bounds and list members are marked where
    the operand before them is. -/
def isGuarded (view : View) (scope : Scope) : Expr → Bool
  | .nested inner => view.isGuarded scope inner
  | .unary _ operand => view.isGuarded scope operand
  | .binary left _ right => view.isGuarded scope left && view.isGuarded scope right
  | .like operand pattern =>
    view.isGuarded scope operand && view.isGuarded scope pattern && view.isCovered scope operand [pattern]
  | .between operand low high =>
    view.isGuarded scope operand && view.isGuarded scope low && view.isGuarded scope high &&
      view.isCovered scope operand [low, high]
  | .inList operand items =>
    view.isGuarded scope operand && view.areGuarded scope items && view.isCovered scope operand items
  | .case _ _ results none => view.areGuarded scope results
  | .case _ _ results (some otherwise) => view.areGuarded scope results && view.isGuarded scope otherwise
  | .call ⟨_, .list args _, _, _, _⟩ => view.argsGuarded scope args
  | _ => true

def areGuarded (view : View) (scope : Scope) : List Expr → Bool
  | [] => true
  | value :: rest => view.isGuarded scope value && view.areGuarded scope rest

def argsGuarded (view : View) (scope : Scope) : List Arg → Bool
  | [] => true
  | .positional (some value) :: rest => view.isGuarded scope value && view.argsGuarded scope rest
  | _ :: rest => view.argsGuarded scope rest

end

variable {view : View} {scope : Scope}

theorem isNotNull_iff {value : Expr} :
    view.isNotNull scope value = true ↔ ∃ column, view.exprColumn scope value = .ok column ∧ column.notNull = true := by
  rw [isNotNull]
  cases view.exprColumn scope value <;> simp

theorem areGuarded_eq_all (values : List Expr) : view.areGuarded scope values = values.all (view.isGuarded scope) := by
  induction values with
  | nil => rfl
  | cons value rest ih => rw [areGuarded, ih, List.all_cons]

theorem argsGuarded_positional (values : List Expr) :
    view.argsGuarded scope (values.map fun value => .positional (some value)) =
      values.all (view.isGuarded scope) := by
  induction values with
  | nil => rfl
  | cons value rest ih => rw [List.map_cons, argsGuarded, ih, List.all_cons]

theorem exprColumns_eq_mapM (values : List Expr) :
    view.exprColumns scope values = values.mapM (view.exprColumn scope) := by
  induction values with
  | nil => rfl
  | cons value rest ih => rw [exprColumns, ih, List.mapM_cons]

theorem argColumns_positional (values : List Expr) :
    view.argColumns scope (values.map fun value => .positional (some value)) =
      values.mapM (view.exprColumn scope) := by
  induction values with
  | nil => rfl
  | cons value rest ih => rw [List.map_cons, argColumns, ih, List.mapM_cons]

theorem map_isNotNull {values : List Expr} {columns : List Column}
    (hcolumns : values.mapM (view.exprColumn scope) = .ok columns) :
    values.map (view.isNotNull scope) = columns.map Column.notNull := by
  replace hcolumns := forall₂_of_mapM_eq_ok hcolumns
  induction hcolumns with
  | nil => rfl
  | cons hcolumn _ ih => rw [List.map_cons, List.map_cons, ih, isNotNull, hcolumn]

/-- A form whose column has the mark of that of an operand. -/
theorem isNotNull_of_operand {value operand : Expr} {f : Column → Column}
    (hvalue : view.exprColumn scope value = (do return f (← view.exprColumn scope operand)))
    (hmark : ∀ column, (f column).notNull = column.notNull) :
    view.isNotNull scope value = view.isNotNull scope operand := by
  rw [isNotNull, hvalue, isNotNull]
  cases view.exprColumn scope operand with
  | error => rfl
  | ok column => exact hmark column

theorem isNotNull_like (operand pattern : Expr) :
    view.isNotNull scope (.like operand pattern) = view.isNotNull scope operand :=
  isNotNull_of_operand rfl fun _ => rfl

theorem isNotNull_between (operand low high : Expr) :
    view.isNotNull scope (.between operand low high) = view.isNotNull scope operand :=
  isNotNull_of_operand rfl fun _ => rfl

theorem isNotNull_inList (operand : Expr) (items : List Expr) :
    view.isNotNull scope (.inList operand items) = view.isNotNull scope operand :=
  isNotNull_of_operand rfl fun _ => rfl

theorem isNotNull_unary (op : UnaryOp) (operand : Expr) :
    view.isNotNull scope (.unary op operand) = view.isNotNull scope operand := by
  cases op <;> exact isNotNull_of_operand rfl fun _ => rfl

theorem isNotNull_of_binary {left right : Expr} {op : BinaryOp}
    (h : view.isNotNull scope (.binary left op right) = true) :
    view.isNotNull scope left = true ∧ view.isNotNull scope right = true := by
  obtain ⟨column, hcolumn, hnotNull⟩ := isNotNull_iff.1 h
  obtain ⟨first, hfirst, hcolumn⟩ := bind_eq_ok.1 hcolumn
  obtain ⟨second, hsecond, hcolumn⟩ := bind_eq_ok.1 hcolumn
  obtain rfl := Except.ok.inj hcolumn
  have hboth : first.notNull = true ∧ second.notNull = true := by
    cases op with
    | other => cases hnotNull
    | _ => exact Bool.and_eq_true_iff.1 hnotNull
  exact ⟨isNotNull_iff.2 ⟨first, hfirst, hboth.1⟩, isNotNull_iff.2 ⟨second, hsecond, hboth.2⟩⟩

theorem isNotNull_of_case {operand otherwise : Option Expr} {conditions results : List Expr}
    (h : view.isNotNull scope (.case operand conditions results otherwise) = true) :
    (∀ result ∈ results, view.isNotNull scope result = true) ∧
      ∃ last, otherwise = some last ∧ view.isNotNull scope last = true := by
  obtain ⟨column, hcolumn, hnotNull⟩ := isNotNull_iff.1 h
  cases otherwise with
  | none =>
    obtain ⟨columns, -, hcolumn⟩ := bind_eq_ok.1 hcolumn
    obtain rfl := Except.ok.inj hcolumn
    simp [caseColumn, Column.withTypeOf, Column.ofType] at hnotNull
  | some last =>
    obtain ⟨columns, hcolumns, hcolumn⟩ := bind_eq_ok.1 hcolumn
    rw [exprColumns_eq_mapM] at hcolumns
    obtain ⟨final, hfinal, hcolumn⟩ := bind_eq_ok.1 hcolumn
    obtain rfl := Except.ok.inj hcolumn
    simp only [caseColumn, Column.withTypeOf, Column.ofType, Option.toList_some, List.all_append, List.all_cons,
      List.all_nil, Bool.and_true, Option.isSome_some, Bool.true_and, Bool.and_eq_true, List.all_eq_true] at hnotNull
    refine ⟨?_, last, rfl, isNotNull_iff.2 ⟨final, hfinal, hnotNull.2⟩⟩
    have hmarks : ∀ mark ∈ columns.map Column.notNull, mark = true := List.forall_mem_map.2 hnotNull.1
    rw [← map_isNotNull hcolumns] at hmarks
    exact List.forall_mem_map.1 hmarks

theorem notNull_callColumn_coalesce {name : QualifiedName} (count : Nat) (args : List Column)
    (hname : Text.toLower name.name = "coalesce" ∨ Text.toLower name.name = "ifnull") :
    (view.callColumn name count args).notNull = args.any Column.notNull := by
  unfold callColumn
  obtain hname | hname := hname
  all_goals
    rw [hname]
    rfl

theorem isNotNull_of_coalesce {name : Ident} {values : List Expr} (hname : name.isCoalesce = true)
    (h : view.isNotNull scope (.plainCall name values) = true) :
    ∃ value ∈ values, view.isNotNull scope value = true := by
  obtain ⟨column, hcolumn, hnotNull⟩ := isNotNull_iff.1 h
  obtain ⟨columns, hcolumns, hcolumn⟩ := bind_eq_ok.1 hcolumn
  rw [argColumns_positional] at hcolumns
  obtain rfl := Except.ok.inj hcolumn
  have hany : columns.any Column.notNull = true := by
    rw [notNull_callColumn_coalesce] at hnotNull
    · exact hnotNull
    · simpa [Sql.Ident.isCoalesce, ObjectName.qualified] using hname
  obtain ⟨column, hcolumn, hmark⟩ := List.any_eq_true.1 hany
  have hmarks : true ∈ columns.map Column.notNull := List.mem_map.2 ⟨column, hcolumn, hmark⟩
  rw [← map_isNotNull hcolumns] at hmarks
  exact List.mem_map.1 hmarks

variable {α : Type} {truth : Truth α} {rows : List (Row α)}

theorem isNotNull_of_isCovered {operand : Expr} {others : List Expr}
    (hcovered : view.isCovered scope operand others = true) (hoperand : view.isNotNull scope operand = true)
    {other : Expr} (hother : other ∈ others) : view.isNotNull scope other = true := by
  rw [isCovered, hoperand, Bool.not_true, Bool.false_or, List.all_eq_true] at hcovered
  exact hcovered other hother

theorem ne_none_of_zip {values : List Expr} {cells : List (Option α)} (hlength : values.length = cells.length)
    (hzip : ∀ entry ∈ values.zip cells,
      view.isNotNull scope entry.1 = true → view.isGuarded scope entry.1 = true → entry.2 ≠ none)
    (hmarks : ∀ value ∈ values, view.isNotNull scope value = true)
    (hguards : ∀ value ∈ values, view.isGuarded scope value = true) : ∀ cell ∈ cells, cell ≠ none := by
  rw [← List.map_snd_zip hlength.ge, List.forall_mem_map]
  intro entry hentry
  have hvalue : entry.1 ∈ values := (List.of_mem_zip hentry).1
  exact hzip entry hentry (hmarks entry.1 hvalue) (hguards entry.1 hvalue)

/-- A marked expression is never null, by induction on how it takes its cell: each form passes the mark on to those
    operands whose nulls it passes on. -/
theorem ne_none_of_yields (hrows : scope.Allows rows) {value : Expr} {cell : Option α}
    (hcell : value.Yields truth scope rows cell) (hmark : view.isNotNull scope value = true)
    (hguard : view.isGuarded scope value = true) : cell ≠ none := by
  induction hcell with
  | ident hcell =>
    obtain ⟨column, hlookup, hmem⟩ := hcell
    obtain ⟨found, hfound, hnotNull⟩ := isNotNull_iff.1 hmark
    obtain rfl := Except.ok.inj (hlookup.symm.trans hfound)
    exact hrows.of_mem_cells hmem hnotNull
  | path hcell =>
    obtain ⟨column, hlookup, hmem⟩ := hcell
    obtain ⟨found, hfound, hnotNull⟩ := isNotNull_iff.1 hmark
    obtain rfl := Except.ok.inj (hlookup.symm.trans hfound)
    exact hrows.of_mem_cells hmem hnotNull
  | @literal value cell hcell =>
    cases value with
    | null | placeholder => cases hmark
    | number | text | boolean => exact hcell
  | nested _ ih => exact ih hmark hguard
  | binary _ _ hcell hleft hright =>
    obtain ⟨hleftMark, hrightMark⟩ := isNotNull_of_binary hmark
    rw [isGuarded, Bool.and_eq_true] at hguard
    exact hcell.ne_none (hleft hleftMark hguard.1) (hright hrightMark hguard.2)
  | unary _ hcell ih =>
    rw [isNotNull_unary] at hmark
    exact hcell.ne_none (ih hmark hguard)
  | test => exact Option.some_ne_none _
  | like _ _ hanswer hcell hoperand hpattern =>
    rw [isNotNull_like] at hmark
    simp only [isGuarded, Bool.and_eq_true] at hguard
    obtain ⟨⟨hoperandGuard, hpatternGuard⟩, hcovered⟩ := hguard
    have hpatternMark := isNotNull_of_isCovered hcovered hmark List.mem_cons_self
    exact hcell.ne_none (hanswer.ne_none (hoperand hmark hoperandGuard) (hpattern hpatternMark hpatternGuard))
  | between _ _ _ habove hbelow hcell hoperand hlow hhigh =>
    rw [isNotNull_between] at hmark
    simp only [isGuarded, Bool.and_eq_true] at hguard
    obtain ⟨⟨⟨hoperandGuard, hlowGuard⟩, hhighGuard⟩, hcovered⟩ := hguard
    have hlowMark := isNotNull_of_isCovered hcovered hmark List.mem_cons_self
    have hhighMark := isNotNull_of_isCovered hcovered hmark (List.mem_cons_of_mem _ List.mem_cons_self)
    have hvalue := hoperand hmark hoperandGuard
    exact hcell.ne_none (conj_ne_none (habove.ne_none hvalue (hlow hlowMark hlowGuard))
      (hbelow.ne_none hvalue (hhigh hhighMark hhighGuard)))
  | inList _ hlength _ hanswers hcell hoperand hitems =>
    rw [isNotNull_inList] at hmark
    simp only [isGuarded, areGuarded_eq_all, Bool.and_eq_true, List.all_eq_true] at hguard
    obtain ⟨⟨hoperandGuard, hitemsGuard⟩, hcovered⟩ := hguard
    have hcells := ne_none_of_zip hlength hitems (fun _ => isNotNull_of_isCovered hcovered hmark) hitemsGuard
    exact hcell.ne_none (foldr_disj_ne_none hanswers (hoperand hmark hoperandGuard) hcells)
  | case _ _ _ _ hlength _ _ _ _ _ hresults hlast =>
    obtain ⟨hresultsMark, inner, rfl, hinnerMark⟩ := isNotNull_of_case hmark
    simp only [isGuarded, areGuarded_eq_all, Bool.and_eq_true, List.all_eq_true] at hguard
    have hcells := ne_none_of_zip hlength hresults hresultsMark hguard.1
    -- the branch taken is one of the results or the last one, and none of these is null
    obtain hchosen | hchosen := List.mem_append.1 (choose_mem _ _ _)
    · exact hcells _ hchosen
    · rw [List.mem_singleton.1 hchosen]
      exact hlast inner rfl hinnerMark hguard.2
  | coalesce hname hlength _ hvalues =>
    obtain ⟨value, hvalue, hmark⟩ := isNotNull_of_coalesce hname hmark
    rw [Sql.Expr.plainCall, isGuarded, argsGuarded_positional, List.all_eq_true] at hguard
    obtain ⟨cell, hcell⟩ := exists_mem_zip hlength hvalue
    intro hnone
    have hnull : cell = none := List.findSome?_eq_none_iff.1 hnone cell (List.of_mem_zip hcell).2
    exact hvalues _ hcell hmark (hguard value hvalue) hnull

/-- An expression whose column is marked as never null takes a cell, and none that is null, if the patterns, bounds
    and list members in it are marked as well. -/
theorem exprColumn_notNull_sound (truth : Truth α) {value : Expr} {column : Column}
    (hcolumn : view.exprColumn scope value = .ok column) (hnotNull : column.notNull = true)
    (hguard : view.isGuarded scope value = true) (hrows : scope.Allows rows) :
    (value.Scalar scope → ∃ cell, value.Yields truth scope rows cell) ∧
      ∀ cell, value.Yields truth scope rows cell → cell ≠ none := by
  have hmark : view.isNotNull scope value = true := isNotNull_iff.2 ⟨column, hcolumn, hnotNull⟩
  exact ⟨fun hvalue => hvalue.exists_yields hrows, fun cell hcell => ne_none_of_yields hrows hcell hmark hguard⟩

/-- Numbers as truth values, zero being false. -/
def numericTruth : Truth Int where
  holds number := number != 0
  value answer := if answer then 1 else 0
  holds_value := by decide

/-- Users who have an id, and perhaps a name. -/
def userScope : Scope :=
  [.single ⟨"users", none, [.ofType "id" .integer true, .ofType "name" .text false]⟩]

def unnamedUser : List (Row Int) :=
  [[[some 7, none]]]

/-- `CASE WHEN name IS NULL THEN id BETWEEN 1 AND 9 ELSE COALESCE(name, 'x') LIKE 'y' END` -/
def numberedOrNamed : Expr :=
  .case none [.test (.ident { value := "name" })]
    [.between (.ident { value := "id" }) (.literal (.number "1")) (.literal (.number "9"))]
    (some (.like (.plainCall { value := "COALESCE" } [.ident { value := "name" }, .literal (.text .single "x")])
      (.literal (.text .single "y"))))

theorem scalar_numberedOrNamed : numberedOrNamed.Scalar userScope := by
  have hid : Expr.Scalar userScope (.ident { value := "id" }) := .ident (by decide)
  have hname : Expr.Scalar userScope (.ident { value := "name" }) := .ident (by decide)
  refine .case (by simp) (by simpa using .test hname) (by simpa using .between hid (.literal _) (.literal _)) ?_
  simpa using .like (.coalesce (by decide) (by simpa using ⟨hname, .literal _⟩)) (.literal _)

theorem exprColumn_notNull_sound_numberedOrNamed :
    namedUsers.exprColumn userScope numberedOrNamed = .ok (.ofType "" .boolean true) ∧
      namedUsers.isGuarded userScope numberedOrNamed = true ∧ userScope.Allows unnamedUser ∧
      (∃ cell, numberedOrNamed.Yields numericTruth userScope unnamedUser cell) ∧
      ∀ cell, numberedOrNamed.Yields numericTruth userScope unnamedUser cell → cell ≠ none := by
  have hcolumn : namedUsers.exprColumn userScope numberedOrNamed = .ok (.ofType "" .boolean true) := by
    decide
  have hguard : namedUsers.isGuarded userScope numberedOrNamed = true := by decide
  have hrows : userScope.Allows unnamedUser := by
    simp [Scope.Allows, userScope, unnamedUser, Frame.single, RangeVar.Allows, Column.Allows, Column.ofType]
  obtain ⟨hcell, hcells⟩ := exprColumn_notNull_sound numericTruth hcolumn rfl hguard hrows
  exact ⟨hcolumn, hguard, hrows, hcell scalar_numberedOrNamed, hcells⟩

/-- `'a' LIKE NULL`, `'a' BETWEEN NULL AND NULL` and `'a' IN (NULL)` -/
def nullOperands : List Expr :=
  let letter := .literal (.text .single "a")
  let null := .literal .null
  [.like letter null, .between letter null null, .inList letter [null]]

/-- A null behind the first operand goes unnoticed: the form is marked, and it is null. -/
theorem exprColumn_notNull_nullOperands :
    nullOperands.Forall fun value => (namedUsers.exprColumn [] value).map (·.notNull) = .ok true ∧
      value.Scalar [] ∧ value.Yields numericTruth [] [] none := by
  have hletter : (Expr.literal (.text .single "a")).Yields numericTruth [] [] (some 1) :=
    .literal (Option.some_ne_none 1)
  have hnull : (Expr.literal .null).Yields numericTruth [] [] none := .literal rfl
  have hunknown : Compares (some (1 : Int)) none none := by simp [Compares]
  have hgives : numericTruth.Gives none none := .inl rfl
  refine ⟨?_, ?_, ?_⟩
  · exact ⟨by decide, .like (.literal _) (.literal _), .like hletter hnull hunknown hgives⟩
  · exact ⟨by decide, .between (.literal _) (.literal _) (.literal _),
      .between hletter hnull hnull hunknown hunknown hgives⟩
  · exact ⟨by decide, .inList (.literal _) (by simpa using .literal _),
      .inList hletter rfl (by simpa using hnull) (.cons hunknown .nil) hgives⟩

end View

end AnnotatedSql
