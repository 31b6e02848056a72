import AnnotatedSql.Compile.Output
import Mathlib.Algebra.Ring.Nat
import Mathlib.Data.List.Forall2

/-!
Nulls in the rows of a `FROM` clause. A clause of joined tables is read as a plan, whose rows are those of the tables
combined as the joins say, with nulls for the side of an outer join that has no row to offer. The range variables of
the clause mark which columns are never null in these rows (`JoinPlan.Describes`), and each join keeps the marks right.
No mark is missing either: a column without one is null in some row, for some contents and join conditions
(`JoinPlan.Attains`).
-/
namespace AnnotatedSql

open Sql (FromItem Ident Join JoinKind ObjectName Relation)

/-- The cells of a row: for each range variable, those of its columns. A cell without a value is null. -/
abbrev Row (α : Type) := List (List (Option α))

/-- What the tables of a catalog hold. A row has a cell for each column, and one with a value where the column is
    declared not null. -/
structure Contents (catalog : Catalog) (α : Type) where
  rows : QualifiedName → List (List (Option α))
  declared : ∀ {name table}, catalog.table? name = some table → ∀ cells ∈ rows name,
    List.Forall₂ (fun (column : ColumnDef) cell => column.nullable = false → cell ≠ none) table.columns.values cells

/-- Each table holds one row, with nulls wherever they are allowed. -/
def Contents.sparse (catalog : Catalog) : Contents catalog Unit where
  rows name := (catalog.table? name).toList.map fun table =>
    table.columns.values.map fun column => if column.nullable then none else some ()
  declared := by
    intro name table htable cells hcells
    rw [htable] at hcells
    obtain rfl := List.mem_singleton.1 hcells
    rw [List.forall₂_map_right_iff]
    apply List.forall₂_same.2
    intro column _ hdeclared
    simp [hdeclared]

theorem Contents.rows_sparse {catalog : Catalog} {name : QualifiedName} {table : TableDef}
    (htable : catalog.table? name = some table) :
    (sparse catalog).rows name =
      [table.columns.values.map fun column => if column.nullable then none else some ()] := by
  simp [sparse, htable]

/-- Whether rows of the left side without a partner are kept. -/
def Sql.JoinKind.keepsLeft : JoinKind → Bool
  | .left | .full => true
  | .inner | .right | .plain => false

/-- Whether rows of the right side without a partner are kept. -/
def Sql.JoinKind.keepsRight : JoinKind → Bool
  | .right | .full => true
  | .inner | .left | .plain => false

/-- Tables and the joins between them, each with the condition under which two rows are partners. -/
inductive JoinPlan (α : Type) where
  /-- No table: one row without cells. -/
  | nothing
  | table (name : QualifiedName)
  | join (kind : JoinKind) (on : Row α → Row α → Bool) (left right : JoinPlan α)
  /-- A plan that counts as one range variable. -/
  | grouped (inner : JoinPlan α)

namespace JoinPlan

variable {α : Type} {catalog : Catalog}

/-- The numbers of cells in a row, for each range variable. -/
def widths (catalog : Catalog) : JoinPlan α → List Nat
  | nothing => []
  | table name => [((catalog.table? name).map (·.columns.length)).getD 0]
  | join _ _ left right => left.widths catalog ++ right.widths catalog
  | grouped inner => [(inner.widths catalog).sum]

/-- A row of nulls. -/
def nulls (widths : List Nat) : Row α :=
  widths.map fun width => List.replicate width none

/-- All pairs of partners, and the rows without a partner that are kept, filled up with nulls. -/
def joinRows (kind : JoinKind) (on : Row α → Row α → Bool) (leftWidths rightWidths : List Nat)
    (left right : List (Row α)) : List (Row α) :=
  (left.flatMap fun row => (right.filter (on row)).map (row ++ ·)) ++
  (if kind.keepsLeft then (left.filter fun row => !right.any (on row)).map (· ++ nulls rightWidths) else []) ++
  (if kind.keepsRight then (right.filter fun row => !left.any (on · row)).map (nulls leftWidths ++ ·) else [])

/-- The rows of a plan. -/
def rows (contents : Contents catalog α) : JoinPlan α → List (Row α)
  | nothing => [[]]
  | table name => (contents.rows name).map ([·])
  | join kind on left right =>
    joinRows kind on (left.widths catalog) (right.widths catalog) (left.rows contents) (right.rows contents)
  | grouped inner => (inner.rows contents).map fun row => [row.flatten]

theorem mem_joinRows {kind : JoinKind} {on : Row α → Row α → Bool} {leftWidths rightWidths : List Nat}
    {left right : List (Row α)} {row : Row α} :
    row ∈ joinRows kind on leftWidths rightWidths left right ↔
      (∃ first ∈ left, ∃ second ∈ right, on first second = true ∧ first ++ second = row) ∨
      (kind.keepsLeft = true ∧
        ∃ first ∈ left, (∀ second ∈ right, on first second = false) ∧ first ++ nulls rightWidths = row) ∨
      (kind.keepsRight = true ∧
        ∃ second ∈ right, (∀ first ∈ left, on first second = false) ∧ nulls leftWidths ++ second = row) := by
  simp only [joinRows, List.mem_append, or_assoc]
  refine or_congr ?_ (or_congr ?_ ?_)
  · simp [and_assoc]
  · cases kind.keepsLeft <;> simp [and_assoc]
  · cases kind.keepsRight <;> simp [and_assoc]

end JoinPlan

section Marks

variable {α : Type}

/-- A cell that a column allows: one with a value, if the column is marked not null. -/
def Column.Allows (column : Column) (cell : Option α) : Prop :=
  column.notNull = true → cell ≠ none

def RangeVar.Allows (var : RangeVar) (cells : List (Option α)) : Prop :=
  List.Forall₂ Column.Allows var.columns cells

theorem map_notNull_renameColumns (columns : List Column) (names : List Ident) :
    (renameColumns columns names).map (·.notNull) = columns.map (·.notNull) := by
  fun_induction renameColumns columns names with
  | case1 column columns name names ih => simp [ih]
  | case2 => rfl

/-- An alias changes no mark. -/
theorem RangeVar.map_notNull_ofColumns (name : String) (asName : Option Sql.Alias) (columns : List Column) :
    (ofColumns name asName columns).columns.map (·.notNull) = columns.map (·.notNull) := by
  cases asName with
  | none => rfl
  | some asName => simpa [ofColumns, Function.comp_def] using map_notNull_renameColumns columns asName.columns

theorem RangeVar.length_ofColumns (name : String) (asName : Option Sql.Alias) (columns : List Column) :
    (ofColumns name asName columns).columns.length = columns.length := by
  simpa using congrArg List.length (map_notNull_ofColumns name asName columns)

theorem RangeVar.allows_ofColumns {name : String} {asName : Option Sql.Alias} {columns : List Column}
    {cells : List (Option α)} :
    (ofColumns name asName columns).Allows cells ↔ List.Forall₂ Column.Allows columns cells := by
  have hmarks : ∀ columns : List Column, List.Forall₂ Column.Allows columns cells ↔
      List.Forall₂ (fun (mark : Bool) (cell : Option α) => mark = true → cell ≠ none)
        (columns.map (·.notNull)) cells := by
    intro columns
    rw [List.forall₂_map_left_iff]
    rfl
  rw [Allows, hmarks, map_notNull_ofColumns, ← hmarks]

/-- A range variable that may lack a row allows any cells. -/
theorem RangeVar.allows_nullable {var : RangeVar} {cells : List (Option α)} :
    var.nullable.Allows cells ↔ var.columns.length = cells.length := by
  rw [Allows, nullable, List.forall₂_map_left_iff]
  constructor
  · exact List.Forall₂.length_eq
  · intro hlength
    apply List.forall₂_iff_zip.2
    refine ⟨hlength, ?_⟩
    intro column cell _ hmark
    cases hmark

/-- Range variables, marked as possibly lacking a row or left as they are. -/
def marked (lacking : Bool) (vars : List RangeVar) : List RangeVar :=
  if lacking then vars.map RangeVar.nullable else vars

theorem joinSides_eq (kind : JoinKind) (left right : List RangeVar) :
    joinSides kind left right = marked kind.keepsRight left ++ marked kind.keepsLeft right := by
  cases kind <;> rfl

theorem map_length_marked (lacking : Bool) (vars : List RangeVar) :
    (marked lacking vars).map (·.columns.length) = vars.map (·.columns.length) := by
  cases lacking <;> simp [marked, RangeVar.nullable, Function.comp_def]

/-- The mark takes back what was said about a row, and says nothing new. -/
theorem allows_marked {vars : List RangeVar} {row : Row α} (lacking : Bool)
    (hrow : List.Forall₂ RangeVar.Allows vars row) : List.Forall₂ RangeVar.Allows (marked lacking vars) row := by
  cases lacking with
  | false => exact hrow
  | true =>
    rw [marked, if_pos rfl, List.forall₂_map_left_iff]
    exact hrow.imp fun var cells hcells => RangeVar.allows_nullable.2 hcells.length_eq

theorem allows_nulls (vars : List RangeVar) :
    List.Forall₂ RangeVar.Allows (marked true vars) (JoinPlan.nulls (vars.map (·.columns.length)) : Row α) := by
  rw [marked, if_pos rfl, JoinPlan.nulls, List.map_map, List.forall₂_map_left_iff, List.forall₂_map_right_iff]
  apply List.forall₂_same.2
  intro var _
  simp [RangeVar.allows_nullable]

end Marks

namespace JoinPlan

variable {α : Type} {catalog : Catalog} {contents : Contents catalog α}

/-- Range variables that describe the rows of a plan: they have its cells, and their marks hold in every row. -/
structure Describes (contents : Contents catalog α) (vars : List RangeVar) (plan : JoinPlan α) : Prop where
  widths : vars.map (·.columns.length) = plan.widths catalog
  rows : ∀ row ∈ plan.rows contents, List.Forall₂ RangeVar.Allows vars row

namespace Describes

theorem table {view : View} {contents : Contents view.catalog α} {name : QualifiedName} {table : TableDef}
    (htable : view.catalog.table? name = some table) (asName : Option Sql.Alias) :
    Describes contents [view.tableVar table asName] (.table name) where
  widths := by
    simp [JoinPlan.widths, htable, View.tableVar, RangeVar.length_ofColumns, Keyed.values]
  rows := by
    intro row hrow
    obtain ⟨cells, hcells, rfl⟩ := List.mem_map.1 hrow
    refine .cons (RangeVar.allows_ofColumns.2 ?_) .nil
    rw [List.forall₂_map_left_iff]
    refine (contents.declared htable cells hcells).imp ?_
    intro column cell hdeclared hmark
    exact hdeclared (by simpa [Column.ofDef] using hmark)

/-- The side that keeps its rows without a partner takes away the marks of the other one, and no more is needed. -/
theorem join {left right : List RangeVar} {first second : JoinPlan α} (kind : JoinKind)
    (on : Row α → Row α → Bool) (hleft : Describes contents left first) (hright : Describes contents right second) :
    Describes contents (joinSides kind left right) (.join kind on first second) where
  widths := by
    rw [joinSides_eq, List.map_append, map_length_marked, map_length_marked, hleft.widths, hright.widths]
    rfl
  rows := by
    intro row hrow
    rw [joinSides_eq]
    rcases mem_joinRows.1 hrow with
      ⟨_, hfirst, _, hsecond, -, rfl⟩ | ⟨hkeeps, _, hfirst, -, rfl⟩ | ⟨hkeeps, _, hsecond, -, rfl⟩
    · exact List.rel_append (allows_marked _ (hleft.rows _ hfirst)) (allows_marked _ (hright.rows _ hsecond))
    · rw [hkeeps, ← hright.widths]
      exact List.rel_append (allows_marked _ (hleft.rows _ hfirst)) (allows_nulls right)
    · rw [hkeeps, ← hleft.widths]
      exact List.rel_append (allows_nulls left) (allows_marked _ (hright.rows _ hsecond))

theorem grouped {frame : Frame} {plan : JoinPlan α} (hvars : Describes contents frame.vars plan) (name : String)
    (asName : Option Sql.Alias) :
    Describes contents [.ofColumns name asName frame.columns] (.grouped plan) where
  widths := by
    simp [JoinPlan.widths, RangeVar.length_ofColumns, Frame.columns, List.length_flatMap, hvars.widths]
  rows := by
    intro row hrow
    obtain ⟨inner, hinner, rfl⟩ := List.mem_map.1 hrow
    refine .cons (RangeVar.allows_ofColumns.2 ?_) .nil
    rw [Frame.columns, List.flatMap_def]
    apply List.rel_flatten
    rw [List.forall₂_map_left_iff]
    exact hvars.rows inner hinner

theorem nothing : Describes contents [] .nothing where
  widths := rfl
  rows := by
    intro row hrow
    obtain rfl := List.mem_singleton.1 hrow
    exact .nil

end Describes

/-- One of the plans that a clause can stand for has a row with a property, where tables hold as little as they may. -/
def Reaches (catalog : Catalog) (readings : JoinPlan Unit → Prop) (vars : List RangeVar) (P : Row Unit → Prop) :
    Prop :=
  ∃ plan, readings plan ∧ Describes (.sparse catalog) vars plan ∧ ∃ row ∈ plan.rows (.sparse catalog), P row

theorem Reaches.imp {readings wider : JoinPlan Unit → Prop} {vars : List RangeVar} {P Q : Row Unit → Prop}
    (hreaches : Reaches catalog readings vars P) (hwider : ∀ plan, readings plan → wider plan)
    (hrow : ∀ row, P row → Q row) : Reaches catalog wider vars Q := by
  obtain ⟨plan, hplan, hvars, row, hmem, hP⟩ := hreaches
  exact ⟨plan, hwider plan hplan, hvars, row, hmem, hrow row hP⟩

/-- Whether each column is marked not null. -/
def marks (vars : List RangeVar) : List Bool :=
  vars.flatMap fun var => var.columns.map (·.notNull)

/-- Range variables without a missing mark: each column that is not marked is null in a row of a reading. -/
structure Attains (catalog : Catalog) (readings : JoinPlan Unit → Prop) (vars : List RangeVar) : Prop where
  row : Reaches catalog readings vars fun _ => True
  null : ∀ place : Nat, (marks vars)[place]? = some false →
    Reaches catalog readings vars fun row => row.flatten[place]? = some none

theorem marks_append (left right : List RangeVar) : marks (left ++ right) = marks left ++ marks right :=
  List.flatMap_append

theorem marks_vars (frame : Frame) : marks frame.vars = frame.columns.map (·.notNull) := by
  rw [marks, Frame.columns, List.map_flatMap]

theorem length_marks (vars : List RangeVar) : (marks vars).length = (vars.map (·.columns.length)).sum := by
  simp [marks, List.length_flatMap]

/-- A place without a mark had none before, or is on a side that may lack a row. -/
theorem marks_marked {lacking : Bool} {vars : List RangeVar} {place : Nat}
    (hplace : (marks (marked lacking vars))[place]? = some false) :
    (marks vars)[place]? = some false ∨ lacking = true ∧ place < (marks vars).length := by
  cases lacking with
  | false => exact .inl hplace
  | true =>
    have hlength : (marks (marked true vars)).length = (marks vars).length := by
      rw [length_marks, length_marks, map_length_marked]
    exact .inr ⟨rfl, hlength ▸ (List.getElem?_eq_some_iff.1 hplace).1⟩

theorem flatten_nulls (widths : List Nat) : (nulls widths : Row α).flatten = List.replicate widths.sum none := by
  induction widths with
  | nil => rfl
  | cons width widths ih =>
    rw [nulls, List.map_cons, List.flatten_cons, List.sum_cons, List.replicate_add]
    exact congrArg _ ih

theorem Describes.length_flatten {vars : List RangeVar} {plan : JoinPlan α} (hvars : Describes contents vars plan)
    {row : Row α} (hrow : row ∈ plan.rows contents) : row.flatten.length = (marks vars).length := by
  have hcells : List.Forall₂ Column.Allows (vars.map (·.columns)).flatten row.flatten := by
    apply List.rel_flatten
    rw [List.forall₂_map_left_iff]
    exact hvars.rows row hrow
  rw [← hcells.length_eq, length_marks, List.length_flatten, List.map_map]
  rfl

namespace Attains

variable {readings others : JoinPlan Unit → Prop} {vars left right : List RangeVar}

theorem mono {wider : JoinPlan Unit → Prop} (hvars : Attains catalog readings vars)
    (hwider : ∀ plan, readings plan → wider plan) : Attains catalog wider vars where
  row := hvars.row.imp hwider fun _ => id
  null place hplace := (hvars.null place hplace).imp hwider fun _ => id

/-- Joins of one kind and condition between readings of both sides. -/
def Joined (kind : JoinKind) (on : Row Unit → Row Unit → Bool) (readings others : JoinPlan Unit → Prop)
    (plan : JoinPlan Unit) : Prop :=
  ∃ first second, readings first ∧ others second ∧ plan = .join kind on first second

/-- Where all rows are partners, any two rows of the sides stand side by side. -/
theorem reaches_pair {P Q : Row Unit → Prop} (kind : JoinKind) (hleft : Reaches catalog readings left P)
    (hright : Reaches catalog others right Q) :
    Reaches catalog (Joined kind (fun _ _ => true) readings others) (joinSides kind left right) fun row =>
      ∃ first second, first.flatten.length = (marks left).length ∧ P first ∧ Q second ∧ row = first ++ second := by
  obtain ⟨first, hfirst, hvars, row, hrow, hP⟩ := hleft
  obtain ⟨second, hsecond, hothers, other, hother, hQ⟩ := hright
  refine ⟨_, ⟨first, second, hfirst, hsecond, rfl⟩, hvars.join kind _ hothers, row ++ other, ?_,
    row, other, hvars.length_flatten hrow, hP, hQ, rfl⟩
  exact mem_joinRows.2 (.inl ⟨row, hrow, other, hother, rfl, rfl⟩)

/-- So both sides show the nulls that they have alone. -/
theorem null_pair (kind : JoinKind) (hleft : Attains catalog readings left) (hright : Attains catalog others right)
    {place : Nat} (hplace : (marks (left ++ right))[place]? = some false) :
    Reaches catalog (Joined kind (fun _ _ => true) readings others) (joinSides kind left right) fun row =>
      row.flatten[place]? = some none := by
  rw [marks_append] at hplace
  rcases Nat.lt_or_ge place (marks left).length with hlt | hge
  · rw [List.getElem?_append_left hlt] at hplace
    refine (reaches_pair kind (hleft.null place hplace) hright.row).imp (fun _ => id) ?_
    rintro _ ⟨first, second, hlength, hnull, -, rfl⟩
    rw [List.flatten_append, List.getElem?_append_left (hlength ▸ hlt), hnull]
  · rw [List.getElem?_append_right hge] at hplace
    refine (reaches_pair kind hleft.row (hright.null _ hplace)).imp (fun _ => id) ?_
    rintro _ ⟨first, second, hlength, -, hnull, rfl⟩
    rw [List.flatten_append, List.getElem?_append_right (hlength ▸ hge), hlength, hnull]

theorem pair (hleft : Attains catalog readings left) (hright : Attains catalog others right) :
    Attains catalog (Joined .plain (fun _ _ => true) readings others) (left ++ right) where
  row := (reaches_pair .plain hleft.row hright.row).imp (fun _ => id) fun _ _ => trivial
  null _ hplace := null_pair .plain hleft hright hplace

/-- Where no rows are partners, a side that may lack a row is null throughout. -/
theorem null_left {kind : JoinKind} (hkeeps : kind.keepsRight = true) (hleft : Attains catalog readings left)
    (hright : Attains catalog others right) {place : Nat} (hplace : place < (marks left).length) :
    Reaches catalog (Joined kind (fun _ _ => false) readings others) (joinSides kind left right) fun row =>
      row.flatten[place]? = some none := by
  obtain ⟨first, hfirst, hvars, -⟩ := hleft.row
  obtain ⟨second, hsecond, hothers, row, hrow, -⟩ := hright.row
  refine ⟨_, ⟨first, second, hfirst, hsecond, rfl⟩, hvars.join kind _ hothers, nulls (first.widths catalog) ++ row,
    mem_joinRows.2 (.inr (.inr ⟨hkeeps, row, hrow, fun _ _ => rfl, rfl⟩)), ?_⟩
  rw [length_marks, hvars.widths] at hplace
  show (nulls _ ++ row).flatten[_]? = some none
  rw [List.flatten_append, flatten_nulls, List.getElem?_append_left (by simpa using hplace),
    List.getElem?_replicate_of_lt hplace]

theorem null_right {kind : JoinKind} (hkeeps : kind.keepsLeft = true) (hleft : Attains catalog readings left)
    (hright : Attains catalog others right) {place : Nat} (hplace : place < (marks right).length) :
    Reaches catalog (Joined kind (fun _ _ => false) readings others) (joinSides kind left right) fun row =>
      row.flatten[(marks left).length + place]? = some none := by
  obtain ⟨first, hfirst, hvars, row, hrow, -⟩ := hleft.row
  obtain ⟨second, hsecond, hothers, -⟩ := hright.row
  refine ⟨_, ⟨first, second, hfirst, hsecond, rfl⟩, hvars.join kind _ hothers, row ++ nulls (second.widths catalog),
    mem_joinRows.2 (.inr (.inl ⟨hkeeps, row, hrow, fun _ _ => rfl, rfl⟩)), ?_⟩
  have hlength : row.flatten.length = (marks left).length := hvars.length_flatten hrow
  rw [length_marks, hothers.widths] at hplace
  show (row ++ nulls _).flatten[_]? = some none
  rw [List.flatten_append, flatten_nulls, List.getElem?_append_right (by omega), hlength, Nat.add_sub_cancel_left,
    List.getElem?_replicate_of_lt hplace]

theorem join (kind : JoinKind) (hleft : Attains catalog readings left) (hright : Attains catalog others right) :
    Attains catalog (fun plan => ∃ on, Joined kind on readings others plan) (joinSides kind left right) := by
  have hany : ∀ {on : Row Unit → Row Unit → Bool} {P : Row Unit → Prop},
      Reaches catalog (Joined kind on readings others) (joinSides kind left right) P →
        Reaches catalog (fun plan => ∃ on, Joined kind on readings others plan) (joinSides kind left right) P :=
    fun hreaches => hreaches.imp (fun _ hplan => ⟨_, hplan⟩) fun _ => id
  refine ⟨(hany (reaches_pair kind hleft.row hright.row)).imp (fun _ => id) fun _ _ => trivial, ?_⟩
  intro place hplace
  have hlength : (marks (marked kind.keepsRight left)).length = (marks left).length := by
    rw [length_marks, length_marks, map_length_marked]
  rw [joinSides_eq, marks_append] at hplace
  -- A place without a mark shows a null of its own side alone, or a row that the side lacks.
  rcases Nat.lt_or_ge place (marks left).length with hlt | hge
  · rw [List.getElem?_append_left (hlength ▸ hlt)] at hplace
    rcases marks_marked hplace with hplace | ⟨hkeeps, hplace⟩
    · apply hany (null_pair kind hleft hright ?_)
      rw [marks_append, List.getElem?_append_left hlt, hplace]
    · exact hany (null_left hkeeps hleft hright hplace)
  · rw [List.getElem?_append_right (hlength ▸ hge), hlength] at hplace
    rcases marks_marked hplace with hplace | ⟨hkeeps, hplace⟩
    · apply hany (null_pair kind hleft hright ?_)
      rw [marks_append, List.getElem?_append_right hge, hplace]
    · have hnull := null_right hkeeps hleft hright hplace
      rw [Nat.add_sub_of_le hge] at hnull
      exact hany hnull

theorem nothing : Attains catalog (· = .nothing) [] where
  row := ⟨_, rfl, .nothing, [], List.mem_singleton.2 rfl, trivial⟩
  null _ hplace := by cases hplace

theorem table {view : View} {name : QualifiedName} {table : TableDef}
    (htable : view.catalog.table? name = some table) (asName : Option Sql.Alias) :
    Attains view.catalog (· = .table name) [view.tableVar table asName] := by
  have hreaches : ∀ P : Row Unit → Prop,
      P [table.columns.values.map fun column => if column.nullable then none else some ()] →
        Reaches view.catalog (· = .table name) [view.tableVar table asName] P := by
    intro P hP
    refine ⟨_, rfl, .table htable asName, _, List.mem_map_of_mem ?_, hP⟩
    rw [Contents.rows_sparse htable]
    exact List.mem_singleton.2 rfl
  refine ⟨hreaches _ trivial, ?_⟩
  intro place hplace
  apply hreaches
  have hmarks : marks [view.tableVar table asName] = table.columns.values.map (!·.nullable) := by
    simp [marks, View.tableVar, RangeVar.map_notNull_ofColumns, Column.ofDef, Function.comp_def]
  rw [hmarks, List.getElem?_map, Option.map_eq_some_iff] at hplace
  obtain ⟨column, hcolumn, hnullable⟩ := hplace
  simp_all

theorem grouped {frame : Frame} (hvars : Attains catalog readings frame.vars) (name : String)
    (asName : Option Sql.Alias) :
    Attains catalog (fun plan => ∃ inner, readings inner ∧ plan = .grouped inner)
      [.ofColumns name asName frame.columns] := by
  have hreaches : ∀ {P : Row Unit → Prop}, Reaches catalog readings frame.vars P →
      Reaches catalog (fun plan => ∃ inner, readings inner ∧ plan = .grouped inner)
        [.ofColumns name asName frame.columns] fun row => ∃ inner, P inner ∧ row = [inner.flatten] := by
    rintro P ⟨plan, hplan, hdescribes, row, hrow, hP⟩
    exact ⟨_, ⟨plan, hplan, rfl⟩, hdescribes.grouped name asName, _, List.mem_map_of_mem hrow, row, hP, rfl⟩
  refine ⟨(hreaches hvars.row).imp (fun _ => id) fun _ _ => trivial, ?_⟩
  intro place hplace
  have hmarks : marks [.ofColumns name asName frame.columns] = marks frame.vars := by
    rw [marks_vars, marks, List.flatMap_singleton, RangeVar.map_notNull_ofColumns]
  rw [hmarks] at hplace
  refine (hreaches (hvars.null place hplace)).imp (fun _ => id) ?_
  rintro _ ⟨inner, hnull, rfl⟩
  rw [List.flatten_singleton, hnull]

end Attains

end JoinPlan

namespace View

variable {α : Type}

mutual

/-- A relation made of catalog tables and joins, and a plan that it stands for: any rows may be partners in a join. The
    tree does not tell semi and anti joins from inner ones, and all of them are read as inner joins. -/
inductive Reads (view : View) : Relation → JoinPlan α → Prop where
  | table {name : ObjectName} {asName : Option Sql.Alias} {hints : List Sql.Expr}
      (hctes : name.qualified.schema = none → view.ctes.get? (Text.toLower name.qualified.name) = none)
      (htable : view.catalog.hasTable name.qualified = true) :
      Reads view (.table name asName hints) (.table name.qualified)
  | nested {inner : FromItem} {plan : JoinPlan α} (hinner : ReadsItem view inner plan) :
      Reads view (.joined inner none) plan
  | aliased {inner : FromItem} {asName : Sql.Alias} {plan : JoinPlan α} (hinner : ReadsItem view inner plan) :
      Reads view (.joined inner (some asName)) (.grouped plan)

inductive ReadsItem (view : View) : FromItem → JoinPlan α → Prop where
  | mk {relation : Relation} {joins : List Join} {first plan : JoinPlan α} (hfirst : Reads view relation first)
      (hjoins : ReadsJoins view first joins plan) : ReadsItem view ⟨relation, joins⟩ plan

/-- Joins after a plan, the first of them with it as its left side. -/
inductive ReadsJoins (view : View) : JoinPlan α → List Join → JoinPlan α → Prop where
  | nil {plan : JoinPlan α} : ReadsJoins view plan [] plan
  | cons {relation : Relation} {kind : JoinKind} {on : Option Sql.Expr} {shared : List Ident}
      {hidden : List Sql.Expr} {rest : List Join} {left right plan : JoinPlan α}
      (partners : Row α → Row α → Bool) (hright : Reads view relation right)
      (hrest : ReadsJoins view (.join kind partners left right) rest plan) :
      ReadsJoins view left (⟨relation, kind, on, shared, hidden⟩ :: rest) plan

end

variable {view : View} {contents : Contents view.catalog α}

theorem relation_of_hasTable {name : ObjectName} (asName : Option Sql.Alias)
    (hctes : name.qualified.schema = none → view.ctes.get? (Text.toLower name.qualified.name) = none)
    (htable : view.catalog.hasTable name.qualified = true) :
    ∃ table, view.catalog.table? name.qualified = some table ∧
      view.relation name asName = .ok (view.tableVar table asName) := by
  obtain ⟨table, htable⟩ := Option.isSome_iff_exists.1 htable
  refine ⟨table, htable, ?_⟩
  have hhidden : (if name.qualified.schema.isNone then view.ctes.get? (Text.toLower name.qualified.name) else none)
      = none := by
    split
    · next hnone => exact hctes (Option.isNone_iff_eq_none.1 hnone)
    · rfl
  simp only [relation, hhidden, htable]

theorem itemFrame_of_vars {item : FromItem} {outer : Scope} {vars all : List RangeVar} {last : Frame}
    (hrelation : view.relationVars outer {} item.relation = .ok vars)
    (hjoins : view.joinVars outer {} vars item.joins = .ok (last, all)) :
    view.itemFrame outer item = .ok { last with vars := all } := by
  obtain ⟨relation, joins⟩ := item
  simp [itemFrame, hrelation, hjoins, bind, Except.bind, pure, Except.pure]

/-- The range variables of what a clause stands for: they describe the rows, and no mark is missing. -/
structure Exact (contents : Contents view.catalog α) (readings : JoinPlan Unit → Prop) (vars : List RangeVar)
    (plan : JoinPlan α) : Prop where
  describes : JoinPlan.Describes contents vars plan
  attains : JoinPlan.Attains view.catalog readings vars

mutual

theorem relationVars_exact {relation : Relation} {plan : JoinPlan α} (hread : view.Reads relation plan)
    (outer : Scope) (preceding : Frame) :
    ∃ vars, view.relationVars outer preceding relation = .ok vars ∧
      Exact contents (view.Reads relation) vars plan := by
  cases hread with
  | @table name asName hints hctes htable =>
    obtain ⟨table, hfound, hrelation⟩ := relation_of_hasTable asName hctes htable
    refine ⟨_, by simp [relationVars, hrelation, bind, Except.bind, pure, Except.pure], .table hfound asName, ?_⟩
    apply (JoinPlan.Attains.table hfound asName).mono
    rintro _ rfl
    exact .table hctes htable
  | @nested inner _ hinner =>
    obtain ⟨vars, last, all, hrelation, hjoins, -, hdescribes, hattains⟩ := itemVars_exact hinner outer {}
    refine ⟨all, ?_, hdescribes, hattains.mono fun _ => .nested⟩
    simp [relationVars, itemFrame_of_vars hrelation hjoins, bind, Except.bind, pure, Except.pure]
  | @aliased inner asName plan hinner =>
    obtain ⟨vars, last, all, hrelation, hjoins, -, hdescribes, hattains⟩ := itemVars_exact hinner outer {}
    let frame : Frame := { last with vars := all }
    have hdescribes : JoinPlan.Describes contents frame.vars plan := hdescribes
    have hattains : JoinPlan.Attains view.catalog (view.ReadsItem inner) frame.vars := hattains
    refine ⟨_, ?_, hdescribes.grouped asName.name.value (some asName), (hattains.grouped _ _).mono ?_⟩
    · simp [relationVars, itemFrame_of_vars hrelation hjoins, bind, Except.bind, pure, Except.pure, frame]
    · rintro _ ⟨plan, hplan, rfl⟩
      exact .aliased hplan
termination_by sizeOf relation

/-- A `FROM` item yields the same range variables on its own and after others. -/
theorem itemVars_exact {item : FromItem} {plan : JoinPlan α} (hread : view.ReadsItem item plan) (outer : Scope)
    (frame : Frame) :
    ∃ vars last all, view.relationVars outer frame item.relation = .ok vars ∧
      view.joinVars outer frame vars item.joins = .ok (last, all) ∧ last.vars = frame.vars ∧
      Exact contents (view.ReadsItem item) all plan := by
  cases hread with
  | mk hfirst hjoins =>
    obtain ⟨vars, hrelation, hvars⟩ := relationVars_exact hfirst outer frame
    obtain ⟨last, all, hjoins, hlast, hdescribes, hattains⟩ := joinVars_exact hjoins outer frame hvars
    refine ⟨vars, last, all, hrelation, hjoins, hlast, hdescribes, hattains.mono ?_⟩
    rintro _ ⟨first, hfirst, hjoins⟩
    exact .mk hfirst hjoins
termination_by sizeOf item

theorem joinVars_exact {left plan : JoinPlan α} {joins : List Join} (hread : view.ReadsJoins left joins plan)
    (outer : Scope) (frame : Frame) {readings : JoinPlan Unit → Prop} {vars : List RangeVar}
    (hvars : Exact contents readings vars left) :
    ∃ last all, view.joinVars outer frame vars joins = .ok (last, all) ∧ last.vars = frame.vars ∧
      Exact contents (fun plan => ∃ first, readings first ∧ view.ReadsJoins first joins plan) all plan := by
  cases hread with
  | nil => exact ⟨frame, vars, rfl, rfl, hvars.describes, hvars.attains.mono fun plan hplan => ⟨plan, hplan, .nil⟩⟩
  | @cons relation kind on shared hidden rest _ right _ partners hright hrest =>
    obtain ⟨others, hrelation, hothers⟩ := relationVars_exact hright outer frame
    obtain ⟨last, all, hjoins, hlast, hdescribes, hattains⟩ := joinVars_exact hrest outer
      { frame with merged := frame.merged ++ shared.map Ident.value }
      ⟨hvars.describes.join kind partners hothers.describes, hvars.attains.join kind hothers.attains⟩
    refine ⟨last, all, by simpa [joinVars, hrelation, bind, Except.bind] using hjoins, hlast, hdescribes,
      hattains.mono ?_⟩
    rintro _ ⟨_, ⟨partners, first, second, hfirst, hsecond, rfl⟩, hrest⟩
    exact ⟨first, hfirst, .cons partners hsecond hrest⟩
termination_by sizeOf joins

end

/-- A `FROM` clause and the plan that it stands for. Items stand for all combinations of their rows. -/
inductive ReadsClause (view : View) : List FromItem → JoinPlan α → Prop where
  | nil : ReadsClause view [] .nothing
  | cons {item : FromItem} {rest : List FromItem} {first others : JoinPlan α} (hitem : view.ReadsItem item first)
      (hrest : ReadsClause view rest others) :
      ReadsClause view (item :: rest) (.join .plain (fun _ _ => true) first others)

theorem frame_exact {clause : List FromItem} {plan : JoinPlan α} (hread : view.ReadsClause clause plan)
    (outer : Scope) (frame : Frame) :
    ∃ last vars, view.frame outer frame clause = .ok last ∧ last.vars = frame.vars ++ vars ∧
      Exact contents (view.ReadsClause clause) vars plan := by
  induction hread generalizing frame with
  | nil =>
    refine ⟨frame, [], by simp [View.frame], by simp, .nothing, JoinPlan.Attains.nothing.mono ?_⟩
    rintro _ rfl
    exact .nil
  | @cons item rest first others hitem hrest ih =>
    obtain ⟨vars, middle, all, hrelation, hjoins, hmiddle, hall⟩ := itemVars_exact hitem outer frame
    obtain ⟨relation, joins⟩ := item
    obtain ⟨last, more, hframe, hlast, hmore⟩ := ih { middle with vars := middle.vars ++ all }
    refine ⟨last, all ++ more, ?_, ?_, hall.describes.join .plain _ hmore.describes,
      (hall.attains.pair hmore.attains).mono ?_⟩
    · simpa [View.frame, hrelation, hjoins, bind, Except.bind] using hframe
    · rw [hlast, hmiddle, List.append_assoc]
    · rintro _ ⟨first, second, hfirst, hsecond, rfl⟩
      exact .cons hfirst hsecond

/-- A clause of catalog tables and joins has range variables. A column that they mark not null is null in no row,
    whatever the tables hold and whichever rows are partners. A column that they do not mark is null in some row of the
    clause, for some contents and some partners. -/
theorem frame_notNull_exact {clause : List FromItem} {plan : JoinPlan α} (hread : view.ReadsClause clause plan)
    (contents : Contents view.catalog α) (outer : Scope) :
    ∃ frame, view.frame outer {} clause = .ok frame ∧
      (∀ row ∈ plan.rows contents, List.Forall₂ RangeVar.Allows frame.vars row) ∧
      ∀ (place : Nat) (column : Column), frame.columns[place]? = some column → column.notNull = false →
        ∃ (other : JoinPlan Unit) (rare : Contents view.catalog Unit), view.ReadsClause clause other ∧
          ∃ row ∈ other.rows rare, row.flatten[place]? = some none := by
  obtain ⟨frame, vars, hframe, hvars, hdescribes, hattains⟩ := frame_exact hread outer {}
  rw [List.nil_append] at hvars
  subst hvars
  refine ⟨frame, hframe, hdescribes.rows, ?_⟩
  intro place column hcolumn hmark
  have hplace : (JoinPlan.marks frame.vars)[place]? = some false := by
    rw [JoinPlan.marks_vars, List.getElem?_map, hcolumn, Option.map_some, hmark]
  obtain ⟨other, hother, -, hrow⟩ := hattains.null place hplace
  exact ⟨other, _, hother, hrow⟩

/-- Users who have an id, and perhaps a name. -/
def namedUsers : View where
  catalog := (Catalog.empty "public").addTable
    { name := ⟨none, "users"⟩
      columns := [("id", { ColumnDef.ofType "id" .integer with nullable := false }),
        ("name", ColumnDef.ofType "name" .text)] }
  dialect := .postgreSQL

def usersAs (asName : String) : Relation :=
  .table [⟨"users", none⟩] (some ⟨⟨asName, none⟩, []⟩) []

/-- The clause `users AS u LEFT JOIN (users AS v FULL JOIN users AS w)`. -/
def pairedUsers : List FromItem :=
  [⟨usersAs "u", [⟨.joined ⟨usersAs "v", [⟨usersAs "w", .full, none, [], []⟩]⟩ none, .left, none, [], []⟩]⟩]

/-- No `v` has a `w` as its partner, and each `u` is joined to the `w` that have no `v`. -/
def pairedPlan : JoinPlan Unit :=
  .join .plain (fun _ _ => true)
    (.join .left (fun _ pair => pair.head? == some [none, none]) (.table ⟨none, "users"⟩)
      (.join .full (fun _ _ => false) (.table ⟨none, "users"⟩) (.table ⟨none, "users"⟩)))
    .nothing

theorem reads_usersAs (asName : String) : namedUsers.Reads (usersAs asName) (.table ⟨none, "users"⟩ : JoinPlan α) :=
  .table (fun _ => rfl) (by decide)

/-- Only the id of `u` is marked, and in the row that lacks a `v` it is there. -/
theorem frame_notNull_exact_pairedUsers :
    namedUsers.ReadsClause pairedUsers pairedPlan ∧
    ∃ frame, namedUsers.frame [] {} pairedUsers = .ok frame ∧
      frame.columns.map (·.notNull) = [true, false, false, false, false, false] ∧
      [[some (), none], [none, none], [some (), none]] ∈ pairedPlan.rows (.sparse namedUsers.catalog) ∧
      List.Forall₂ RangeVar.Allows frame.vars [[some (), none], [none, none], [some (), none]] := by
  have hread : namedUsers.ReadsClause pairedUsers pairedPlan :=
    .cons (.mk (reads_usersAs "u")
      (.cons _ (.nested (.mk (reads_usersAs "v") (.cons _ (reads_usersAs "w") .nil))) .nil)) .nil
  have hrow : [[some (), none], [none, none], [some (), none]] ∈ pairedPlan.rows (.sparse namedUsers.catalog) := by
    decide +kernel
  have hmarks : (namedUsers.frame [] {} pairedUsers).map (·.columns.map (·.notNull)) =
      .ok [true, false, false, false, false, false] := by
    decide +kernel
  obtain ⟨frame, hframe, hsound, -⟩ := frame_notNull_exact hread (.sparse namedUsers.catalog) []
  rw [hframe] at hmarks
  exact ⟨hread, frame, hframe, Except.ok.inj hmarks, hrow, hsound _ hrow⟩

end View

end AnnotatedSql
