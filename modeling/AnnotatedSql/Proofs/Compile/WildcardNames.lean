import AnnotatedSql.Compile.Wildcard
import AnnotatedSql.Proofs.Compile.Success
import AnnotatedSql.Proofs.Text.Case

/-!
What the names mean that a wildcard is replaced by. Written as references, they are looked up like any others, and each
of them gives the column that it was written for: `Frame.references_lookup`.
-/
namespace AnnotatedSql

open Sql (Item ObjectName)

/-- A reference as it is written, given its qualifier as it is written. -/
def spelledReference (dialect : Dialect) (qualifier : Option String) (name : String) : String :=
  match qualifier with
  | none => dialect.quoteIdentifier name
  | some qualifier => qualifier ++ "." ++ dialect.quoteIdentifier name

/-- What a qualified wildcard names: the last part of its name. -/
def Sql.ObjectName.label (name : ObjectName) : String :=
  (name.getLast?.map Sql.Ident.value).getD ""

namespace RangeVar

variable {var : RangeVar} {column : Column}

/-- The references that a qualified wildcard is replaced by. -/
def references (label : String) (var : RangeVar) : List (Option String × String) :=
  var.columns.map fun column => (some label, column.name)

theorem spelled_eq_references (dialect : Dialect) (name : ObjectName) (var : RangeVar) :
    var.spelled dialect name =
      (var.references name.label).map fun reference => spelledReference dialect (some name.display) reference.2 := by
  simp [spelled, references, spelledReference]

theorem mem_of_column? {name : String} (hcolumn : var.column? name = some column) :
    column ∈ var.columns ∧ Text.sameLetters column.name name = true := by
  unfold column? at hcolumn
  cases hexact : var.columns.find? (·.name == name) with
  | some found =>
    rw [hexact] at hcolumn
    obtain rfl : found = column := Option.some.inj hcolumn
    have hname : found.name = name := by simpa using List.find?_some hexact
    rw [hname]
    exact ⟨List.mem_of_find?_eq_some hexact, Text.sameLetters_refl name⟩
  | none =>
    rw [hexact] at hcolumn
    replace hcolumn : var.columns.find? (Text.sameLetters ·.name name) = some column := hcolumn
    exact ⟨List.mem_of_find?_eq_some hcolumn, by simpa using List.find?_some hcolumn⟩

/-- Among columns of different names each is the first of its own. -/
theorem find?_of_mem (hnames : (var.columns.map Column.name).Nodup) (hcolumn : column ∈ var.columns) :
    var.columns.find? (·.name == column.name) = some column := by
  obtain ⟨front, back, hsplit⟩ := List.append_of_mem hcolumn
  have hfront : front.find? (·.name == column.name) = none := by
    rw [hsplit, List.map_append, List.map_cons, List.nodup_append] at hnames
    simp only [List.find?_eq_none, beq_iff_eq]
    exact fun other hother => hnames.2.2 _ (List.mem_map_of_mem hother) _ List.mem_cons_self
  rw [hsplit, List.find?_append, hfront]
  simp

theorem column?_of_mem (hnames : (var.columns.map Column.name).Nodup) (hcolumn : column ∈ var.columns) :
    var.column? column.name = some column := by
  simp [column?, find?_of_mem hnames hcolumn]

end RangeVar

namespace Frame

variable {frame : Frame} {var : RangeVar} {column : Column}

/-- The references that an unqualified wildcard is replaced by. -/
def references (frame : Frame) : List (Option String × String) :=
  frame.vars.flatMap fun var => var.columns.map fun column =>
    (if isShared frame.columns column.name && !var.label.isEmpty then some var.label else none, column.name)

theorem spelled_eq_references (dialect : Dialect) (frame : Frame) :
    frame.spelled dialect = frame.references.map fun reference =>
      spelledReference dialect (reference.1.map dialect.quoteIdentifier) reference.2 := by
  unfold spelled references
  rw [List.map_flatMap]
  congr 1
  funext var
  rw [List.map_map]
  congr 1
  funext column
  simp only [Function.comp]
  split <;> rfl

/-- References and columns of a frame stand side by side. -/
theorem forall₂_references {R : Option String × String → Column → Prop}
    (h : ∀ var ∈ frame.vars, ∀ column ∈ var.columns,
      R (if isShared frame.columns column.name && !var.label.isEmpty then some var.label else none, column.name)
        column) :
    List.Forall₂ R frame.references frame.columns := by
  refine List.rel_flatMap (R := fun var other => var = other ∧ var ∈ frame.vars) ?_ ?_
  · exact List.forall₂_same.2 fun var hvar => ⟨rfl, hvar⟩
  · rintro var _ ⟨rfl, hvar⟩
    rw [List.forall₂_map_left_iff]
    exact List.forall₂_same.2 fun column hcolumn => h var hvar column hcolumn

/-- Range variables can be told apart by their labels, and the columns of each of them by their names. -/
structure Distinct (frame : Frame) : Prop where
  labels : frame.vars.Pairwise fun var other => Text.sameLetters var.label other.label = false
  labelled : ∀ var ∈ frame.vars, var.label ≠ ""
  names : ∀ var ∈ frame.vars, (var.columns.map Column.name).Nodup

theorem Distinct.var?_label (hframe : frame.Distinct) (hvar : var ∈ frame.vars) :
    frame.var? var.label = some var := by
  obtain ⟨front, back, hsplit⟩ := List.append_of_mem hvar
  have hlabels := hframe.labels
  rw [hsplit, List.pairwise_append] at hlabels
  have hfront : front.find? (·.isNamed var.label) = none := by
    simp only [List.find?_eq_none, RangeVar.isNamed, Bool.not_eq_true]
    exact fun other hother => hlabels.2.2 other hother var List.mem_cons_self
  rw [var?, hsplit, List.find?_append, hfront]
  simp [RangeVar.isNamed, Text.sameLetters_refl]

/-- A name that is written without a qualifier belongs to one column only, also up to the case of letters. -/
theorem filterMap_column?_of_not_isShared {front back : List RangeVar}
    (hframe : frame.vars = front ++ var :: back) (hnames : (var.columns.map Column.name).Nodup)
    (hcolumn : column ∈ var.columns) (hshared : isShared frame.columns column.name = false) :
    frame.vars.filterMap (·.column? column.name) = [column] := by
  let alike (other : Column) : Bool := Text.toLower other.name == Text.toLower column.name
  have hcount : (frame.columns.filter alike).length ≤ 1 := by simpa [isShared] using hshared
  have hself : 0 < (var.columns.filter alike).length :=
    List.length_pos_of_mem (List.mem_filter.2 ⟨hcolumn, by simp [alike]⟩)
  -- A hit in another range variable would be a second column of the same name in lower case.
  have hnone : ∀ other ∈ front ++ back, other.column? column.name = none := by
    intro other hother
    by_contra hfound
    obtain ⟨second, hsecond⟩ := Option.ne_none_iff_exists'.1 hfound
    obtain ⟨hmem, hletters⟩ := RangeVar.mem_of_column? hsecond
    have hsame : alike second = true := by simp [alike, Text.toLower_eq_of_sameLetters hletters]
    have hothers : 0 < ((front ++ back).flatMap RangeVar.columns |>.filter alike).length :=
      List.length_pos_of_mem (List.mem_filter.2 ⟨List.mem_flatMap.2 ⟨other, hother, hmem⟩, hsame⟩)
    simp only [columns, hframe, List.flatMap_append, List.flatMap_cons, List.filter_append, List.length_append]
      at hcount hothers
    omega
  have hfront : front.filterMap (·.column? column.name) = [] :=
    List.filterMap_eq_nil_iff.2 fun other hother => hnone other (List.mem_append_left back hother)
  have hback : back.filterMap (·.column? column.name) = [] :=
    List.filterMap_eq_nil_iff.2 fun other hother => hnone other (List.mem_append_right front hother)
  rw [hframe, List.filterMap_append, hfront, List.filterMap_cons, RangeVar.column?_of_mem hnames hcolumn, hback]
  rfl

/-- The reference that a column is replaced by means this column, whatever is visible further out. -/
theorem Distinct.lookup_reference (hframe : frame.Distinct) (hvar : var ∈ frame.vars) (hcolumn : column ∈ var.columns)
    (outer : Scope) :
    Scope.lookup (if isShared frame.columns column.name && !var.label.isEmpty then some var.label else none)
      column.name (frame :: outer) = .ok column := by
  have hnames := hframe.names var hvar
  cases hshared : isShared frame.columns column.name with
  | true =>
    have hlabel : var.label.isEmpty = false := by simpa using hframe.labelled var hvar
    simp [hlabel, Scope.lookup, hframe.var?_label hvar, RangeVar.column?_of_mem hnames hcolumn]
  | false =>
    obtain ⟨front, back, hsplit⟩ := List.append_of_mem hvar
    have hhits := filterMap_column?_of_not_isShared hsplit hnames hcolumn hshared
    simp [Scope.lookup, hhits]

theorem Distinct.lookup_references (hframe : frame.Distinct) (outer : Scope) :
    List.Forall₂ (fun reference column => Scope.lookup reference.1 reference.2 (frame :: outer) = .ok column)
      frame.references frame.columns :=
  forall₂_references fun _ hvar _ hcolumn => hframe.lookup_reference hvar hcolumn outer

end Frame

theorem mapM_eq_ok_of_forall₂ {α β : Type} {f : α → Except Error β} {values : List α} {results : List β}
    (hresults : List.Forall₂ (fun value result => f value = .ok result) values results) :
    values.mapM f = .ok results := by
  induction hresults with
  | nil => rfl
  | cons hvalue _ ih => rw [List.mapM_cons, hvalue, ih]; rfl

/-- The names that a wildcard is replaced by mean the columns that it stands for. Where range variables have labels that
    differ in more than the case of letters, and the columns of each have different names, the names written for an
    unqualified wildcard are found in the frame, whatever is visible further out, and give all columns of the frame in
    their order. The names written for a qualified one give all columns of the range variable that it names. -/
theorem Frame.references_lookup (view : View) (dialect : Dialect) (frame : Frame) (outer : Scope)
    (hframe : frame.Distinct) (count : Nat) :
    (frame.spelled dialect = frame.references.map (fun reference =>
        spelledReference dialect (reference.1.map dialect.quoteIdentifier) reference.2) ∧
      frame.references.mapM (fun reference => Scope.lookup reference.1 reference.2 (frame :: outer)) =
        .ok frame.columns ∧
      ∀ extent, view.itemColumns (frame :: outer) count [.wildcard extent] = .ok frame.columns) ∧
    ∀ (name : ObjectName) (var : RangeVar), frame.var? name.label = some var →
      var.spelled dialect name = (var.references name.label).map (fun reference =>
        spelledReference dialect (some name.display) reference.2) ∧
      (var.references name.label).mapM (fun reference => Scope.lookup reference.1 reference.2 (frame :: outer)) =
        .ok var.columns ∧
      ∀ extent, view.itemColumns (frame :: outer) count [.qualified name extent] = .ok var.columns := by
  refine ⟨⟨frame.spelled_eq_references dialect, mapM_eq_ok_of_forall₂ (hframe.lookup_references outer),
    fun extent => ?_⟩, fun name var hvar => ⟨var.spelled_eq_references dialect name, mapM_eq_ok_of_forall₂ ?_,
    fun extent => ?_⟩⟩
  · simp [View.itemColumns, pure, Except.pure, bind, Except.bind]
  · have hmem := List.mem_of_find?_eq_some hvar
    rw [RangeVar.references, List.forall₂_map_left_iff]
    refine List.forall₂_same.2 fun column hcolumn => ?_
    simp only [Scope.lookup, hvar, RangeVar.column?_of_mem (hframe.names var hmem) hcolumn]
  · have hfound : frame.var? ((name.getLast?.map Sql.Ident.value).getD "") = some var := hvar
    simp [View.itemColumns, hfound, pure, Except.pure, bind, Except.bind]

/-- Two range variables with names in common: one up to the letters `A` to `Z`, and one in lower case only. -/
def mixedFrame : Frame where
  vars := [
    { name := "users", asName := some "u", columns := [.any "id", .any "Ärger", .any "bio"] },
    { name := "Posts", asName := none, columns := [.any "ID", .any "ärger", .any "title"] }]

theorem Frame.references_lookup_mixedFrame :
    mixedFrame.references = [(some "u", "id"), (some "u", "Ärger"), (none, "bio"), (some "Posts", "ID"),
      (some "Posts", "ärger"), (none, "title")] ∧
    mixedFrame.references.mapM (fun reference => Scope.lookup reference.1 reference.2
      [mixedFrame, .single { name := "outer", asName := none, columns := [.any "title"] }]) = .ok mixedFrame.columns ∧
    (RangeVar.references "POSTS" ⟨"Posts", none, [.any "ID", .any "ärger", .any "title"]⟩).mapM (fun reference =>
      Scope.lookup reference.1 reference.2 [mixedFrame]) = .ok [.any "ID", .any "ärger", .any "title"] := by
  have hframe : mixedFrame.Distinct := ⟨by decide, by decide, by decide⟩
  have hplain := references_lookup ⟨.empty "public", .postgreSQL, []⟩ .postgreSQL mixedFrame
    [.single { name := "outer", asName := none, columns := [.any "title"] }] hframe 0
  have hnamed := references_lookup ⟨.empty "public", .postgreSQL, []⟩ .postgreSQL mixedFrame [] hframe 0
  exact ⟨by decide, hplain.1.2.1, (hnamed.2 [⟨"POSTS", none⟩] _ (by decide)).2.1⟩

end AnnotatedSql
