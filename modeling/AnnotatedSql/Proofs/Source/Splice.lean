import AnnotatedSql.Source.Edit
import Mathlib.Data.List.Nodup
import Mathlib.Data.List.Sort

/-!
What substitutions make of a text. A text laid out around the parts that are substituted becomes the same layout with
the new parts, in whatever order the substitutions are given: `mutate_edits`.
-/
namespace AnnotatedSql.Source

/-- A part of a text that is substituted, and what stands between it and the one before. -/
structure Splice where
  gap : List Char
  old : List Char
  new : List Char

namespace Splice

/-- The text, given what follows the last of the parts. -/
def source (tail : List Char) : List Splice → List Char
  | [] => tail
  | splice :: rest => splice.gap ++ (splice.old ++ source tail rest)

/-- The text with the new parts. -/
def edited (tail : List Char) : List Splice → List Char
  | [] => tail
  | splice :: rest => splice.gap ++ (splice.new ++ edited tail rest)

/-- The edits, for a text that starts at an offset. -/
def edits (offset : Nat) : List Splice → List Edit
  | [] => []
  | splice :: rest =>
    let location := offset + Text.byteSize splice.gap
    { location, old := splice.old, new := splice.new } :: edits (location + Text.byteSize splice.old) rest

/-- The edits of a text stand one behind the other. -/
theorem edits_apart (offset : Nat) (splices : List Splice) :
    (∀ edit ∈ edits offset splices, offset ≤ edit.location) ∧
      (edits offset splices).Pairwise fun edit later => edit.stop ≤ later.location := by
  induction splices generalizing offset with
  | nil => exact ⟨by simp [edits], .nil⟩
  | cons splice rest ih =>
    obtain ⟨hstart, hapart⟩ := ih (offset + Text.byteSize splice.gap + Text.byteSize splice.old)
    rw [edits, List.forall_mem_cons, List.pairwise_cons]
    refine ⟨⟨by simp, fun edit hedit => ?_⟩, hstart, hapart⟩
    have := hstart edit hedit
    omega

theorem map_old_edits (offset : Nat) (splices : List Splice) :
    (edits offset splices).map Edit.old = splices.map Splice.old := by
  induction splices generalizing offset with
  | nil => rfl
  | cons splice rest ih => simp [edits, ih]

theorem edits_ordered {splices : List Splice} (hold : ∀ splice ∈ splices, splice.old ≠ []) (offset : Nat) :
    (edits offset splices).Pairwise (·.location < ·.location) := by
  have holds : ∀ edit ∈ edits offset splices, edit.old ≠ [] := by
    have hmap : ∀ old ∈ (edits offset splices).map Edit.old, old ≠ [] := by
      simpa [map_old_edits] using hold
    simpa using hmap
  refine (edits_apart offset splices).2.imp_of_mem fun hedit _ hstop => ?_
  exact Nat.lt_of_lt_of_le (Edit.location_lt_stop (holds _ hedit)) hstop

theorem pairwise_mergeSort (edits : List Edit) :
    (edits.mergeSort fun a b => b.location ≤ a.location).Pairwise fun edit next => next.location ≤ edit.location := by
  have hmerge := @List.pairwise_mergeSort _ (fun a b : Edit => decide (b.location ≤ a.location))
    (by simp only [decide_eq_true_eq]; omega) (by simp only [Bool.or_eq_true, decide_eq_true_eq]; omega) edits
  simpa only [decide_eq_true_eq] using hmerge

/-- Edits at different places are applied from the last to the first. -/
theorem mergeSort_eq_reverse {edits ordered : List Edit} (hperm : edits.Perm ordered)
    (hordered : ordered.Pairwise (·.location < ·.location)) :
    edits.mergeSort (fun a b => b.location ≤ a.location) = ordered.reverse := by
  have hnodup : (ordered.map Edit.location).Nodup := (List.pairwise_map.2 hordered).imp Nat.ne_of_lt
  refine @List.Perm.eq_of_pairwise _ (fun a b => b.location ≤ a.location) _ _ ?_ (pairwise_mergeSort edits) ?_ ?_
  · intro a b ha hb hab hba
    refine List.inj_on_of_nodup_map hnodup ?_ (List.mem_reverse.1 hb) (Nat.le_antisymm hba hab)
    exact hperm.mem_iff.1 ((List.mergeSort_perm edits _).mem_iff.1 ha)
  · exact List.pairwise_reverse.2 (hordered.imp Nat.le_of_lt)
  · exact (List.mergeSort_perm edits _).trans (hperm.trans ordered.reverse_perm.symm)

/-- Applying the edits of a text behind a front leaves the front as it is, and puts the new parts behind it. -/
theorem foldrM_edits (front tail : List Char) (splices : List Splice) :
    ∃ between done, (edits (Text.byteSize front) splices).foldrM (fun edit edited =>
        Edited.apply (front ++ source tail splices) edited edit)
          { floor := Text.byteSize (front ++ source tail splices), tail := [] } =
        .ok { floor := Text.byteSize front + Text.byteSize between, tail := done } ∧
      (∃ after, source tail splices = between ++ after) ∧ between ++ done = edited tail splices := by
  induction splices generalizing front with
  | nil => exact ⟨tail, [], by simp [edits, source, pure, Except.pure], ⟨[], by simp [source]⟩, by simp [edited]⟩
  | cons splice rest ih =>
    obtain ⟨between, done, hfold, ⟨after, hafter⟩, hdone⟩ := ih (front ++ (splice.gap ++ splice.old))
    refine ⟨splice.gap, splice.new ++ edited tail rest, ?_, ⟨splice.old ++ source tail rest, rfl⟩, rfl⟩
    have htext : front ++ source tail (splice :: rest) =
        front ++ (splice.gap ++ splice.old) ++ source tail rest := by simp [source]
    have hsize : Text.byteSize front + Text.byteSize splice.gap + Text.byteSize splice.old =
        Text.byteSize (front ++ (splice.gap ++ splice.old)) := by simp; omega
    rw [edits, List.foldrM_cons, htext, hsize, hfold]
    -- The edit lies below the floor, and its old part is where it should be.
    have hold := Text.slice?_append (front ++ splice.gap) splice.old (source tail rest)
    have hbetween := Text.slice?_append (front ++ (splice.gap ++ splice.old)) between after
    rw [List.append_assoc _ between, ← hafter, ← hsize] at hbetween
    rw [List.append_assoc front, Text.byteSize_append front] at hold
    have hstep : Edited.apply (front ++ (splice.gap ++ splice.old) ++ source tail rest)
        { floor := Text.byteSize (front ++ (splice.gap ++ splice.old)) + Text.byteSize between, tail := done }
        { location := Text.byteSize front + Text.byteSize splice.gap, old := splice.old, new := splice.new } =
        .ok { floor := Text.byteSize front + Text.byteSize splice.gap, tail := splice.new ++ edited tail rest } := by
      rw [Edited.apply, Edit.stop, ← hsize, if_pos ⟨by simp, hold⟩, hbetween]
      simp [← hdone]
    exact hstep

/-- Substitutions in any order give the text with the new parts. -/
theorem mutate_edits {splices : List Splice} (hold : ∀ splice ∈ splices, splice.old ≠ []) (tail : List Char)
    {given : List Edit} (hgiven : given.Perm (edits 0 splices)) :
    mutate (source tail splices) given = .ok (edited tail splices) := by
  obtain ⟨between, done, hfold, ⟨after, hafter⟩, hdone⟩ := foldrM_edits [] tail splices
  rw [mutate, mergeSort_eq_reverse hgiven (edits_ordered hold 0), List.foldlM_reverse]
  rw [List.nil_append, Text.byteSize_nil, Nat.zero_add] at hfold
  simp only [hfold, bind, Except.bind, pure, Except.pure]
  have htake := Text.takeBytes?_byteSize_append between after
  rw [← hafter] at htake
  rw [htake, Option.getD_some, hdone]

end Splice

/-- Sorting keeps edits at one place in their order. -/
theorem mergeSort_eq_insertionSort (edits : List Edit) :
    edits.mergeSort (fun a b => b.location ≤ a.location) = edits.insertionSort fun a b => b.location ≤ a.location := by
  have htrans : ∀ a b c : Edit, decide (b.location ≤ a.location) = true →
      decide (c.location ≤ b.location) = true → decide (c.location ≤ a.location) = true := by
    simp only [decide_eq_true_eq]
    omega
  have htotal : ∀ a b : Edit, (decide (b.location ≤ a.location) || decide (a.location ≤ b.location)) = true := by
    simp only [Bool.or_eq_true, decide_eq_true_eq]
    omega
  induction edits with
  | nil => simp
  | cons edit edits ih =>
    obtain ⟨before, after, hall, hrest, hbefore⟩ := List.mergeSort_cons htrans htotal edit edits
    have hsorted := List.pairwise_mergeSort htrans htotal (edit :: edits)
    rw [hall, List.pairwise_append, List.pairwise_cons] at hsorted
    rw [hall, List.insertionSort_cons, ← ih, hrest, List.orderedInsert_eq_take_drop]
    have hpass : ∀ b ∈ before, decide (¬ b.location ≤ edit.location) = true := by simpa using hbefore
    rw [List.takeWhile_append_of_pos hpass, List.dropWhile_append_of_pos hpass]
    cases after with
    | nil => simp
    | cons b after =>
      have hb := hsorted.2.1.1 b List.mem_cons_self
      simp only [hb, decide_not, Bool.not_true, List.takeWhile_cons_of_neg, Bool.false_eq_true, not_false_eq_true,
        List.dropWhile_cons_of_neg, List.append_nil]

theorem mutate_eq_insertionSort (text : List Char) (edits : List Edit) :
    mutate text edits = (do
      let edited ← (edits.insertionSort fun a b => b.location ≤ a.location).foldlM (Edited.apply text)
        { floor := Text.byteSize text, tail := [] }
      return (Text.takeBytes? edited.floor text).getD [] ++ edited.tail) := by
  rw [mutate, mergeSort_eq_insertionSort]

end AnnotatedSql.Source
