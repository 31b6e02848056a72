import AnnotatedSql.Proofs.Source.Splice
import Mathlib.Order.CompletePartialOrder
import Mathlib.Order.Interval.Set.Disjoint

/-!
Which substitutions a text takes, and what they make of it. They are taken together or not at all: exactly if the
bytes of each two of them are apart and each finds its old part, and then the order in which they are given does not
show in the result.
-/
namespace AnnotatedSql.Source

/-- The bytes of the old part. -/
def Edit.range (edit : Edit) : Set Nat :=
  Set.Ico edit.location edit.stop

/-- The old part is what stands at the place of the edit. -/
def Edit.Fits (text : List Char) (edit : Edit) : Prop :=
  Text.slice? text edit.location edit.stop = some edit.old

theorem Edit.disjoint_range_iff {edit other : Edit} (hedit : edit.old ≠ []) (hother : other.old ≠ []) :
    Disjoint edit.range other.range ↔ edit.stop ≤ other.location ∨ other.stop ≤ edit.location := by
  have hstop := edit.location_lt_stop hedit
  have hotherStop := other.location_lt_stop hother
  rw [range, range, Set.Ico_disjoint_Ico]
  omega

/-- More text in front of the first old part. -/
theorem Splice.exists_lead (part tail : List Char) (splices : List Splice) (offset : Nat) :
    ∃ splices' tail', source tail' splices' = part ++ source tail splices ∧
      edited tail' splices' = part ++ edited tail splices ∧
      edits offset splices' = edits (offset + Text.byteSize part) splices := by
  cases splices with
  | nil => exact ⟨[], part ++ tail, rfl, rfl, rfl⟩
  | cons splice rest =>
    exact ⟨{ splice with gap := part ++ splice.gap } :: rest, tail, by simp [source], by simp [edited],
      by simp [edits, Nat.add_assoc]⟩

/-- The edits of a layout find their old parts. -/
theorem Splice.fits_of_mem_edits (front tail : List Char) (splices : List Splice) :
    ∀ edit ∈ edits (Text.byteSize front) splices, edit.Fits (front ++ source tail splices) := by
  induction splices generalizing front with
  | nil => simp [edits]
  | cons splice rest ih =>
    have htext : front ++ source tail (splice :: rest) = front ++ splice.gap ++ splice.old ++ source tail rest := by
      simp [source]
    have hrest := ih (front ++ splice.gap ++ splice.old)
    rw [Text.byteSize_append, Text.byteSize_append] at hrest
    rw [edits, List.forall_mem_cons, htext]
    refine ⟨?_, hrest⟩
    have hslice := Text.slice?_append (front ++ splice.gap) splice.old (source tail rest)
    rwa [Text.byteSize_append] at hslice

namespace Edited

/-- An edit is applied exactly if it fits below the floor. -/
theorem apply_eq_ok_iff {text : List Char} {edited next : Edited} {edit : Edit} :
    apply text edited edit = .ok next ↔ (edit.stop ≤ edited.floor ∧ edit.Fits text) ∧
      next = ⟨edit.location, edit.new ++ (Text.slice? text edit.stop edited.floor).getD [] ++ edited.tail⟩ := by
  unfold apply Edit.Fits
  split <;> simp_all [eq_comm]

theorem kind_of_apply {text : List Char} {edited : Edited} {edit : Edit} {error : Error}
    (herror : apply text edited edit = .error error) : error.kind = .invalidEdit := by
  unfold apply at herror
  split at herror
  · cases herror
  · cases herror
    rfl

theorem kind_of_foldlM {text : List Char} {edits : List Edit} {edited : Edited} {error : Error}
    (herror : edits.foldlM (apply text) edited = .error error) : error.kind = .invalidEdit := by
  induction edits generalizing edited with
  | nil => cases herror
  | cons edit rest ih =>
    rw [List.foldlM_cons] at herror
    cases hstep : apply text edited edit with
    | error reason =>
      rw [hstep] at herror
      cases herror
      exact kind_of_apply hstep
    | ok next =>
      rw [hstep] at herror
      exact ih herror

/-- Edits that descend and fit are all applied. -/
theorem exists_foldlM_eq_ok {text : List Char} {edits : List Edit} {edited : Edited}
    (hfits : ∀ edit ∈ edits, edit.Fits text) (hfloor : ∀ edit ∈ edits, edit.stop ≤ edited.floor)
    (hdescend : edits.Pairwise fun edit next => next.stop ≤ edit.location) :
    ∃ final, edits.foldlM (apply text) edited = .ok final := by
  induction edits generalizing edited with
  | nil => exact ⟨edited, rfl⟩
  | cons edit rest ih =>
    rw [List.forall_mem_cons] at hfits hfloor
    rw [List.pairwise_cons] at hdescend
    have hstep := apply_eq_ok_iff.2 ⟨⟨hfloor.1, hfits.1⟩, rfl⟩
    rw [List.foldlM_cons, hstep]
    exact ih hfits.2 hdescend.1 hdescend.2

/-- A text under edits is laid out around the old parts of those that are done: below the floor it is as it was. -/
def Done (text : List Char) (done : List Edit) (edited : Edited) : Prop :=
  ∃ front splices tail, text = front ++ Splice.source tail splices ∧ edited.floor = Text.byteSize front ∧
    Splice.edits (Text.byteSize front) splices = done ∧ edited.tail = Splice.edited tail splices

theorem done_start (text : List Char) : Done text [] ⟨Text.byteSize text, []⟩ :=
  ⟨text, [], [], by simp [Splice.source], rfl, rfl, rfl⟩

theorem Done.step {text : List Char} {done : List Edit} {edited next : Edited} {edit : Edit}
    (hdone : edited.Done text done) (happly : apply text edited edit = .ok next) : next.Done text (edit :: done) := by
  obtain ⟨front, splices, tail, htext, hfloor, hedits, htail⟩ := hdone
  obtain ⟨⟨hbelow, hfits⟩, rfl⟩ := apply_eq_ok_iff.1 happly
  obtain ⟨before, after, hcut, hbefore, hstop⟩ := Text.slice?_eq_some_iff.1 hfits
  have hend : Text.byteSize (before ++ edit.old) = edit.stop := by
    rw [Text.byteSize_append, hbefore, hstop]
  -- The old part ends within the front.
  obtain ⟨between, rfl⟩ := Text.prefix_of_byteSize_le (hcut.symm.trans htext) (hend ▸ hfloor ▸ hbelow)
  have hsize : Text.byteSize (before ++ edit.old ++ between) = edit.stop + Text.byteSize between := by
    rw [Text.byteSize_append, hend]
  have hbetween : Text.slice? text edit.stop edited.floor = some between :=
    Text.slice?_eq_some_iff.2 ⟨before ++ edit.old, Splice.source tail splices, htext, hend, (hfloor.trans hsize).symm⟩
  obtain ⟨splices', tail', hsource, hedited, hlead⟩ := Splice.exists_lead between tail splices edit.stop
  rw [← hsize, hedits] at hlead
  refine ⟨before, { gap := [], old := edit.old, new := edit.new } :: splices', tail', ?_, hbefore.symm, ?_, ?_⟩
  · rw [htext, Splice.source, hsource]
    simp
  · rw [Splice.edits, Text.byteSize_nil, Nat.add_zero, hbefore, hstop, hlead]
  · rw [Splice.edited, hedited, hbetween, htail]
    simp

theorem Done.run {text : List Char} {edits done : List Edit} {edited final : Edited} (hdone : edited.Done text done)
    (hrun : edits.foldlM (apply text) edited = .ok final) : final.Done text (edits.reverse ++ done) := by
  induction edits generalizing edited done with
  | nil =>
    cases hrun
    exact hdone
  | cons edit rest ih =>
    rw [List.foldlM_cons] at hrun
    cases hstep : apply text edited edit with
    | error reason =>
      rw [hstep] at hrun
      cases hrun
    | ok next =>
      rw [hstep] at hrun
      simpa using ih (hdone.step hstep) hrun

end Edited

/-- The result of edits in any order: the text is laid out around their old parts, and has the new parts in their
    places. -/
def Substituted (text : List Char) (edits : List Edit) (result : List Char) : Prop :=
  ∃ splices tail, Splice.source tail splices = text ∧ (Splice.edits 0 splices).Perm edits ∧
    Splice.edited tail splices = result

theorem substituted_congr {edits others : List Edit} (hperm : others.Perm edits) (text result : List Char) :
    Substituted text others result ↔ Substituted text edits result := by
  simp only [Substituted, hperm.congr_right]

theorem substituted_of_mutate {text result : List Char} {edits : List Edit} (hmutate : mutate text edits = .ok result) :
    Substituted text edits result := by
  unfold mutate at hmutate
  simp only [bind, Except.bind] at hmutate
  split at hmutate
  · cases hmutate
  · next final hrun =>
    obtain ⟨front, splices, tail, htext, hfloor, hedits, htail⟩ := (Edited.done_start text).run hrun
    obtain ⟨splices', tail', hsource, hedited, hlead⟩ := Splice.exists_lead front tail splices 0
    rw [Nat.zero_add, hedits, List.append_nil] at hlead
    refine ⟨splices', tail', by rw [hsource, htext], ?_, ?_⟩
    · rw [hlead]
      exact (List.reverse_perm _).trans (List.mergeSort_perm edits _)
    · have htake := Text.takeBytes?_byteSize_append front (Splice.source tail splices)
      rw [← htext, ← hfloor] at htake
      cases hmutate
      rw [hedited, htake, htail]
      rfl

theorem kind_of_mutate {text : List Char} {edits : List Edit} {error : Error}
    (herror : mutate text edits = .error error) : error.kind = .invalidEdit := by
  unfold mutate at herror
  simp only [bind, Except.bind] at herror
  split at herror
  · next reason hrun =>
    cases herror
    exact Edited.kind_of_foldlM hrun
  · cases herror

theorem mutate_of_substituted {text result : List Char} {edits : List Edit} (hold : ∀ edit ∈ edits, edit.old ≠ [])
    (hresult : Substituted text edits result) : mutate text edits = .ok result := by
  obtain ⟨splices, tail, rfl, hperm, rfl⟩ := hresult
  refine Splice.mutate_edits ?_ tail hperm.symm
  have holds : ∀ old ∈ (Splice.edits 0 splices).map Edit.old, old ≠ [] := by
    simpa using fun edit hedit => hold edit (hperm.mem_iff.1 hedit)
  simpa [Splice.map_old_edits] using holds

theorem exists_mutate_eq_ok {text : List Char} {edits : List Edit} (hold : ∀ edit ∈ edits, edit.old ≠ [])
    (hdisjoint : edits.Pairwise fun edit other => Disjoint edit.range other.range)
    (hfits : ∀ edit ∈ edits, edit.Fits text) : ∃ result, mutate text edits = .ok result := by
  have hperm := List.mergeSort_perm edits fun a b => b.location ≤ a.location
  have hapart := hperm.symm.pairwise hdisjoint fun hdisjoint => hdisjoint.symm
  have hdescend : (edits.mergeSort fun a b => b.location ≤ a.location).Pairwise
      fun edit next => next.stop ≤ edit.location := by
    refine ((Splice.pairwise_mergeSort edits).and hapart).imp_of_mem ?_
    rintro edit next hedit hnext ⟨horder, hdisjoint⟩
    have hedit := hold edit (hperm.mem_iff.1 hedit)
    have hnext := hold next (hperm.mem_iff.1 hnext)
    have hstop := edit.location_lt_stop hedit
    rw [Edit.disjoint_range_iff hedit hnext] at hdisjoint
    omega
  have hbelow : ∀ edit ∈ edits, edit.stop ≤ Text.byteSize text := by
    intro edit hedit
    obtain ⟨before, after, rfl, hbefore, hstop⟩ := Text.slice?_eq_some_iff.1 (hfits edit hedit)
    rw [Text.byteSize_append, Text.byteSize_append]
    omega
  obtain ⟨final, hrun⟩ := @Edited.exists_foldlM_eq_ok text _ ⟨Text.byteSize text, []⟩
    (fun edit hedit => hfits edit (hperm.mem_iff.1 hedit)) (fun edit hedit => hbelow edit (hperm.mem_iff.1 hedit))
    hdescend
  rw [mutate]
  simp only [hrun, bind, Except.bind, pure, Except.pure]
  exact ⟨_, rfl⟩

theorem Substituted.disjoint {text result : List Char} {edits : List Edit} (hresult : Substituted text edits result) :
    edits.Pairwise fun edit other => Disjoint edit.range other.range := by
  obtain ⟨splices, tail, -, hperm, -⟩ := hresult
  refine hperm.pairwise ?_ fun hdisjoint => hdisjoint.symm
  refine (Splice.edits_apart 0 splices).2.imp fun {edit later} hstop => ?_
  rw [Edit.range, Edit.range, Set.Ico_disjoint_Ico]
  omega

theorem Substituted.fits {text result : List Char} {edits : List Edit} (hresult : Substituted text edits result) :
    ∀ edit ∈ edits, edit.Fits text := by
  obtain ⟨splices, tail, rfl, hperm, -⟩ := hresult
  intro edit hedit
  exact Splice.fits_of_mem_edits [] tail splices edit (hperm.mem_iff.2 hedit)

/-- Edits are taken together or not at all: they are taken if and only if their bytes are apart and each finds its old
    part. Then the new parts stand in the places of the old ones and all else is as it was; otherwise the error is one
    about edits. The order of the edits does not matter. -/
theorem mutate_ok_iff_disjoint (text : List Char) (edits : List Edit) (hold : ∀ edit ∈ edits, edit.old ≠ []) :
    ((∃ result, mutate text edits = .ok result) ↔
      (edits.Pairwise fun edit other => Disjoint edit.range other.range) ∧ ∀ edit ∈ edits, edit.Fits text) ∧
    (∀ result, mutate text edits = .ok result ↔ Substituted text edits result) ∧
    (∀ error, mutate text edits = .error error → error.kind = .invalidEdit) ∧
    ∀ others, others.Perm edits → ∀ result, mutate text others = .ok result ↔ mutate text edits = .ok result := by
  have hresult : ∀ given, given.Perm edits → ∀ result,
      mutate text given = .ok result ↔ Substituted text edits result := by
    intro given hgiven result
    rw [← substituted_congr hgiven]
    exact ⟨substituted_of_mutate, mutate_of_substituted fun edit hedit => hold edit (hgiven.mem_iff.1 hedit)⟩
  refine ⟨⟨?_, fun htaken => exists_mutate_eq_ok hold htaken.1 htaken.2⟩, hresult edits (.refl _),
    fun error => kind_of_mutate, ?_⟩
  · rintro ⟨result, hmutate⟩
    have hsubstituted := substituted_of_mutate hmutate
    exact ⟨hsubstituted.disjoint, hsubstituted.fits⟩
  · intro others hothers result
    rw [hresult others hothers, hresult edits (.refl _)]

/-- Three letters of three bytes each, edited out of their order. -/
def letterEdits : List Edit :=
  [⟨3, ['本'], ['x']⟩, ⟨6, ['語'], []⟩, ⟨0, ['日'], ['ж', 'ж']⟩]

theorem mutate_ok_iff_disjoint_letterEdits :
    (∀ edit ∈ letterEdits, edit.old ≠ []) ∧
      mutate ['日', '本', '語'] letterEdits = .ok ['ж', 'ж', 'x'] ∧
      mutate ['日', '本', '語'] letterEdits.reverse = .ok ['ж', 'ж', 'x'] := by
  have hold : ∀ edit ∈ letterEdits, edit.old ≠ [] := by simp [letterEdits]
  obtain ⟨-, hresult, -, hperm⟩ := mutate_ok_iff_disjoint ['日', '本', '語'] letterEdits hold
  have hmutate := (hresult ['ж', 'ж', 'x']).2
    ⟨[⟨[], ['日'], ['ж', 'ж']⟩, ⟨[], ['本'], ['x']⟩, ⟨[], ['語'], []⟩], [], rfl, by decide, rfl⟩
  exact ⟨hold, hmutate, (hperm _ letterEdits.reverse_perm _).2 hmutate⟩

end AnnotatedSql.Source
