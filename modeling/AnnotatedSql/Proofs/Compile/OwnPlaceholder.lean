import AnnotatedSql.Proofs.Compile.Numbering
import AnnotatedSql.Proofs.Compile.Success
import AnnotatedSql.Proofs.Compile.WalkOrder
import AnnotatedSql.Proofs.Sql.Lexer

/-!
Parameters and the placeholders that they point at. The tree and the text of a statement are matched by position
alone, so a parameter has the number of its own placeholder exactly if the walk meets the placeholders in the order
of the text. `OFFSET` before `LIMIT` keeps that order only where both operands are bare placeholders.
-/
namespace AnnotatedSql

open Sql (Statement)

namespace Placeholder

/-- A placeholder stands where its first token stands. -/
theorem occurrencesFrom_sublist (text : List Char) (before : List Sql.Token) (lexemes : List Sql.Lexeme) :
    ((occurrencesFrom text before lexemes).map Occurrence.location).Sublist (lexemes.map Sql.Lexeme.start) := by
  fun_induction occurrencesFrom text before lexemes with
  | case1 => exact .slnil
  | case2 before lexeme rest _ ih => exact .cons _ ih
  | case3 before lexeme rest kind size _ taken after stop ih =>
    exact .cons_cons _ (ih.trans ((List.drop_sublist _ _).map _))

/-- The placeholders of a text stand one after the other. -/
theorem locate_ordered {dialect : Dialect} {text : List Char} {occurrences : List Occurrence}
    (hlocate : locate dialect text = .ok occurrences) : occurrences.Pairwise (·.location < ·.location) := by
  unfold locate at hlocate
  split at hlocate
  · cases hlocate
  · next lexemes hlex =>
    cases hlocate
    have hstarts : (lexemes.map Sql.Lexeme.start).Pairwise (· < ·) := List.pairwise_map.2 (Sql.lex_ordered hlex)
    exact List.pairwise_map.1 (hstarts.sublist (occurrencesFrom_sublist text [] lexemes))

end Placeholder

/-- The marks of a walk, with `LIMIT` and `OFFSET` exchanged where their operands stand the other way round. -/
def alignMarks : List Mark → List Occurrence → List Mark
  | a :: b :: rest, o :: p :: others =>
    if a.slot = some .limit ∧ b.slot = some .offset ∧ o.slot = some .offset ∧ p.slot = some .limit then
      b :: a :: alignMarks rest others
    else a :: alignMarks (b :: rest) (p :: others)
  | marks, _ => marks

theorem Context.slot?_eq_limit {context : Context} : context.slot? = some .limit ↔ context = .limit := by
  cases context <;> simp [slot?]

theorem Context.slot?_eq_offset {context : Context} : context.slot? = some .offset ↔ context = .offset := by
  cases context <;> simp [slot?]

theorem map_alignLimits (found : List Found) (occurrences : List Occurrence) :
    (alignLimits found occurrences).map Found.mark = alignMarks (found.map Found.mark) occurrences := by
  fun_induction alignLimits found occurrences with
  | case1 a b rest o p others halign ih =>
    have hmarks : a.mark.slot = some .limit ∧ b.mark.slot = some .offset :=
      ⟨Context.slot?_eq_limit.2 halign.1, Context.slot?_eq_offset.2 halign.2.1⟩
    simp only [List.map_cons, alignMarks, ih]
    rw [if_pos ⟨hmarks.1, hmarks.2, halign.2.2⟩]
  | case2 a b rest o p others halign ih =>
    simp only [List.map_cons, alignMarks] at ih ⊢
    rw [if_neg, ih]
    rintro ⟨ha, hb, hrest⟩
    exact halign ⟨Context.slot?_eq_limit.1 ha, Context.slot?_eq_offset.1 hb, hrest⟩
  | case3 found occurrences hshort =>
    match found, occurrences with
    | [], _ => simp [alignMarks]
    | [_], _ => simp [alignMarks]
    | _ :: _ :: _, [] => simp [alignMarks]
    | _ :: _ :: _, [_] => simp [alignMarks]
    | a :: b :: rest, o :: p :: others => exact absurd rfl (hshort a b rest o p others rfl)

theorem length_alignMarks (marks : List Mark) (occurrences : List Occurrence) :
    (alignMarks marks occurrences).length = marks.length := by
  fun_induction alignMarks marks occurrences <;> simp_all

/-- The walk meets the placeholders in the order of the text: a number in the spelling of one is the ordinal of the
    placeholder that stands at its place in the text. -/
def MetInOrder (statement : Statement) (occurrences : List Occurrence) (ordinals : List Nat) : Prop :=
  ∀ pair ∈ (alignMarks statement.marks occurrences).zip ordinals, ∀ number ∈ pair.1.number, number = pair.2

instance (statement : Statement) (occurrences : List Occurrence) (ordinals : List Nat) :
    Decidable (MetInOrder statement occurrences ordinals) :=
  inferInstanceAs (Decidable (∀ pair ∈ (alignMarks statement.marks occurrences).zip ordinals,
    ∀ number ∈ pair.1.number, number = pair.2))

/-- Numbers that fall back on ordinals are the ordinals if no number differs from its ordinal. -/
theorem zipWith_getD_eq_iff {marks : List Mark} {ordinals : List Nat} (hlength : marks.length = ordinals.length) :
    marks.zipWith (fun mark ordinal => mark.number.getD ordinal) ordinals = ordinals ↔
      ∀ pair ∈ marks.zip ordinals, ∀ number ∈ pair.1.number, number = pair.2 := by
  induction marks generalizing ordinals with
  | nil => simp [List.eq_nil_of_length_eq_zero hlength.symm]
  | cons mark marks ih =>
    obtain ⟨ordinal, ordinals, rfl⟩ := List.exists_cons_of_length_eq_add_one hlength.symm
    have hrest := @ih ordinals (by simpa using hlength)
    simp only [List.zipWith_cons_cons, List.zip_cons_cons, List.cons.injEq, List.forall_mem_cons, hrest]
    refine and_congr_left fun _ => ?_
    cases mark.number <;> simp

namespace Reference

/-- A reference stands at the placeholder of its place in the text. It has that placeholder's number exactly if the
    walk meets the placeholders in the order of the text. -/
theorem ofStatement_ok {walk : Walk} {statement : Statement} {occurrences : List Occurrence} {ordinals : List Nat}
    {references : List Reference} (hlength : ordinals.length = occurrences.length)
    (hreferences : ofStatement walk statement occurrences ordinals = .ok references) :
    references.map location = occurrences.map Occurrence.location ∧
      (references.map number = ordinals ↔ MetInOrder statement occurrences ordinals) := by
  obtain ⟨found, hfound, hreferences⟩ := bind_eq_ok.1 hreferences
  split at hreferences
  · cases hreferences
  · next hcount =>
    cases hreferences
    have hmarks : found.map Found.mark = statement.marks := walk.statement_marks statement found hfound
    have haligned : alignMarks statement.marks occurrences = (alignLimits found occurrences).map Found.mark := by
      rw [map_alignLimits, hmarks]
    have hsize : (alignMarks statement.marks occurrences).length = ordinals.length := by
      rw [length_alignMarks, ← hmarks, List.length_map, hlength]
      exact not_not.1 hcount
    rw [MetInOrder, ← zipWith_getD_eq_iff hsize, haligned]
    rw [haligned, List.length_map] at hsize
    constructor
    · refine List.ext_getElem (by simp; omega) fun i _ _ => ?_
      simp [ofFound]
    · refine Eq.congr (List.ext_getElem (by simp; omega) fun i _ _ => ?_) rfl
      simp [ofFound, Found.mark]

theorem merge?_eq_some {references : List Reference} {merged : Reference} (hmerged : merge? references = some merged) :
    ∃ first ∈ references, merged.number = first.number ∧ merged.location = first.location := by
  unfold merge? at hmerged
  split at hmerged
  · cases hmerged
  · next first rest =>
    refine ⟨first, List.mem_cons_self, ?_⟩
    split at hmerged
    · split at hmerged <;> cases hmerged <;> exact ⟨rfl, rfl⟩
    · cases hmerged
      exact ⟨rfl, rfl⟩

/-- References that are merged keep the number and the place of one of them. -/
theorem mem_unique {references : List Reference} {merged : Reference} (hmerged : merged ∈ unique references) :
    ∃ first ∈ references, merged.number = first.number ∧ merged.location = first.location := by
  obtain ⟨number, _, hmerge⟩ := List.mem_filterMap.1 hmerged
  obtain ⟨first, hfirst, hsame⟩ := merge?_eq_some hmerge
  exact ⟨first, List.mem_of_mem_filter hfirst, hsame⟩

theorem resolve_ok {catalog : Catalog} {numbering : Numbering} {reference : Reference} {param : Parameter}
    (hparam : reference.resolve catalog numbering = .ok param) :
    param.number = reference.number ∧ param.location = reference.location := by
  obtain ⟨column, _, hparam⟩ := bind_eq_ok.1 hparam
  cases hparam
  exact ⟨rfl, rfl⟩

end Reference

/-- Columns of pairs under different keys are the same if each pair of the one is a pair of the other. -/
theorem eq_of_zip_subset {keys : List Nat} {values others : List Nat} (hkeys : keys.Nodup)
    (hvalues : values.length = keys.length) (hothers : others.length = keys.length)
    (hsubset : ∀ pair ∈ keys.zip values, pair ∈ keys.zip others) : values = others := by
  induction keys generalizing values others with
  | nil => rw [List.eq_nil_of_length_eq_zero hvalues, List.eq_nil_of_length_eq_zero hothers]
  | cons key keys ih =>
    obtain ⟨value, values, rfl⟩ := List.exists_cons_of_length_eq_add_one hvalues
    obtain ⟨other, others, rfl⟩ := List.exists_cons_of_length_eq_add_one hothers
    rw [List.nodup_cons] at hkeys
    simp only [List.zip_cons_cons, List.mem_cons] at hsubset
    have hvalue : value = other := by
      rcases hsubset (key, value) (.inl rfl) with hhead | hhead
      · exact congrArg Prod.snd hhead
      · exact absurd (List.of_mem_zip hhead).1 hkeys.1
    have hrest : values = others := by
      refine ih hkeys.2 (by simpa using hvalues) (by simpa using hothers) fun pair hpair => ?_
      rcases hsubset pair (.inr hpair) with rfl | hmem
      · exact absurd (List.of_mem_zip hpair).1 hkeys.1
      · exact hmem
    rw [hvalue, hrest]

namespace Annotated

/-- The walk of the numbered tree meets the placeholders in the order of the text. -/
def InOrder (given : Annotated) : Prop :=
  MetInOrder given.numbered given.occurrences given.numbering.ordinals

/-- Where the placeholders stand, each with its number. -/
def places (given : Annotated) : List (Nat × Nat) :=
  (given.occurrences.map Occurrence.location).zip given.numbering.ordinals

variable {catalog : Catalog} {options : CompileOptions} {given : Annotated} {references : List Reference}

theorem references_ok (hreferences : given.references catalog options = .ok references) :
    references.map Reference.location = given.occurrences.map Occurrence.location ∧
      (references.map Reference.number = given.numbering.ordinals ↔ given.InOrder) :=
  Reference.ofStatement_ok (Numbering.length_ordinals given.occurrences) hreferences

/-- Met in order, every reference stands at a placeholder of its own number. -/
theorem InOrder.mem_places (horder : given.InOrder) (hreferences : given.references catalog options = .ok references)
    {reference : Reference} (hmem : reference ∈ references) :
    (reference.location, reference.number) ∈ given.places := by
  obtain ⟨hlocations, hnumbers⟩ := references_ok hreferences
  rw [places, ← hlocations, ← hnumbers.2 horder, List.zip_map']
  exact List.mem_map_of_mem hmem

theorem params_eq {resolved : List Reference} {params : List Parameter}
    (hparams : resolved.mapM (Reference.resolve catalog given.numbering) = .ok params) :
    (params.map fun param => (param.location, param.number)) =
      resolved.map fun reference => (reference.location, reference.number) := by
  have hresolved := forall₂_of_mapM_eq_ok hparams
  clear hparams
  induction hresolved with
  | nil => rfl
  | cons hparam _ ih =>
    obtain ⟨hnumber, hlocation⟩ := Reference.resolve_ok hparam
    rw [List.map_cons, List.map_cons, hnumber, hlocation, ih]

theorem ReadFrom.nodup_locations {dialect : Dialect} {source : List Char} (hread : given.ReadFrom dialect source) :
    (given.occurrences.map Occurrence.location).Nodup :=
  (List.pairwise_map.2 (Placeholder.locate_ordered hread.located)).imp Nat.ne_of_lt

end Annotated

end AnnotatedSql
