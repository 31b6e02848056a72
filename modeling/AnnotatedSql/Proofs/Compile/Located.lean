import AnnotatedSql.Proofs.Compile.Numbering
import AnnotatedSql.Proofs.Source.Substitution
import AnnotatedSql.Proofs.Sql.Lexer
import AnnotatedSql.Proofs.Text.Position

/-!
Where placeholders are located. Each stands at the bytes of its own text, one behind the other, so that any of them can
be replaced: the edits that number named parameters and those that make all placeholders positional are always taken
(`locate_editable`).
-/
namespace AnnotatedSql

open Sql (Grammar Lexeme Token)
open Sql.Lexer (lexFrom)
open Source (Edit mutate)

/-- Byte offset after its last character. -/
def Occurrence.stop (occurrence : Occurrence) : Nat :=
  occurrence.location + Text.byteSize occurrence.text.toList

/-- The text of a placeholder is not empty, and it is what stands at its place. -/
structure Occurrence.StandsIn (text : List Char) (occurrence : Occurrence) : Prop where
  nonempty : occurrence.text.toList ≠ []
  slice : Text.slice? text occurrence.location occurrence.stop = some occurrence.text.toList

theorem Text.leadsBack_of_slice? {text part : List Char} {start stop : Nat}
    (hslice : slice? text start stop = some part) : LeadsBack text start ∧ LeadsBack text stop := by
  obtain ⟨before, after, rfl, rfl, rfl⟩ := slice?_eq_some_iff.1 hslice
  constructor
  · rw [List.append_assoc]
    exact leadsBack_byteSize before (part ++ after)
  · rw [← byteSize_append]
    exact leadsBack_byteSize (before ++ part) after

/-- A token stands on characters of its text. -/
theorem Sql.Lexer.exists_slice? {grammar : Grammar} {front cs : List Char} {lexemes : List Lexeme}
    (hlex : lexFrom grammar (Text.byteSize front) cs = some lexemes) {lexeme : Lexeme} (hmem : lexeme ∈ lexemes) :
    ∃ part, Text.slice? (front ++ cs) lexeme.start lexeme.stop = some part := by
  obtain ⟨earlier, later, rfl⟩ := List.append_of_mem hmem
  obtain ⟨before, rest, rfl, -, hrest, -⟩ := exists_part hlex
  rw [← Text.byteSize_append] at hrest
  have hstart := (lexFrom_cons hrest).1
  obtain ⟨part, after, rfl, -, -, hstop⟩ := @exists_part _ _ _ [lexeme] later hrest
  refine ⟨part, Text.slice?_eq_some_iff.2 ⟨front ++ before, after, by simp, hstart.symm, ?_⟩⟩
  rw [hstart]
  exact hstop.symm

/-- The first tokens behind a front: the part of the text that they take, and the tokens of the rest. -/
theorem Sql.Lexer.exists_group_behind {grammar : Grammar} {front cs : List Char} {lexeme : Lexeme}
    {all more rest : List Lexeme} (hlex : lexFrom grammar (Text.byteSize front) cs = some all)
    (hshown : all.filter (·.token != .blank) = (lexeme :: more) ++ rest) :
    ∃ gap part behind after, cs = gap ++ (part ++ behind) ∧ part ≠ [] ∧
      lexeme.start = Text.byteSize (front ++ gap) ∧
      ((lexeme :: more).getLast?.map Lexeme.stop).getD lexeme.stop = lexeme.start + Text.byteSize part ∧
      lexFrom grammar (Text.byteSize (front ++ gap ++ part)) behind = some after ∧
      after.filter (·.token != .blank) = rest := by
  obtain ⟨gap, _, b, old, behind, after, hcs, -, -, hstart, -, hstop, hbehind, hafter⟩ := exists_group hlex hshown
  rw [hstart, ← Text.byteSize_append, ← Text.byteSize_append] at hbehind
  exact ⟨gap, b :: old, behind, after, hcs.symm, List.cons_ne_nil _ _, by rw [hstart, Text.byteSize_append], hstop,
    hbehind, hafter⟩

namespace Placeholder

/-- Placeholders behind a front stand in the text one behind the other. -/
theorem occurrencesFrom_standsIn {grammar : Grammar} {text front cs : List Char} (htext : text = front ++ cs)
    {all lexemes : List Lexeme} (hlex : lexFrom grammar (Text.byteSize front) cs = some all)
    (hshown : all.filter (·.token != .blank) = lexemes) (before : List Token) :
    (∀ occurrence ∈ occurrencesFrom text before lexemes,
      Text.byteSize front ≤ occurrence.location ∧ occurrence.StandsIn text) ∧
    (occurrencesFrom text before lexemes).Pairwise fun occurrence later => occurrence.stop ≤ later.location := by
  fun_induction occurrencesFrom text before lexemes generalizing front cs all with
  | case1 => exact ⟨by simp, .nil⟩
  | case2 before lexeme rest _ ih =>
    obtain ⟨gap, part, behind, after, rfl, -, -, -, hbehind, hafter⟩ :=
      @Sql.Lexer.exists_group_behind _ _ _ _ _ [] rest hlex hshown
    obtain ⟨hstands, hapart⟩ := ih (by simp [htext]) hbehind hafter
    refine ⟨fun occurrence hoccurrence => ?_, hapart⟩
    have hle := (hstands occurrence hoccurrence).1
    simp only [Text.byteSize_append] at hle
    exact ⟨by omega, (hstands occurrence hoccurrence).2⟩
  | case3 before lexeme rest kind size _ taken others =>
    rename_i stop ih
    have hgroup : lexeme :: rest = taken ++ others := by simp [taken, others]
    obtain ⟨gap, part, behind, after, rfl, hpart, hstart, hstop, hbehind, hafter⟩ :=
      Sql.Lexer.exists_group_behind hlex (hshown.trans hgroup)
    obtain ⟨hstands, hapart⟩ := ih (by simp [htext]) hbehind hafter
    have hstop : stop = lexeme.start + Text.byteSize part := hstop
    have hslice : Text.slice? text lexeme.start (lexeme.start + Text.byteSize part) = some part :=
      Text.slice?_eq_some_iff.2 ⟨front ++ gap, behind, by simp [htext], hstart.symm, rfl⟩
    rw [hstop, hslice, List.forall_mem_cons, List.pairwise_cons]
    simp only [Text.byteSize_append] at hstands hstart
    refine ⟨⟨⟨by simp only; omega, ?_⟩, fun occurrence hoccurrence => ?_⟩, fun later hlater => ?_, hapart⟩
    · exact ⟨by simpa using hpart, by simpa [Occurrence.stop] using hslice⟩
    · obtain ⟨hle, hstandsIn⟩ := hstands occurrence hoccurrence
      exact ⟨by omega, hstandsIn⟩
    · have hle := (hstands later hlater).1
      simp only [Occurrence.stop, Option.getD_some, String.toList_ofList]
      omega

theorem not_placeholder_of_nameAfter {lexeme : Lexeme} {rest : List Lexeme} {form : NamedForm}
    {kind : PlaceholderKind} {size : Nat} (hname : front?.nameAfter lexeme rest form = some (kind, size)) :
    ∀ other ∈ rest.take (size - 1), ∀ spelling, other.token ≠ .placeholder spelling := by
  unfold front?.nameAfter at hname
  split at hname
  · split at hname
    · cases hname
      simp
    · cases hname
  · cases hname

theorem not_placeholder_of_helper? {rest : List Lexeme} {kind : PlaceholderKind} (hhelper : helper? rest = some kind) :
    ∀ other ∈ rest.take 5, ∀ spelling, other.token ≠ .placeholder spelling := by
  unfold helper? at hhelper
  split at hhelper
  · obtain ⟨form, -, harg⟩ := Option.bind_eq_some_iff.1 hhelper
    split at harg
    · simp
    · simp
    · cases harg
  · cases hhelper

/-- The tokens that a placeholder takes with it are no placeholders themselves. -/
theorem not_placeholder_of_front? {lexeme : Lexeme} {rest : List Lexeme} {kind : PlaceholderKind} {size : Nat}
    (hfront : front? lexeme rest = some (kind, size)) :
    ∀ other ∈ rest.take (size - 1), ∀ spelling, other.token ≠ .placeholder spelling := by
  unfold front? at hfront
  split at hfront
  · obtain ⟨_, -, hsize⟩ := Option.map_eq_some_iff.1 hfront
    cases hsize
    simp
  · exact not_placeholder_of_nameAfter hfront
  · exact not_placeholder_of_nameAfter hfront
  · split at hfront
    · cases hfront
      simp
    · split at hfront
      · obtain ⟨_, hhelper, hsize⟩ := Option.map_eq_some_iff.1 hfront
        cases hsize
        exact not_placeholder_of_helper? hhelper
      · cases hfront
  · cases hfront

/-- Every token that spells a placeholder is located. -/
theorem exists_occurrence (text : List Char) (before : List Token) (lexemes : List Lexeme) {lexeme : Lexeme}
    (hmem : lexeme ∈ lexemes) {spelling : String} (htoken : lexeme.token = .placeholder spelling)
    {kind : PlaceholderKind} (hkind : kindOf? spelling = some kind) :
    ∃ occurrence ∈ occurrencesFrom text before lexemes,
      occurrence.location = lexeme.start ∧ occurrence.kind = kind := by
  have hown : ∀ rest, front? lexeme rest = some (kind, 1) := by simp [front?, htoken, hkind]
  fun_induction occurrencesFrom text before lexemes with
  | case1 => simp at hmem
  | case2 before first rest hfront ih =>
    rcases List.mem_cons.1 hmem with rfl | hmem
    · rw [hown rest] at hfront
      cases hfront
    · exact ih hmem
  | case3 before first rest other size hfront taken others stop ih =>
    rcases List.mem_cons.1 hmem with rfl | hmem
    · rw [hown rest] at hfront
      cases hfront
      exact ⟨_, List.mem_cons_self, rfl, rfl⟩
    · rw [← List.take_append_drop (size - 1) rest, List.mem_append] at hmem
      rcases hmem with htaken | hother
      · exact absurd htoken (not_placeholder_of_front? hfront lexeme htaken spelling)
      · obtain ⟨occurrence, hoccurrence, hlocated⟩ := ih hother
        exact ⟨occurrence, List.mem_cons_of_mem _ hoccurrence, hlocated⟩

end Placeholder

/-- Some of the placeholders of a text can be replaced together, each by any text. -/
theorem exists_mutate_of_located {text : List Char} {occurrences : List Occurrence}
    (hstands : ∀ occurrence ∈ occurrences, occurrence.StandsIn text)
    (hapart : occurrences.Pairwise fun occurrence later => occurrence.stop ≤ later.location) {edits : List Edit}
    (hplaces : (edits.map fun edit => (edit.location, edit.old)).Sublist
      (occurrences.map fun occurrence => (occurrence.location, occurrence.text.toList))) :
    ∃ edited, mutate text edits = .ok edited := by
  have hplace : ∀ edit ∈ edits, edit.old ≠ [] ∧ edit.Fits text := by
    intro edit hedit
    obtain ⟨occurrence, hoccurrence, hsame⟩ := List.mem_map.1 (hplaces.subset (List.mem_map_of_mem hedit))
    obtain ⟨hlocation, hold⟩ := Prod.mk.inj hsame
    obtain ⟨hne, hslice⟩ := hstands occurrence hoccurrence
    rw [Occurrence.stop, hlocation, hold] at hslice
    exact ⟨hold ▸ hne, hslice⟩
  have hends : (edits.map fun edit => (edit.location, edit.old)).Pairwise
      fun place later => place.1 + Text.byteSize place.2 ≤ later.1 :=
    (List.pairwise_map.2 hapart).sublist hplaces
  refine Source.exists_mutate_eq_ok (fun edit hedit => (hplace edit hedit).1) ?_ fun edit hedit => (hplace edit hedit).2
  refine (List.pairwise_map.1 hends).imp_of_mem fun {edit later} hedit hlater hend => ?_
  exact (Edit.disjoint_range_iff (hplace edit hedit).1 (hplace later hlater).1).2 (.inl hend)

theorem places_positionalEdits (occurrences : List Occurrence) :
    ((positionalEdits occurrences).map fun edit => (edit.location, edit.old)).Sublist
      (occurrences.map fun occurrence => (occurrence.location, occurrence.text.toList)) := by
  rw [positionalEdits, List.map_map]
  exact List.filter_sublist.map _

theorem Numbering.places_edits (occurrences : List Occurrence) :
    (((ofOccurrences occurrences).edits occurrences).map fun edit => (edit.location, edit.old)).Sublist
      (occurrences.map fun occurrence => (occurrence.location, occurrence.text.toList)) := by
  rw [edits_eq_filterMap]
  generalize ofOccurrences occurrences = numbering
  induction occurrences with
  | nil => exact .slnil
  | cons occurrence rest ih =>
    rw [List.filterMap_cons]
    cases hedit : numbering.edit? occurrence with
    | none => exact .cons _ ih
    | some edit =>
      obtain ⟨number, -, rfl⟩ := Option.map_eq_some_iff.1 hedit
      exact .cons_cons _ ih

/-- Placeholders are located wherever the text is read as tokens. Line and column of every token lead back to its
    offsets; every token that spells a placeholder is located; the placeholders have texts that stand at their places,
    one behind the other; and the edits that are made from them are taken. -/
theorem locate_editable {dialect : Dialect} {text : List Char} {lexemes : List Lexeme}
    (hlex : Sql.lex dialect.grammar text = some lexemes) :
    ∃ occurrences, Placeholder.locate dialect text = .ok occurrences ∧
      (∀ lexeme ∈ lexemes, Text.LeadsBack text lexeme.start ∧ Text.LeadsBack text lexeme.stop) ∧
      (∀ lexeme ∈ lexemes, ∀ spelling kind, lexeme.token = .placeholder spelling →
        Placeholder.kindOf? spelling = some kind →
        ∃ occurrence ∈ occurrences, occurrence.location = lexeme.start ∧ occurrence.kind = kind) ∧
      (∀ occurrence ∈ occurrences, occurrence.StandsIn text) ∧
      (occurrences.Pairwise fun occurrence later =>
        occurrence.location < later.location ∧ occurrence.stop ≤ later.location) ∧
      (∃ edited, mutate text (positionalEdits occurrences) = .ok edited) ∧
      ∃ edited, mutate text ((Numbering.ofOccurrences occurrences).edits occurrences) = .ok edited := by
  obtain ⟨all, hall, hshown⟩ := Option.map_eq_some_iff.1 hlex
  have hplaced := Placeholder.occurrencesFrom_standsIn (List.nil_append text).symm hall hshown []
  have hstands := fun occurrence hoccurrence => (hplaced.1 occurrence hoccurrence).2
  refine ⟨Placeholder.occurrencesFrom text [] lexemes, by rw [Placeholder.locate, hlex], ?_, ?_, hstands, ?_, ?_, ?_⟩
  · intro lexeme hlexeme
    rw [← hshown] at hlexeme
    obtain ⟨part, hslice⟩ := @Sql.Lexer.exists_slice? _ [] _ _ hall _ (List.mem_of_mem_filter hlexeme)
    exact Text.leadsBack_of_slice? hslice
  · intro lexeme hlexeme spelling kind htoken hkind
    exact Placeholder.exists_occurrence text [] lexemes hlexeme htoken hkind
  · refine hplaced.2.imp_of_mem fun {occurrence later} hoccurrence _ hstop => ⟨?_, hstop⟩
    have hpos := Text.byteSize_pos (hstands occurrence hoccurrence).nonempty
    rw [Occurrence.stop] at hstop
    omega
  · exact exists_mutate_of_located hstands hplaced.2 (places_positionalEdits _)
  · exact exists_mutate_of_located hstands hplaced.2 (Numbering.places_edits _)

/-- Placeholders on three lines behind a letter of two bytes, one of them of six tokens. -/
def scatteredText : List Char :=
  "SELECT 'é', :a,\n sqlc . narg ( /* of */ b )\n, @a".toList

theorem locate_editable_scatteredText :
    ∃ lexemes occurrences, Sql.lex Dialect.postgreSQL.grammar scatteredText = some lexemes ∧
      Placeholder.locate .postgreSQL scatteredText = .ok occurrences ∧
      occurrences.map (fun occurrence => (occurrence.location, occurrence.stop)) = [(13, 15), (18, 44), (47, 49)] ∧
      (∃ edited, mutate scatteredText (positionalEdits occurrences) = .ok edited) ∧
      ∃ edited, mutate scatteredText ((Numbering.ofOccurrences occurrences).edits occurrences) = .ok edited := by
  obtain ⟨lexemes, hlex⟩ := Option.isSome_iff_exists.1
    (by decide +kernel : (Sql.lex Dialect.postgreSQL.grammar scatteredText).isSome = true)
  obtain ⟨occurrences, hlocate, -, -, -, -, hpositional, hnumbered⟩ := locate_editable hlex
  have hplaces : (Placeholder.locate .postgreSQL scatteredText).map
      (·.map fun occurrence => (occurrence.location, occurrence.stop)) = .ok [(13, 15), (18, 44), (47, 49)] := by
    decide +kernel
  rw [hlocate] at hplaces
  exact ⟨lexemes, occurrences, hlex, hlocate, Except.ok.inj hplaces, hpositional, hnumbered⟩

end AnnotatedSql
