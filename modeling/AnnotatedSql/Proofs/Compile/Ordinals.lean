import AnnotatedSql.Compile.Check
import AnnotatedSql.Proofs.Compile.Numbering
import Mathlib.Data.List.Perm.Subperm
import Mathlib.Order.Bounds.Defs

/-!
Ordinals of placeholders that pass the checks. Whatever their style, the ordinals leave no number out; those of named
parameters are given by first appearance (`gapless_of_checked`).
-/
namespace AnnotatedSql

/-- The numbers from 1 up to some bound and no others, in any order. -/
def Gapless (numbers : List Nat) : Prop :=
  ∃ count, ∀ number, number ∈ numbers ↔ 0 < number ∧ number ≤ count

theorem firstMissing?_eq_some {numbers : List Nat} {start count missing : Nat}
    (hmissing : firstMissing? numbers start count = some missing) :
    start ≤ missing ∧ missing ∉ numbers ∧ ∀ number, start ≤ number → number < missing → number ∈ numbers := by
  induction count generalizing start with
  | zero => cases hmissing
  | succ count ih =>
    simp only [firstMissing?, List.contains_iff_mem] at hmissing
    split at hmissing
    · next hstart =>
      obtain ⟨hle, hnot, hbelow⟩ := ih hmissing
      refine ⟨by omega, hnot, fun number hnumber hlt => ?_⟩
      rcases Nat.eq_or_lt_of_le hnumber with rfl | hgt
      · exact hstart
      · exact hbelow number hgt hlt
    · next hstart =>
      cases hmissing
      exact ⟨Nat.le_refl _, hstart, fun number hge hlt => absurd hlt (Nat.not_lt.2 hge)⟩

theorem firstMissing?_eq_none {numbers : List Nat} {start count : Nat}
    (hmissing : firstMissing? numbers start count = none) : List.range' start count ⊆ numbers := by
  induction count generalizing start with
  | zero => simp
  | succ count ih =>
    simp only [firstMissing?, List.contains_iff_mem] at hmissing
    split at hmissing
    · next hstart => exact List.cons_subset.2 ⟨hstart, ih hmissing⟩
    · cases hmissing

/-- As many numbers as the list is long leave no room for another. -/
theorem gapless_of_range'_subset {numbers : List Nat} (hsubset : List.range' 1 numbers.length ⊆ numbers) :
    Gapless numbers := by
  have hperm : (List.range' 1 numbers.length).Perm numbers :=
    ((List.nodup_range' 1).subperm hsubset).perm_of_length_le (by simp)
  refine ⟨numbers.length, fun number => ?_⟩
  rw [← hperm.mem_iff, List.mem_range'_1]
  omega

/-- If a number is missing, there must be none above it. -/
theorem gapless_iff_of_missing {numbers : List Nat} {count missing : Nat} (hzero : 0 ∉ numbers)
    (hmissing : firstMissing? numbers 1 count = some missing) :
    Gapless numbers ↔ ∀ number ∈ numbers, number ≤ missing := by
  obtain ⟨hpos, hnot, hbelow⟩ := firstMissing?_eq_some hmissing
  constructor
  · rintro ⟨upper, hupper⟩ number hnumber
    by_contra habove
    have hle := ((hupper number).1 hnumber).2
    exact hnot ((hupper missing).2 ⟨hpos, by omega⟩)
  · intro hle
    refine ⟨missing - 1, fun number => ⟨fun hnumber => ?_, ?_⟩⟩
    · have hne : number ≠ missing := fun heq => hnot (heq ▸ hnumber)
      have hnonzero : number ≠ 0 := fun heq => hzero (heq ▸ hnumber)
      have := hle number hnumber
      omega
    · rintro ⟨hge, hlt⟩
      exact hbelow number hge (by omega)

/-- Numbered placeholders are accepted exactly when their numbers leave none out. -/
theorem checkNumbers_eq_ok_iff (occurrences : List Occurrence) :
    checkNumbers occurrences = .ok () ↔ Gapless (occurrences.filterMap Occurrence.number?) := by
  unfold checkNumbers
  generalize occurrences.filterMap Occurrence.number? = numbers
  simp only [List.contains_iff_mem]
  split
  · next hzero =>
    refine ⟨fun hok => (by cases hok), ?_⟩
    rintro ⟨upper, hupper⟩
    exact absurd ((hupper 0).1 hzero).1 (Nat.lt_irrefl 0)
  · next hzero =>
    split
    · next missing hmissing =>
      rw [gapless_iff_of_missing hzero hmissing]
      split
      · next habove => simpa using habove
      · next hnone => simpa using hnone
    · next hmissing => exact ⟨fun _ => gapless_of_range'_subset (firstMissing?_eq_none hmissing), fun _ => rfl⟩

/-- A placeholder has one style. -/
theorem Occurrence.style_cases (occurrence : Occurrence) :
    (occurrence.isNamed = true ∧ occurrence.number?.isSome = false ∧ (occurrence.kind == .positional) = false) ∨
    (occurrence.isNamed = false ∧ occurrence.number?.isSome = true ∧ (occurrence.kind == .positional) = false) ∨
    (occurrence.isNamed = false ∧ occurrence.number?.isSome = false ∧ (occurrence.kind == .positional) = true) := by
  cases hkind : occurrence.kind <;> simp [isNamed, number?, hkind]

/-- Placeholders are accepted exactly when all of them are of one style. -/
theorem checkStyle_eq_ok_iff (occurrences : List Occurrence) :
    checkStyle occurrences = .ok () ↔
      (∀ occurrence ∈ occurrences, occurrence.isNamed = true) ∨
      (∀ occurrence ∈ occurrences, occurrence.number?.isSome = true) ∨
      ∀ occurrence ∈ occurrences, (occurrence.kind == .positional) = true := by
  have hcases := Occurrence.style_cases
  simp only [checkStyle]
  constructor
  · intro hok
    by_cases hnamed : occurrences.any Occurrence.isNamed = true
    · grind
    · grind
  · rintro (hnamed | hnumbered | hpositional)
    · grind
    · grind
    · grind

/-- The name of a named parameter. -/
def Occurrence.name? (occurrence : Occurrence) : Option String :=
  match occurrence.kind with
  | .named name _ => some name
  | _ => none

theorem Occurrence.name?_eq_some_iff {occurrence : Occurrence} {name : String} :
    occurrence.name? = some name ↔ ∃ form, occurrence.kind = .named name form := by
  unfold name?
  split <;> simp_all

theorem Occurrence.exists_name? {occurrence : Occurrence} (hnamed : occurrence.isNamed = true) :
    ∃ name, occurrence.name? = some name := by
  unfold isNamed at hnamed
  unfold name?
  split <;> simp_all

/-- What the placeholders of a name ask for together. -/
def NamedParam.ofName (occurrences : List Occurrence) (name : String) : NamedParam where
  name := name
  nullable := occurrences.any (·.kind == .named name .nullableArg)
  slice := occurrences.any (·.kind == .named name .slice)

namespace NamedParam

theorem ofName_append_same (front : List Occurrence) {occurrence : Occurrence} {name : String} {form : NamedForm}
    (hkind : occurrence.kind = .named name form) :
    ofName (front ++ [occurrence]) name = (ofName front name).join form := by
  have hform (other : NamedForm) : (PlaceholderKind.named name form == .named name other) = (form == other) := by
    rw [Bool.eq_iff_iff]
    simp
  simp [ofName, join, hkind, hform]

theorem ofName_append_other (front : List Occurrence) {occurrence : Occurrence} {name : String}
    (hother : occurrence.name? ≠ some name) : ofName (front ++ [occurrence]) name = ofName front name := by
  have hkind (form : NamedForm) : (occurrence.kind == .named name form) = false := by
    rw [beq_eq_false_iff_ne]
    exact fun hkind => hother (Occurrence.name?_eq_some_iff.2 ⟨form, hkind⟩)
  simp [ofName, hkind]

theorem ofName_of_not_mem {occurrences : List Occurrence} {name : String}
    (hname : some name ∉ occurrences.map Occurrence.name?) :
    ofName occurrences name = { name, nullable := false, slice := false } := by
  have hnone (form : NamedForm) : occurrences.any (·.kind == .named name form) = false := by
    rw [List.any_eq_false]
    intro occurrence hoccurrence hkind
    refine hname (List.mem_map.2 ⟨occurrence, hoccurrence, Occurrence.name?_eq_some_iff.2 ⟨form, ?_⟩⟩)
    exact beq_iff_eq.1 hkind
  simp [ofName, hnone]

end NamedParam

namespace Numbering

/-- What stands in a list in which a spelling was noted. -/
theorem mem_note {name : String} {form : NamedForm} {params : List NamedParam}
    (hnodup : (params.map NamedParam.name).Nodup) {param : NamedParam} (hmem : param ∈ note name form params) :
    (param ∈ params ∧ param.name ≠ name) ∨ (∃ old ∈ params, old.name = name ∧ param = old.join form) ∨
      (name ∉ params.map NamedParam.name ∧ param = .join { name, nullable := false, slice := false } form) := by
  induction params with
  | nil => exact .inr (.inr ⟨List.not_mem_nil, List.mem_singleton.1 hmem⟩)
  | cons first rest ih =>
    obtain ⟨hfirst, hrest⟩ := List.nodup_cons.1 hnodup
    rw [note] at hmem
    by_cases hname : first.name = name
    · rw [if_pos (beq_iff_eq.2 hname)] at hmem
      rcases List.mem_cons.1 hmem with rfl | hmem
      · exact .inr (.inl ⟨first, List.mem_cons_self, hname, rfl⟩)
      · refine .inl ⟨List.mem_cons_of_mem _ hmem, fun heq => hfirst ?_⟩
        rw [List.mem_map]
        exact ⟨param, hmem, heq.trans hname.symm⟩
    · rw [if_neg (by simpa using hname)] at hmem
      rcases List.mem_cons.1 hmem with rfl | hmem
      · exact .inl ⟨List.mem_cons_self, hname⟩
      · rcases ih hrest hmem with ⟨hold, hne⟩ | ⟨old, hold, hsame⟩ | ⟨hnew, hparam⟩
        · exact .inl ⟨List.mem_cons_of_mem _ hold, hne⟩
        · exact .inr (.inl ⟨old, List.mem_cons_of_mem _ hold, hsame⟩)
        · exact .inr (.inr ⟨by simpa [Ne.symm hname] using hnew, hparam⟩)

/-- Every name of the placeholders is listed once, with all that its placeholders ask for. -/
structure Lists (occurrences : List Occurrence) (params : List NamedParam) : Prop where
  nodup : (params.map NamedParam.name).Nodup
  mem_iff : ∀ name, name ∈ params.map NamedParam.name ↔ some name ∈ occurrences.map Occurrence.name?
  eq_ofName : ∀ param ∈ params, param = .ofName occurrences param.name

namespace Lists

theorem note {front : List Occurrence} {params : List NamedParam} (hlists : Lists front params)
    {occurrence : Occurrence} {name : String} {form : NamedForm} (hkind : occurrence.kind = .named name form) :
    Lists (front ++ [occurrence]) (note name form params) := by
  have hname : occurrence.name? = some name := Occurrence.name?_eq_some_iff.2 ⟨form, hkind⟩
  refine ⟨?_, fun other => ?_, fun param hparam => ?_⟩
  · rw [map_name_note]
    split
    · exact hlists.nodup
    · next hnew => exact List.concat_eq_append ▸ hlists.nodup.concat hnew
  · rw [map_name_note, List.map_append, List.mem_append, ← hlists.mem_iff]
    split <;> grind
  · rcases mem_note hlists.nodup hparam with ⟨hold, hne⟩ | ⟨old, hold, rfl, rfl⟩ | ⟨hnew, rfl⟩
    · rw [NamedParam.ofName_append_other front (by simpa [hname] using hne.symm)]
      exact hlists.eq_ofName param hold
    · rw [NamedParam.join, NamedParam.ofName_append_same front hkind, ← hlists.eq_ofName old hold]
      rfl
    · rw [hlists.mem_iff] at hnew
      rw [NamedParam.join, NamedParam.ofName_append_same front hkind, NamedParam.ofName_of_not_mem hnew]
      rfl

theorem add {front : List Occurrence} {numbering : Numbering} (hlists : Lists front numbering.named)
    (occurrence : Occurrence) : Lists (front ++ [occurrence]) (numbering.add occurrence).named := by
  cases hkind : occurrence.kind with
  | named name form =>
    simp only [Numbering.add, hkind]
    exact hlists.note hkind
  | numbered | positional =>
    have hnone : occurrence.name? = none := by simp [Occurrence.name?, hkind]
    simp only [Numbering.add, hkind]
    refine ⟨hlists.nodup, fun name => ?_, fun param hparam => ?_⟩
    · simp [hlists.mem_iff, hnone]
    · rw [NamedParam.ofName_append_other front (by simp [hnone])]
      exact hlists.eq_ofName param hparam

end Lists

theorem lists_ofOccurrences (occurrences : List Occurrence) : Lists occurrences (ofOccurrences occurrences).named := by
  induction occurrences using List.reverseRecOn with
  | nil => exact ⟨.nil, by simp [ofOccurrences], by simp [ofOccurrences]⟩
  | append_singleton front occurrence ih =>
    rw [ofOccurrences_append]
    exact ih.add occurrence

theorem param?_isSome_iff (numbering : Numbering) (number : Nat) :
    (numbering.param? number).isSome = true ↔ 0 < number ∧ number ≤ numbering.named.length := by
  unfold param?
  split
  · simp_all
  · rw [isSome_getElem?]
    omega

/-- The number of a name is the one that has it. -/
theorem ordinal?_eq_some_iff {numbering : Numbering} (hnodup : (numbering.named.map NamedParam.name).Nodup)
    {name : String} {number : Nat} :
    numbering.ordinal? name = some number ↔ ∃ param, numbering.param? number = some param ∧ param.name = name := by
  rw [ordinal?, Option.map_eq_some_iff]
  constructor
  · rintro ⟨index, hindex, rfl⟩
    obtain ⟨hlt, hname, -⟩ := List.findIdx?_eq_some_iff_getElem.1 hindex
    exact ⟨numbering.named[index], by simp [param?, hlt], beq_iff_eq.1 hname⟩
  · rintro ⟨param, hparam, rfl⟩
    obtain ⟨hpos, hle⟩ := (param?_isSome_iff numbering number).1 (Option.isSome_of_mem hparam)
    have hlt : number - 1 < numbering.named.length := by omega
    have hat : numbering.named[number - 1] = param := by
      rw [param?, if_neg (by omega), List.getElem?_eq_getElem hlt] at hparam
      exact Option.some.inj hparam
    refine ⟨number - 1, List.findIdx?_eq_some_iff_getElem.2 ⟨hlt, by simp [hat], fun earlier hearlier hsame => ?_⟩,
      by omega⟩
    have hapart := List.pairwise_iff_getElem.1 (List.pairwise_map.1 hnodup) earlier (number - 1) (by omega) hlt hearlier
    exact hapart (hat ▸ beq_iff_eq.1 hsame)

theorem exists_mem_zip {occurrences : List Occurrence} {occurrence : Occurrence} (hmem : occurrence ∈ occurrences) :
    ∃ number, (occurrence, number) ∈ occurrences.zip (ofOccurrences occurrences).ordinals := by
  rw [← List.map_fst_zip (Nat.le_of_eq (length_ordinals occurrences).symm), List.mem_map] at hmem
  obtain ⟨⟨_, number⟩, hpair, rfl⟩ := hmem
  exact ⟨number, hpair⟩

theorem exists_mem_zip_of_mem_ordinals {occurrences : List Occurrence} {number : Nat}
    (hmem : number ∈ (ofOccurrences occurrences).ordinals) :
    ∃ occurrence, (occurrence, number) ∈ occurrences.zip (ofOccurrences occurrences).ordinals := by
  rw [← List.map_snd_zip (Nat.le_of_eq (length_ordinals occurrences)), List.mem_map] at hmem
  obtain ⟨⟨occurrence, _⟩, hpair, rfl⟩ := hmem
  exact ⟨occurrence, hpair⟩

/-- The number of a named parameter is the one that has its name. -/
theorem exists_param?_of_mem_zip {occurrences : List Occurrence} {occurrence : Occurrence} {number : Nat}
    (hmem : (occurrence, number) ∈ occurrences.zip (ofOccurrences occurrences).ordinals)
    (hnamed : occurrence.isNamed = true) :
    ∃ param, (ofOccurrences occurrences).param? number = some param ∧ occurrence.name? = some param.name := by
  obtain ⟨name, hname⟩ := Occurrence.exists_name? hnamed
  obtain ⟨form, hkind⟩ := Occurrence.name?_eq_some_iff.1 hname
  obtain ⟨param, hparam, rfl⟩ :=
    (ordinal?_eq_some_iff (lists_ofOccurrences occurrences).nodup).1 (ordinal?_of_mem_zip hmem hkind)
  exact ⟨param, hparam, hname⟩

theorem mem_of_param? {numbering : Numbering} {number : Nat} {param : NamedParam}
    (hparam : numbering.param? number = some param) : param ∈ numbering.named := by
  unfold param? at hparam
  split at hparam
  · cases hparam
  · exact List.mem_of_getElem? hparam

/-- The numbers of named parameters are those that parameters are listed at. -/
theorem mem_ordinals_iff {occurrences : List Occurrence}
    (hnamed : ∀ occurrence ∈ occurrences, occurrence.isNamed = true) (number : Nat) :
    number ∈ (ofOccurrences occurrences).ordinals ↔
      0 < number ∧ number ≤ (ofOccurrences occurrences).named.length := by
  have hlists := lists_ofOccurrences occurrences
  rw [← param?_isSome_iff]
  constructor
  · intro hmem
    obtain ⟨occurrence, hpair⟩ := exists_mem_zip_of_mem_ordinals hmem
    obtain ⟨param, hparam, -⟩ := exists_param?_of_mem_zip hpair (hnamed occurrence (List.of_mem_zip hpair).1)
    exact Option.isSome_of_mem hparam
  · intro hsome
    obtain ⟨param, hparam⟩ := Option.isSome_iff_exists.1 hsome
    -- The parameter has the name of a placeholder, and that placeholder has its number.
    obtain ⟨occurrence, hoccurrence, hname⟩ :=
      List.mem_map.1 ((hlists.mem_iff _).1 (List.mem_map_of_mem (mem_of_param? hparam)))
    obtain ⟨form, hkind⟩ := Occurrence.name?_eq_some_iff.1 hname
    obtain ⟨own, hpair⟩ := exists_mem_zip hoccurrence
    have hown := ordinal?_of_mem_zip hpair hkind
    rw [(ordinal?_eq_some_iff hlists.nodup).2 ⟨param, hparam, rfl⟩, Option.some.injEq] at hown
    exact hown ▸ (List.of_mem_zip hpair).2

theorem ordinals_of_numbered {occurrences : List Occurrence}
    (hnumbered : ∀ occurrence ∈ occurrences, occurrence.number?.isSome = true) :
    (ofOccurrences occurrences).ordinals = occurrences.filterMap Occurrence.number? := by
  induction occurrences using List.reverseRecOn with
  | nil => rfl
  | append_singleton front occurrence ih =>
    obtain ⟨number, hnumber⟩ := Option.isSome_iff_exists.1 (hnumbered occurrence (by simp))
    have hnext : (ofOccurrences front).nextOrdinal occurrence = number := by
      unfold Occurrence.number? at hnumber
      unfold nextOrdinal
      split <;> simp_all
    rw [ofOccurrences_append, ordinals_add, hnext, ih fun earlier hearlier => hnumbered earlier (by simp [hearlier])]
    simp [hnumber]

theorem ordinals_of_positional {occurrences : List Occurrence}
    (hpositional : ∀ occurrence ∈ occurrences, (occurrence.kind == .positional) = true) :
    (ofOccurrences occurrences).ordinals = List.range' 1 occurrences.length ∧
      (ofOccurrences occurrences).positional = occurrences.length := by
  induction occurrences using List.reverseRecOn with
  | nil => exact ⟨rfl, rfl⟩
  | append_singleton front occurrence ih =>
    obtain ⟨hordinals, hcount⟩ := ih fun earlier hearlier => hpositional earlier (by simp [hearlier])
    have hkind : occurrence.kind = .positional := beq_iff_eq.1 (hpositional occurrence (by simp))
    rw [ofOccurrences_append, ordinals_add, hordinals]
    simp [nextOrdinal, add, hkind, hcount, List.range'_concat, Nat.add_comm]

/-- Each ordinal stays when more placeholders follow. -/
theorem ordinals_prefix (front behind : List Occurrence) :
    (ofOccurrences front).ordinals <+: (ofOccurrences (front ++ behind)).ordinals := by
  induction behind using List.reverseRecOn with
  | nil => simp
  | append_singleton behind occurrence ih =>
    rw [← List.append_assoc, ofOccurrences_append, ordinals_add]
    exact ih.trans (List.prefix_append _ _)

/-- A name that was not seen before gets the least number that is not in use. -/
theorem isLeast_nextOrdinal {front : List Occurrence} (hnamed : ∀ earlier ∈ front, earlier.isNamed = true)
    {occurrence : Occurrence} (hown : occurrence.isNamed = true)
    (hnew : occurrence.name? ∉ front.map Occurrence.name?) :
    IsLeast {number | 0 < number ∧ number ∉ (ofOccurrences front).ordinals}
      ((ofOccurrences front).nextOrdinal occurrence) := by
  obtain ⟨name, hname⟩ := Occurrence.exists_name? hown
  obtain ⟨form, hkind⟩ := Occurrence.name?_eq_some_iff.1 hname
  have hlists := lists_ofOccurrences front
  have hnone : (ofOccurrences front).ordinal? name = none := by
    rw [Option.eq_none_iff_forall_ne_some]
    intro number hnumber
    obtain ⟨param, hparam, rfl⟩ := (ordinal?_eq_some_iff hlists.nodup).1 hnumber
    exact hnew (hname ▸ (hlists.mem_iff _).1 (List.mem_map_of_mem (mem_of_param? hparam)))
  have hnext : (ofOccurrences front).nextOrdinal occurrence = (ofOccurrences front).named.length + 1 := by
    simp [nextOrdinal, hkind, hnone]
  simp only [hnext, mem_ordinals_iff hnamed]
  refine ⟨by simp, ?_⟩
  rintro number ⟨hpos, hunused⟩
  omega

/-- Named parameters are numbered by first appearance. -/
structure ByFirstAppearance (occurrences : List Occurrence) (numbering : Numbering) : Prop where
  same_iff : ∀ pair ∈ occurrences.zip numbering.ordinals, ∀ other ∈ occurrences.zip numbering.ordinals,
    pair.2 = other.2 ↔ pair.1.name? = other.1.name?
  /-- A name that was not seen before gets the least number that is not in use. -/
  fresh : ∀ front occurrence behind, occurrences = front ++ occurrence :: behind →
    occurrence.name? ∉ front.map Occurrence.name? →
    ∃ number, numbering.ordinals[front.length]? = some number ∧
      IsLeast {number | 0 < number ∧ number ∉ numbering.ordinals.take front.length} number
  /-- The flags of a number are those of any of its placeholders. -/
  param : ∀ pair ∈ occurrences.zip numbering.ordinals, ∃ param,
    numbering.param? pair.2 = some param ∧ pair.1.name? = some param.name ∧
    (param.nullable = true ↔ ∃ other ∈ occurrences, other.kind = .named param.name .nullableArg) ∧
    (param.slice = true ↔ ∃ other ∈ occurrences, other.kind = .named param.name .slice)
  param_iff : ∀ number, (numbering.param? number).isSome = true ↔ number ∈ numbering.ordinals
  edits : numbering.edits occurrences = (occurrences.zip numbering.ordinals).map fun pair => {
    location := pair.1.location
    old := pair.1.text.toList
    new := '$' :: Nat.toDigits 10 pair.2 }

theorem byFirstAppearance_ofOccurrences {occurrences : List Occurrence}
    (hnamed : ∀ occurrence ∈ occurrences, occurrence.isNamed = true) :
    ByFirstAppearance occurrences (ofOccurrences occurrences) where
  same_iff := by
    rintro ⟨occurrence, number⟩ hpair ⟨other, another⟩ hother
    have hlists := lists_ofOccurrences occurrences
    obtain ⟨param, hparam, hname⟩ := exists_param?_of_mem_zip hpair (hnamed occurrence (List.of_mem_zip hpair).1)
    obtain ⟨otherParam, hotherParam, hotherName⟩ :=
      exists_param?_of_mem_zip hother (hnamed other (List.of_mem_zip hother).1)
    dsimp only
    rw [hname, hotherName, Option.some.injEq]
    constructor
    · rintro rfl
      rw [Option.some.inj (hparam.symm.trans hotherParam)]
    · intro hsame
      have hnumber := (ordinal?_eq_some_iff hlists.nodup).2 ⟨param, hparam, hsame⟩
      have hanother := (ordinal?_eq_some_iff hlists.nodup).2 ⟨otherParam, hotherParam, rfl⟩
      exact Option.some.inj (hnumber.symm.trans hanother)
  fresh := by
    rintro front occurrence behind rfl hnew
    obtain ⟨tail, htail⟩ := ordinals_prefix (front ++ [occurrence]) behind
    rw [List.append_assoc, ofOccurrences_append, ordinals_add, List.append_assoc] at htail
    have hlength := length_ordinals front
    refine ⟨(ofOccurrences front).nextOrdinal occurrence, ?_, ?_⟩
    · rw [← List.singleton_append, ← htail, ← hlength]
      simp
    · rw [← List.singleton_append, ← htail, ← hlength, List.take_left]
      exact isLeast_nextOrdinal (fun earlier hearlier => hnamed earlier (by simp [hearlier]))
        (hnamed occurrence (by simp)) hnew
  param := by
    rintro ⟨occurrence, number⟩ hpair
    obtain ⟨param, hparam, hname⟩ := exists_param?_of_mem_zip hpair (hnamed occurrence (List.of_mem_zip hpair).1)
    have hwhole := (lists_ofOccurrences occurrences).eq_ofName param (mem_of_param? hparam)
    refine ⟨param, hparam, hname, ?_, ?_⟩
    · rw [hwhole]
      simp [NamedParam.ofName]
    · rw [hwhole]
      simp [NamedParam.ofName]
  param_iff := fun number => (param?_isSome_iff _ number).trans (mem_ordinals_iff hnamed number).symm
  edits := by
    rw [Numbering.edits, ← List.filterMap_eq_map]
    refine List.filterMap_congr fun pair hpair => ?_
    obtain ⟨occurrence, number⟩ := pair
    simp [hnamed occurrence (List.of_mem_zip hpair).1, toList_placeholder]

/-- Placeholders that pass the checks have one ordinal each, and these leave no number out. -/
theorem gapless_of_checked {occurrences : List Occurrence} (hstyle : checkStyle occurrences = .ok ())
    (hnumbers : checkNumbers occurrences = .ok ()) :
    (ofOccurrences occurrences).ordinals.length = occurrences.length ∧
      Gapless (ofOccurrences occurrences).ordinals ∧
      ((∀ occurrence ∈ occurrences, occurrence.isNamed = true) →
        ByFirstAppearance occurrences (ofOccurrences occurrences)) := by
  refine ⟨length_ordinals occurrences, ?_, byFirstAppearance_ofOccurrences⟩
  rcases (checkStyle_eq_ok_iff occurrences).1 hstyle with hnamed | hnumbered | hpositional
  · exact ⟨_, mem_ordinals_iff hnamed⟩
  · rw [ordinals_of_numbered hnumbered]
    exact (checkNumbers_eq_ok_iff occurrences).1 hnumbers
  · refine ⟨occurrences.length, fun number => ?_⟩
    rw [(ordinals_of_positional hpositional).1, List.mem_range'_1]
    omega

/-- Two names in turn, in all the ways in which they are spelled. -/
def turns : List Occurrence := [
  ⟨7, ":b", .named "b" .colon, none⟩,
  ⟨10, "sqlc.narg(a)", .named "a" .nullableArg, none⟩,
  ⟨24, "sqlc.slice('b')", .named "b" .slice, none⟩,
  ⟨41, "@a", .named "a" .at, none⟩,
  ⟨45, "sqlc.arg(c)", .named "c" .arg, some .limit⟩]

theorem gapless_of_checked_turns :
    checkStyle turns = .ok () ∧ checkNumbers turns = .ok () ∧ (∀ occurrence ∈ turns, occurrence.isNamed = true) ∧
      (ofOccurrences turns).ordinals = [1, 2, 1, 2, 3] ∧ Gapless (ofOccurrences turns).ordinals ∧
      ByFirstAppearance turns (ofOccurrences turns) := by
  have hchecked := @gapless_of_checked turns rfl rfl
  have hnamed : ∀ occurrence ∈ turns, occurrence.isNamed = true := by decide
  exact ⟨rfl, rfl, hnamed, by decide, hchecked.2.1, hchecked.2.2 hnamed⟩

end Numbering

end AnnotatedSql
