import AnnotatedSql.Compile.Numbering
import AnnotatedSql.Compile.Reference
import Mathlib.Data.List.Basic
import Mathlib.Data.List.Induction
import Mathlib.Data.List.Sort

/-!
Laws of numbering. There is one ordinal for each placeholder, and a named parameter has the number of its name wherever
it stands, so that the text is edited by names alone.
-/
namespace AnnotatedSql

namespace Numbering

theorem length_ordinals (occurrences : List Occurrence) :
    (ofOccurrences occurrences).ordinals.length = occurrences.length := by
  have hadd : ∀ numbering : Numbering, (occurrences.foldl add numbering).ordinals.length =
      numbering.ordinals.length + occurrences.length := by
    induction occurrences with
    | nil => simp
    | cons occurrence occurrences ih =>
      intro numbering
      have hstep : (numbering.add occurrence).ordinals.length = numbering.ordinals.length + 1 := by
        unfold add
        split <;> simp
      rw [List.foldl_cons, ih, hstep, List.length_cons]
      omega
  simpa [ofOccurrences] using hadd {}

theorem ofOccurrences_append (occurrences : List Occurrence) (occurrence : Occurrence) :
    ofOccurrences (occurrences ++ [occurrence]) = (ofOccurrences occurrences).add occurrence := by
  simp [ofOccurrences]

theorem ordinal?_eq (numbering : Numbering) (name : String) :
    numbering.ordinal? name = ((numbering.named.map NamedParam.name).findIdx? (· == name)).map (· + 1) := by
  rw [ordinal?, List.findIdx?_map]
  rfl

/-- A name is noted once, after all others. -/
theorem map_name_note (name : String) (form : NamedForm) (params : List NamedParam) :
    (note name form params).map NamedParam.name =
      if name ∈ params.map NamedParam.name then params.map NamedParam.name
      else params.map NamedParam.name ++ [name] := by
  induction params with
  | nil => rfl
  | cons param params ih =>
    rw [note]
    by_cases hname : param.name = name
    · simp [hname, NamedParam.join]
    · have hother : name ≠ param.name := fun h => hname h.symm
      simp only [beq_iff_eq, hname, if_false, List.map_cons, List.mem_cons, hother, false_or, ih]
      split <;> rfl

/-- A name keeps its number when another placeholder follows. -/
theorem ordinal?_add {numbering : Numbering} {name : String} {number : Nat}
    (hnumber : numbering.ordinal? name = some number) (occurrence : Occurrence) :
    (numbering.add occurrence).ordinal? name = some number := by
  unfold add
  split
  · exact hnumber
  · exact hnumber
  · next other form _ =>
    rw [ordinal?_eq] at hnumber ⊢
    dsimp only
    rw [map_name_note]
    split
    · exact hnumber
    · obtain ⟨index, hindex, rfl⟩ := Option.map_eq_some_iff.1 hnumber
      rw [List.findIdx?_append, hindex]
      rfl

/-- The number that a further placeholder gets. -/
def nextOrdinal (numbering : Numbering) (occurrence : Occurrence) : Nat :=
  match occurrence.kind with
  | .numbered number => number
  | .positional => numbering.positional + 1
  | .named name _ => (numbering.ordinal? name).getD (numbering.named.length + 1)

theorem ordinals_add (numbering : Numbering) (occurrence : Occurrence) :
    (numbering.add occurrence).ordinals = numbering.ordinals ++ [numbering.nextOrdinal occurrence] := by
  unfold add nextOrdinal
  split <;> simp_all

/-- A name that a placeholder brings in has the number of that placeholder from then on. -/
theorem ordinal?_add_self {numbering : Numbering} {occurrence : Occurrence} {name : String} {form : NamedForm}
    (hkind : occurrence.kind = .named name form) :
    (numbering.add occurrence).ordinal? name = some (numbering.nextOrdinal occurrence) := by
  cases hnumber : numbering.ordinal? name with
  | some number =>
    rw [ordinal?_add hnumber, nextOrdinal, hkind]
    simp [hnumber]
  | none =>
    have hnext : numbering.nextOrdinal occurrence = numbering.named.length + 1 := by
      simp [nextOrdinal, hkind, hnumber]
    rw [ordinal?_eq, Option.map_eq_none_iff] at hnumber
    have hnew : name ∉ numbering.named.map NamedParam.name := fun hmem => by
      simpa using List.findIdx?_eq_none_iff.1 hnumber name hmem
    rw [hnext, ordinal?_eq]
    simp only [add, hkind, map_name_note, if_neg hnew]
    rw [List.findIdx?_append, hnumber]
    simp

/-- A named parameter has the number of its name. -/
theorem ordinal?_of_mem_zip {occurrences : List Occurrence} {occurrence : Occurrence} {number : Nat} {name : String}
    {form : NamedForm} (hmem : (occurrence, number) ∈ occurrences.zip (ofOccurrences occurrences).ordinals)
    (hkind : occurrence.kind = .named name form) : (ofOccurrences occurrences).ordinal? name = some number := by
  induction occurrences using List.reverseRecOn with
  | nil => simp at hmem
  | append_singleton occurrences last ih =>
    rw [ofOccurrences_append] at hmem ⊢
    rw [ordinals_add, List.zip_append (length_ordinals occurrences).symm, List.mem_append] at hmem
    rcases hmem with hmem | hmem
    · exact ordinal?_add (ih hmem) last
    · obtain ⟨rfl, rfl⟩ : occurrence = last ∧ number = (ofOccurrences occurrences).nextOrdinal last := by
        simpa using hmem
      exact ordinal?_add_self hkind

theorem toList_placeholder (number : Nat) : (placeholder number).toList = '$' :: Nat.toDigits 10 number := by
  simp [placeholder, toString, Nat.repr]

/-- The number that a placeholder is written with, if it is a named parameter. -/
def number? (numbering : Numbering) : PlaceholderKind → Option Nat
  | .named name _ => numbering.ordinal? name
  | _ => none

def edit? (numbering : Numbering) (occurrence : Occurrence) : Option Source.Edit :=
  (numbering.number? occurrence.kind).map fun number =>
    { location := occurrence.location, old := occurrence.text.toList, new := (placeholder number).toList }

theorem edits_eq_filterMap (occurrences : List Occurrence) :
    (ofOccurrences occurrences).edits occurrences = occurrences.filterMap (ofOccurrences occurrences).edit? := by
  have hpairs : ∀ pair ∈ occurrences.zip (ofOccurrences occurrences).ordinals,
      (if pair.1.isNamed then
        some {
          location := pair.1.location
          old := pair.1.text.toList
          new := (placeholder pair.2).toList : Source.Edit }
      else none) = (ofOccurrences occurrences).edit? pair.1 := by
    rintro ⟨occurrence, number⟩ hpair
    cases hkind : occurrence.kind with
    | numbered n => simp [edit?, number?, Occurrence.isNamed, hkind]
    | positional => simp [edit?, number?, Occurrence.isNamed, hkind]
    | named name form => simp [edit?, number?, Occurrence.isNamed, hkind, ordinal?_of_mem_zip hpair hkind]
  calc (ofOccurrences occurrences).edits occurrences
      = (occurrences.zip (ofOccurrences occurrences).ordinals).filterMap
          fun pair => (ofOccurrences occurrences).edit? pair.1 := List.filterMap_congr hpairs
    _ = ((occurrences.zip (ofOccurrences occurrences).ordinals).map Prod.fst).filterMap
          (ofOccurrences occurrences).edit? := by rw [List.filterMap_map]; rfl
    _ = occurrences.filterMap (ofOccurrences occurrences).edit? := by
      rw [List.map_fst_zip (Nat.le_of_eq (length_ordinals occurrences).symm)]

end Numbering

/-- The numbers of merged references stand in ascending order. -/
theorem Reference.unique_eq_insertionSort (references : List Reference) :
    unique references = ((references.map number).eraseDups.insertionSort (· ≤ ·)).filterMap fun number =>
      merge? (references.filter (·.number = number)) := by
  rw [unique, ← List.mergeSort_eq_insertionSort (· ≤ ·)]

end AnnotatedSql
