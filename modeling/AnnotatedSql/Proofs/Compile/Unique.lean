import AnnotatedSql.Proofs.Compile.ColumnGrowth
import AnnotatedSql.Proofs.Compile.OwnPlaceholder
import AnnotatedSql.Proofs.Compile.WildcardNames

/-!
One reference for each number. What is kept for a number is said by `Reference.digest?`, and ascending lists that keep
the same for each number are equal (`Reference.IsDigest.eq`). So the references can as well be taken in one by one, and
merging them a second time changes nothing.

Where no parameter is named, a reference that says nothing about its type cannot be resolved. If all references of a
statement are, then none of them was merged with a later one, and the numbered parameters are the first ones among the
positional parameters.
-/
namespace AnnotatedSql

section

variable {α : Type} {key : α → Nat}

/-- The first value of each key, in ascending order of the keys. -/
def firsts (key : α → Nat) (values : List α) : List α :=
  (values.eraseDupsBy fun a b => key a == key b).mergeSort fun a b => key a ≤ key b

theorem mem_eraseDupsBy_iff (values : List α) {value : α} :
    value ∈ (values.eraseDupsBy fun a b => key a == key b) ↔ values.find? (key · = key value) = some value := by
  cases values with
  | nil => simp
  | cons first rest =>
    rw [List.eraseDupsBy_cons, List.mem_cons, mem_eraseDupsBy_iff, List.find?_filter, List.find?_cons]
    by_cases hkey : key first = key value
    · have hnone : rest.find? (fun a => decide (decide ((key a == key first) = false) = true ∧
          decide (key a = key value) = true)) = none := by
        simp [hkey]
      simp only [hnone, reduceCtorEq, or_false, decide_eq_true hkey, Option.some.injEq]
      exact eq_comm
    · have hne : value ≠ first := fun h => hkey (h ▸ rfl)
      -- What is left out has the key of the first value, and that is not the key looked for.
      have hsame : (fun a => decide (decide ((key a == key first) = false) = true ∧
          decide (key a = key value) = true)) = fun a => decide (key a = key value) := by
        funext a
        by_cases ha : key a = key value
        · simp [ha, Ne.symm hkey]
        · simp [ha]
      simp only [hsame, hne, false_or, decide_eq_false hkey]
termination_by values.length
decreasing_by
  have hle := List.length_filter_le (fun b => decide ((key b == key first) = false)) rest
  simp only [List.length_cons]
  omega

theorem pairwise_eraseDupsBy (values : List α) :
    (values.eraseDupsBy fun a b => key a == key b).Pairwise (key · ≠ key ·) := by
  cases values with
  | nil => simp
  | cons first rest =>
    rw [List.eraseDupsBy_cons, List.pairwise_cons]
    refine ⟨fun value hvalue => ?_, pairwise_eraseDupsBy _⟩
    have hmem := List.mem_of_find?_eq_some ((mem_eraseDupsBy_iff _).1 hvalue)
    have hother : key value ≠ key first := by simpa using (List.mem_filter.1 hmem).2
    exact hother.symm
termination_by values.length
decreasing_by
  have hle := List.length_filter_le (fun b => decide ((key b == key first) = false)) rest
  simp only [List.length_cons]
  omega

theorem mem_firsts_iff {values : List α} {value : α} :
    value ∈ firsts key values ↔ values.find? (key · = key value) = some value := by
  rw [firsts, List.mem_mergeSort, mem_eraseDupsBy_iff]

theorem pairwise_firsts (values : List α) : (firsts key values).Pairwise (key · < key ·) := by
  have hsorted : (firsts key values).Pairwise fun a b => decide (key a ≤ key b) = true :=
    List.pairwise_mergeSort (fun a b c => by simpa using Nat.le_trans) (fun a b => by simpa using Nat.le_total _ _) _
  have hdistinct : (firsts key values).Pairwise (key · ≠ key ·) :=
    ((List.mergeSort_perm _ _).pairwise_iff Ne.symm).2 (pairwise_eraseDupsBy values)
  refine hsorted.imp₂ (fun a b hle hne => ?_) hdistinct
  exact Nat.lt_of_le_of_ne (of_decide_eq_true hle) hne

/-- A value of an ascending list is the only one with its key. -/
theorem find?_eq_some_iff_of_pairwise {values : List α} (hvalues : values.Pairwise (key · < key ·)) {number : Nat}
    {value : α} : values.find? (key · = number) = some value ↔ value ∈ values ∧ key value = number := by
  constructor
  · intro hfound
    exact ⟨List.mem_of_find?_eq_some hfound, by simpa using List.find?_some hfound⟩
  · rintro ⟨hmem, rfl⟩
    induction hvalues with
    | nil => cases hmem
    | @cons first rest hfirst _ ih =>
      rw [List.find?_cons]
      rcases List.mem_cons.1 hmem with rfl | hmem
      · simp
      · rw [decide_eq_false (Nat.ne_of_lt (hfirst value hmem))]
        exact ih hmem

/-- What is found for each of some ascending keys stands in ascending order, and is found there. -/
theorem pairwise_filterMap_of_key {numbers : List Nat} (hnumbers : numbers.Pairwise (· < ·)) {f : Nat → Option α}
    (hkey : ∀ number value, f number = some value → key value = number) :
    (numbers.filterMap f).Pairwise (key · < key ·) := by
  refine hnumbers.filterMap f fun number other hless value hvalue otherValue hother => ?_
  rw [hkey number value hvalue, hkey other otherValue hother]
  exact hless

theorem find?_filterMap_of_key {numbers : List Nat} (hnumbers : numbers.Pairwise (· < ·)) {f : Nat → Option α}
    (hkey : ∀ number value, f number = some value → key value = number ∧ number ∈ numbers) (number : Nat) :
    (numbers.filterMap f).find? (key · = number) = f number := by
  refine Option.ext fun value => ?_
  rw [find?_eq_some_iff_of_pairwise (pairwise_filterMap_of_key hnumbers fun number value h => (hkey number value h).1),
    List.mem_filterMap]
  constructor
  · rintro ⟨⟨other, -, hvalue⟩, rfl⟩
    rwa [(hkey other value hvalue).1]
  · intro hvalue
    exact ⟨⟨number, (hkey number value hvalue).2, hvalue⟩, (hkey number value hvalue).1⟩

/-- Ascending lists in which the same is found for each key are equal. -/
theorem eq_of_find?_eq {values others : List α} (hvalues : values.Pairwise (key · < key ·))
    (hothers : others.Pairwise (key · < key ·))
    (hfound : ∀ number, values.find? (key · = number) = others.find? (key · = number)) : values = others := by
  have hanti : Std.Antisymm fun a b : α => key a < key b := ⟨fun a b hab hba => absurd hba (Nat.lt_asymm hab)⟩
  have hirrefl : Std.Irrefl fun a b : α => key a < key b := ⟨fun a => Nat.lt_irrefl _⟩
  refine hvalues.eq_of_mem_iff hothers fun value => ?_
  calc value ∈ values
      ↔ values.find? (key · = key value) = some value := by simp [find?_eq_some_iff_of_pairwise hvalues]
    _ ↔ others.find? (key · = key value) = some value := by rw [hfound]
    _ ↔ value ∈ others := by simp [find?_eq_some_iff_of_pairwise hothers]

theorem pairwise_firsts_id (numbers : List Nat) : (firsts id numbers).Pairwise (· < ·) :=
  pairwise_firsts numbers

theorem mem_firsts_id {numbers : List Nat} {number : Nat} : number ∈ firsts id numbers ↔ number ∈ numbers := by
  rw [mem_firsts_iff]
  constructor
  · exact List.mem_of_find?_eq_some
  · intro hmem
    cases hfound : numbers.find? (id · = id number) with
    | none => exact absurd (List.find?_eq_none.1 hfound number hmem) (by simp)
    | some other => simpa using List.find?_some hfound

theorem key_of_find? {values : List α} {number : Nat} {value : α}
    (hvalue : values.find? (key · = number) = some value) :
    key value = number ∧ number ∈ firsts id (values.map key) := by
  have hsame : key value = number := by simpa using List.find?_some hvalue
  exact ⟨hsame, mem_firsts_id.2 (List.mem_map.2 ⟨value, List.mem_of_find?_eq_some hvalue, hsame⟩)⟩

/-- The keys in ascending order, and the first value of each. -/
theorem firsts_eq_filterMap (values : List α) :
    firsts key values = (firsts id (values.map key)).filterMap fun number => values.find? (key · = number) := by
  refine eq_of_find?_eq (pairwise_firsts values)
    (pairwise_filterMap_of_key (pairwise_firsts_id _) fun _ _ hvalue => (key_of_find? hvalue).1) fun number => ?_
  rw [find?_filterMap_of_key (pairwise_firsts_id _) fun _ _ hvalue => key_of_find? hvalue]
  refine Option.ext fun value => ?_
  rw [find?_eq_some_iff_of_pairwise (pairwise_firsts values), mem_firsts_iff]
  constructor
  · rintro ⟨hvalue, rfl⟩
    exact hvalue
  · intro hvalue
    obtain rfl := (key_of_find? hvalue).1
    exact ⟨hvalue, rfl⟩

end

namespace Reference

/-- What is kept for a number: the first reference with it, under the context and the scope of the first one that says
    something about its type. -/
def digest? (references : List Reference) (number : Nat) : Option Reference :=
  (references.find? (·.number = number)).map fun first =>
    let telling := (references.find? fun reference =>
      reference.number = number ∧ reference.context ≠ .unknown).getD first
    { first with context := telling.context, scope := telling.scope }

theorem merge?_filter (references : List Reference) (number : Nat) :
    merge? (references.filter (·.number = number)) = digest? references number := by
  have hhead : (references.filter (·.number = number)).head? = references.find? (·.number = number) :=
    List.head?_filter
  have htelling : (references.filter (·.number = number)).find? (·.context ≠ .unknown) =
      references.find? fun reference => reference.number = number ∧ reference.context ≠ .unknown := by
    rw [List.find?_filter]
    simp only [decide_eq_true_eq]
  rw [digest?, ← hhead, ← htelling]
  cases references.filter (·.number = number) with
  | nil => rfl
  | cons first rest =>
    rw [merge?, List.head?_cons, List.find?_cons]
    by_cases hunknown : first.context = .unknown
    · have htells : decide (first.context ≠ .unknown) = false := by simp [hunknown]
      rw [if_pos hunknown, htells]
      cases rest.find? (·.context ≠ .unknown) <;> rfl
    · simp [hunknown]

theorem unique_eq_filterMap (references : List Reference) :
    unique references = (firsts id (references.map number)).filterMap (digest? references) := by
  rw [unique]
  exact congrFun (congrArg List.filterMap (funext (merge?_filter references))) _

/-- What is kept has place and row of the first reference, and context and scope of the first one that says something
    about its type, if there is one. -/
theorem exists_telling_of_digest? {references : List Reference} {number : Nat} {kept : Reference}
    (hkept : digest? references number = some kept) :
    ∃ first telling, references.find? (·.number = number) = some first ∧
      (references.find? (fun reference => reference.number = number ∧ reference.context ≠ .unknown) = some telling ∨
        (∀ reference ∈ references, reference.number = number → reference.context = .unknown) ∧ telling = first) ∧
      kept = { first with context := telling.context, scope := telling.scope } := by
  obtain ⟨first, hfirst, hsame⟩ := Option.map_eq_some_iff.1 hkept
  refine ⟨first, _, hfirst, ?_, hsame.symm⟩
  cases htelling : references.find? fun reference => reference.number = number ∧ reference.context ≠ .unknown with
  | some telling => exact .inl rfl
  | none =>
    refine .inr ⟨fun reference hreference hnumber => ?_, rfl⟩
    by_contra htells
    exact List.find?_eq_none.1 htelling reference hreference (decide_eq_true ⟨hnumber, htells⟩)

theorem number_of_digest? {references : List Reference} {number : Nat} {kept : Reference}
    (hkept : digest? references number = some kept) :
    kept.number = number ∧ number ∈ firsts id (references.map Reference.number) := by
  obtain ⟨first, hfirst, rfl⟩ := Option.map_eq_some_iff.1 hkept
  have hnumber := key_of_find? hfirst
  exact hnumber

/-- In an ascending list of references stands what is kept of others. -/
structure IsDigest (references kept : List Reference) : Prop where
  ascending : kept.Pairwise (·.number < ·.number)
  find? : ∀ number, kept.find? (·.number = number) = digest? references number

theorem IsDigest.eq {references kept others : List Reference} (hkept : IsDigest references kept)
    (hothers : IsDigest references others) : kept = others :=
  eq_of_find?_eq hkept.ascending hothers.ascending fun number => by rw [hkept.find?, hothers.find?]

theorem isDigest_unique (references : List Reference) : IsDigest references (unique references) := by
  rw [unique_eq_filterMap]
  constructor
  · exact pairwise_filterMap_of_key (pairwise_firsts_id _) fun _ _ hkept => (number_of_digest? hkept).1
  · exact find?_filterMap_of_key (pairwise_firsts_id _) fun _ _ hkept => number_of_digest? hkept

/-- There is nothing to be done for references that have different numbers and stand in ascending order. -/
theorem isDigest_self {kept : List Reference} (hascending : kept.Pairwise (·.number < ·.number)) :
    IsDigest kept kept := by
  refine ⟨hascending, fun number => ?_⟩
  rw [digest?]
  cases hfirst : kept.find? (·.number = number) with
  | none => rfl
  | some first =>
    have hfirst' := (find?_eq_some_iff_of_pairwise hascending).1 hfirst
    cases htelling : kept.find? fun reference => reference.number = number ∧ reference.context ≠ .unknown with
    | none => rfl
    | some telling =>
      have hnumber : telling.number = number ∧ telling.context ≠ .unknown := by simpa using List.find?_some htelling
      have hsame := (find?_eq_some_iff_of_pairwise hascending).2 ⟨List.mem_of_find?_eq_some htelling, hnumber.1⟩
      rw [hfirst] at hsame
      cases hsame
      rfl

/-- Takes one more reference of the same number into account. -/
def join (first reference : Reference) : Reference :=
  if first.context = .unknown ∧ reference.context ≠ .unknown then
    { first with context := reference.context, scope := reference.scope }
  else first

/-- Takes one more reference into an ascending list. -/
def absorb : List Reference → Reference → List Reference
  | [], reference => [reference]
  | first :: rest, reference =>
    if reference.number < first.number then reference :: first :: rest
    else if reference.number = first.number then first.join reference :: rest
    else first :: absorb rest reference

theorem number_join (first reference : Reference) : (first.join reference).number = first.number := by
  unfold join
  split <;> rfl

theorem number_of_mem_absorb {kept : List Reference} {reference entry : Reference}
    (hentry : entry ∈ absorb kept reference) :
    entry.number = reference.number ∨ ∃ first ∈ kept, entry.number = first.number := by
  induction kept with
  | nil => exact .inl (by rw [List.mem_singleton.1 hentry])
  | cons first rest ih =>
    rw [absorb] at hentry
    split at hentry
    · rcases List.mem_cons.1 hentry with rfl | hentry
      · exact .inl rfl
      · exact .inr ⟨entry, hentry, rfl⟩
    · split at hentry
      · rcases List.mem_cons.1 hentry with rfl | hentry
        · exact .inr ⟨first, List.mem_cons_self, number_join first reference⟩
        · exact .inr ⟨entry, List.mem_cons_of_mem _ hentry, rfl⟩
      · rcases List.mem_cons.1 hentry with rfl | hentry
        · exact .inr ⟨entry, List.mem_cons_self, rfl⟩
        · refine (ih hentry).imp_right ?_
          rintro ⟨other, hother, hnumber⟩
          exact ⟨other, List.mem_cons_of_mem _ hother, hnumber⟩

theorem pairwise_absorb {kept : List Reference} (hkept : kept.Pairwise (·.number < ·.number)) (reference : Reference) :
    (absorb kept reference).Pairwise (·.number < ·.number) := by
  induction hkept with
  | nil => exact List.pairwise_singleton _ _
  | @cons first rest hfirst hrest ih =>
    rw [absorb]
    split
    · next hless =>
      refine .cons (fun entry hentry => ?_) (.cons hfirst hrest)
      rcases List.mem_cons.1 hentry with rfl | hentry
      · exact hless
      · exact hless.trans (hfirst entry hentry)
    · split
      · refine .cons (fun entry hentry => ?_) hrest
        rw [number_join]
        exact hfirst entry hentry
      · next hnotLess hne =>
        refine .cons (fun entry hentry => ?_) ih
        rcases number_of_mem_absorb hentry with hnumber | ⟨other, hother, hnumber⟩
        · omega
        · rw [hnumber]
          exact hfirst other hother

/-- Only what is kept for the number of the new reference changes. -/
theorem find?_absorb {kept : List Reference} (hkept : kept.Pairwise (·.number < ·.number)) (reference : Reference)
    (number : Nat) :
    (absorb kept reference).find? (·.number = number) =
      if reference.number = number then
        some (((kept.find? (·.number = number)).map (·.join reference)).getD reference)
      else kept.find? (·.number = number) := by
  induction hkept with
  | nil =>
    rw [absorb, List.find?_cons]
    by_cases hnumber : reference.number = number <;> simp [hnumber]
  | @cons first rest hfirst hrest ih =>
    rw [absorb]
    split
    · next hless =>
      -- The number is new: all others are greater, so it has not been met.
      rw [List.find?_cons]
      by_cases hnumber : reference.number = number
      · have hnone : (first :: rest).find? (·.number = number) = none := by
          rw [List.find?_eq_none]
          intro entry hentry
          have hle : first.number ≤ entry.number := by
            rcases List.mem_cons.1 hentry with rfl | hentry
            · exact Nat.le_refl _
            · exact Nat.le_of_lt (hfirst entry hentry)
          have hother : entry.number ≠ number := by omega
          simpa using hother
        simp [hnumber, hnone]
      · simp [hnumber]
    · split
      · next hsame =>
        rw [List.find?_cons, List.find?_cons, number_join]
        by_cases hnumber : first.number = number <;> simp [hnumber, hsame]
      · next hne =>
        rw [List.find?_cons, List.find?_cons, ih]
        by_cases hnumber : first.number = number
        · have hother : reference.number ≠ number := by omega
          simp [hnumber, hother]
        · simp [hnumber]

theorem digest?_append (references : List Reference) (reference : Reference) (number : Nat) :
    digest? (references ++ [reference]) number =
      if reference.number = number then
        some (((digest? references number).map (·.join reference)).getD reference)
      else digest? references number := by
  simp only [digest?, List.find?_append, List.find?_singleton]
  by_cases hnumber : reference.number = number
  · simp only [hnumber, true_and, decide_true, if_true]
    cases hfirst : references.find? (·.number = number) with
    | none =>
      have htelling : references.find? (fun reference => reference.number = number ∧ reference.context ≠ .unknown) =
          none := by
        rw [List.find?_eq_none] at hfirst ⊢
        intro other hother htells
        exact hfirst other hother (decide_eq_true (of_decide_eq_true htells).1)
      rw [htelling]
      cases decide (reference.context ≠ .unknown) <;> rfl
    | some first =>
      -- The new reference counts only if none of the earlier ones says anything.
      cases htelling : references.find? fun reference => reference.number = number ∧ reference.context ≠ .unknown with
      | some telling =>
        have htells : telling.number = number ∧ telling.context ≠ .unknown := by simpa using List.find?_some htelling
        simp [join, htells.2]
      | none =>
        have hunknown : first.context = .unknown := by
          have hnone := List.find?_eq_none.1 htelling first (List.mem_of_find?_eq_some hfirst)
          have hfirst := List.find?_some hfirst
          by_contra htells
          exact hnone (decide_eq_true ⟨of_decide_eq_true hfirst, htells⟩)
        by_cases htells : reference.context = .unknown <;> simp [join, hunknown, htells]
  · simp [hnumber]

/-- A reference that is taken in keeps a digest up to date. -/
theorem IsDigest.absorb {references kept : List Reference} (hkept : IsDigest references kept) (reference : Reference) :
    IsDigest (references ++ [reference]) (absorb kept reference) where
  ascending := pairwise_absorb hkept.ascending reference
  find? number := by rw [find?_absorb hkept.ascending, hkept.find?, digest?_append]

theorem isDigest_foldl_absorb (references : List Reference) : IsDigest references (references.foldl absorb []) := by
  induction references using List.reverseRecOn with
  | nil => exact ⟨.nil, fun _ => rfl⟩
  | append_singleton references reference ih =>
    rw [List.foldl_append, List.foldl_cons, List.foldl_nil]
    exact ih.absorb reference

theorem IsDigest.mem_numbers_iff {references kept : List Reference} (hkept : IsDigest references kept) (number : Nat) :
    number ∈ kept.map Reference.number ↔ number ∈ references.map Reference.number := by
  have hfound (values : List Reference) :
      number ∈ values.map Reference.number ↔ (values.find? (·.number = number)).isSome = true := by
    simp [List.find?_isSome]
  rw [hfound, hfound, hkept.find?, digest?, Option.isSome_map]

/-- One reference is left for each number, in ascending order. It stands where the first one does, and its type is
    looked for where the first one stands that says something about it. -/
theorem unique_keeps_firsts (references : List Reference) :
    (unique references).Pairwise (·.number < ·.number) ∧
    (∀ number, number ∈ (unique references).map Reference.number ↔ number ∈ references.map Reference.number) ∧
    (∀ kept ∈ unique references, ∃ first telling,
      references.find? (·.number = kept.number) = some first ∧
      (references.find? (fun reference => reference.number = kept.number ∧ reference.context ≠ .unknown) =
          some telling ∨
        (∀ reference ∈ references, reference.number = kept.number → reference.context = .unknown) ∧ telling = first) ∧
      kept = { first with context := telling.context, scope := telling.scope }) ∧
    references.foldl absorb [] = unique references ∧
    unique (unique references) = unique references := by
  have hunique := isDigest_unique references
  refine ⟨hunique.ascending, hunique.mem_numbers_iff, fun kept hkept => ?_, ?_, ?_⟩
  · have hfound := (find?_eq_some_iff_of_pairwise hunique.ascending).2 ⟨hkept, rfl⟩
    rw [hunique.find?] at hfound
    exact exists_telling_of_digest? hfound
  · exact (isDigest_foldl_absorb references).eq hunique
  · exact (isDigest_unique _).eq (isDigest_self hunique.ascending)

/-- Two numbers in turn. No reference to 1 says anything about its type; of those to 3, the second does first. -/
def untoldReferences : List Reference := [
  { number := 3, location := 10, context := .unknown, scope := [{ merged := ["a"] }], row := some 0 },
  { number := 1, location := 20, context := .unknown, scope := [{ merged := ["b"] }], row := none },
  { number := 3, location := 30, context := .limit, scope := [{ merged := ["c"] }], row := some 1 },
  { number := 1, location := 40, context := .unknown, scope := [{ merged := ["d"] }], row := some 0 },
  { number := 3, location := 50, context := .offset, scope := [], row := none }]

theorem unique_keeps_firsts_untoldReferences :
    unique untoldReferences = [
      { number := 1, location := 20, context := .unknown, scope := [{ merged := ["b"] }], row := none },
      { number := 3, location := 10, context := .limit, scope := [{ merged := ["c"] }], row := some 0 }] :=
  (unique_keeps_firsts untoldReferences).2.2.2.1.symm

/-- A reference whose parameter has no name is resolved only if its place says something about its type. -/
theorem context_ne_unknown_of_resolve {catalog : Catalog} {numbering : Numbering} {reference : Reference}
    {param : Parameter} (hnamed : numbering.param? reference.number = none)
    (hparam : reference.resolve catalog numbering = .ok param) : reference.context ≠ .unknown := by
  intro hunknown
  obtain ⟨found, hfound, -⟩ := bind_eq_ok.1 hparam
  simp [column, hunknown, hnamed] at hfound

/-- Where every reference says something about its type, the first one of a number is kept as it is. -/
theorem digest?_eq_find? {references : List Reference}
    (hknown : ∀ reference ∈ references, reference.context ≠ .unknown) (number : Nat) :
    digest? references number = references.find? (·.number = number) := by
  have htelling : references.find? (fun reference => reference.number = number ∧ reference.context ≠ .unknown) =
      references.find? (·.number = number) := by
    rw [← List.head?_filter, ← List.head?_filter]
    refine congrArg List.head? (List.filter_congr fun reference hreference => ?_)
    simp [hknown reference hreference]
  rw [digest?, htelling]
  cases references.find? (·.number = number) <;> rfl

theorem map_number_of_resolved {catalog : Catalog} {numbering : Numbering} {references : List Reference}
    {params : List Parameter}
    (hresolved : List.Forall₂ (fun reference param => resolve catalog numbering reference = .ok param) references
      params) : params.map Parameter.number = references.map Reference.number := by
  induction hresolved with
  | nil => rfl
  | cons hfirst _ ih => rw [List.map_cons, List.map_cons, ih, (resolve_ok hfirst).1]

end Reference

/-- If no parameter is named and the parameters of all references are known, then those of the merged references are
    the first ones of each number, in ascending order. -/
theorem mapM_resolve_unique {catalog : Catalog} {numbering : Numbering} {references : List Reference}
    {params : List Parameter} (hnamed : ∀ reference ∈ references, numbering.param? reference.number = none)
    (hparams : references.mapM (Reference.resolve catalog numbering) = .ok params) :
    (Reference.unique references).mapM (Reference.resolve catalog numbering) =
      .ok (firsts Parameter.number params) := by
  have hresolved := forall₂_of_mapM_eq_ok hparams
  have hknown : ∀ reference ∈ references, reference.context ≠ .unknown := by
    intro reference hreference
    obtain ⟨index, hindex, rfl⟩ := List.getElem_of_mem hreference
    exact Reference.context_ne_unknown_of_resolve (hnamed _ hreference)
      (hresolved.get hindex (hresolved.length_eq ▸ hindex))
  rw [Reference.unique_eq_filterMap, firsts_eq_filterMap params, Reference.map_number_of_resolved hresolved]
  refine mapM_eq_ok_of_forall₂ (List.rel_filterMap (R := Eq) ?_ (List.forall₂_refl _))
  rintro number _ rfl
  rw [Reference.digest?_eq_find? hknown]
  refine rel_find? hresolved fun reference param hparam => ?_
  rw [(Reference.resolve_ok hparam).1]

/-- The placeholders of `… WHERE id = $2 AND c = $1::text AND id = $1 LIMIT $2`. -/
def repeatedReferences : List Reference :=
  let scope : Scope := [.single { name := "users", asName := none, columns := [.ofType "id" .integer false] }]
  [ { number := 2, location := 12, context := .column none "id", scope, row := none },
    { number := 1, location := 23, context := .cast .text, scope, row := none },
    { number := 1, location := 41, context := .column none "id", scope, row := none },
    { number := 2, location := 50, context := .limit, scope, row := none }]

/-- What the placeholders stand for if each has a parameter of its own. -/
def repeatedParams : List Parameter := [
  { number := 2, column := .ofType "id" .integer true, location := 12 },
  { number := 1, column := .ofType "" .text true, location := 23 },
  { number := 1, column := .ofType "id" .integer true, location := 41 },
  { number := 2, column := .ofType "limit" .bigInt true, location := 50 }]

theorem mapM_resolve_unique_repeatedReferences :
    (∀ reference ∈ repeatedReferences, ({} : Numbering).param? reference.number = none) ∧
    repeatedReferences.mapM (Reference.resolve (.empty "public") {}) = .ok repeatedParams ∧
    (Reference.unique repeatedReferences).mapM (Reference.resolve (.empty "public") {}) = .ok [
      { number := 1, column := .ofType "" .text true, location := 23 },
      { number := 2, column := .ofType "id" .integer true, location := 12 }] := by
  have hnamed : ∀ reference ∈ repeatedReferences, ({} : Numbering).param? reference.number = none := by
    intro reference _
    simp [Numbering.param?]
  have hnumbers : firsts id (repeatedParams.map Parameter.number) = [1, 2] :=
    (List.mergeSort_eq_insertionSort (· ≤ ·) _).trans (by decide)
  refine ⟨hnamed, rfl, (mapM_resolve_unique hnamed rfl).trans ?_⟩
  change Except.ok (firsts Parameter.number repeatedParams) = _
  rw [firsts_eq_filterMap, hnumbers]
  rfl

end AnnotatedSql
