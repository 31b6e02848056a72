import AnnotatedSql.Keyed
import Mathlib.Data.List.InsertIdx
import Mathlib.Data.List.Nodup

/-!
Entries that are kept under the right keys. Each change of the entries is described by what it leaves of them; values
that fit their keys, under keys that are distinct, then stay so (`Keyed.WellKeyed`).
-/
namespace AnnotatedSql.Keyed

variable {α : Type} {entries : Keyed α} {key : String} {value : α} {P : String → α → Prop}

theorem mem_keys : key ∈ entries.keys ↔ entries.has key = true := by
  simp [keys, has]

theorem has_eq_false : entries.has key = false ↔ ∀ entry ∈ entries, entry.1 ≠ key := by
  simp [has]

theorem has_eq_isSome (entries : Keyed α) (key : String) : entries.has key = (entries.get? key).isSome := by
  rw [Bool.eq_iff_iff, has, get?, Option.isSome_map, List.any_eq_true, List.find?_isSome]

theorem get?_cons (entry : String × α) (entries : Keyed α) (key : String) :
    get? (entry :: entries) key = if entry.1 = key then some entry.2 else get? entries key := by
  by_cases hentry : entry.1 = key <;> simp [get?, hentry]

theorem mem_of_get? (hvalue : entries.get? key = some value) : (key, value) ∈ entries := by
  obtain ⟨entry, hentry, rfl⟩ := Option.map_eq_some_iff.1 hvalue
  have hkey : entry.1 = key := by simpa using List.find?_some hentry
  rw [← hkey]
  exact List.mem_of_find?_eq_some hentry

/-- Values that tell their own keys can be searched as the keys. -/
theorem find?_values {name : α → String} (hnames : ∀ entry ∈ entries, name entry.2 = entry.1) (p : String → Bool) :
    entries.values.find? (fun value => p (name value)) = (entries.find? (p ·.1)).map (·.2) := by
  induction entries with
  | nil => rfl
  | cons entry entries ih =>
    have hrest := ih fun other hother => hnames other (List.mem_cons_of_mem entry hother)
    rw [values, List.map_cons, List.find?_cons, List.find?_cons, hnames entry List.mem_cons_self]
    cases p entry.1 with
    | true => rfl
    | false => exact hrest

/-- A value that is put under a key brings the key along, if it is new. -/
theorem keys_insert (entries : Keyed α) (key : String) (value : α) :
    (entries.insert key value).keys = if entries.has key then entries.keys else entries.keys ++ [key] := by
  unfold insert
  split
  · rw [keys, keys, List.map_map]
    apply List.map_congr_left
    intro entry _
    by_cases hkey : entry.1 = key <;> simp [hkey]
  · simp [keys]

/-- A value put under a key is found there, and nothing else changes. -/
theorem get?_insert (entries : Keyed α) (key other : String) (value : α) :
    (entries.insert key value).get? other = if other = key then some value else entries.get? other := by
  have hreplace : ∀ entries : Keyed α, other ≠ key →
      get? (entries.map fun entry => if entry.1 == key then (key, value) else entry) other = get? entries other := by
    intro entries hother
    induction entries with
    | nil => rfl
    | cons entry entries ih =>
      rw [List.map_cons, get?_cons, get?_cons, ih]
      by_cases hentry : entry.1 = key
      · simp [hentry, Ne.symm hother]
      · simp [hentry]
  induction entries with
  | nil => simp [insert, has, get?_cons, eq_comm]
  | cons entry entries ih =>
    by_cases hentry : entry.1 = key
    · have hinsert : insert (entry :: entries) key value =
          (key, value) :: entries.map fun entry => if entry.1 == key then (key, value) else entry := by
        simp [insert, has, hentry]
      rw [hinsert, get?_cons, get?_cons, hentry]
      by_cases hother : other = key
      · simp [hother]
      · rw [if_neg (Ne.symm hother), if_neg hother, if_neg (Ne.symm hother), hreplace entries hother]
    · have hinsert : insert (entry :: entries) key value = entry :: insert entries key value := by
        by_cases hhas : has entries key = true <;> simp_all [insert, has]
      rw [hinsert, get?_cons, get?_cons, ih]
      by_cases hother : other = key
      · simp [hother, hentry]
      · simp [hother]

theorem mem_insert {entry : String × α} (hentry : entry ∈ entries.insert key value) :
    entry = (key, value) ∨ entry ∈ entries := by
  unfold insert at hentry
  split at hentry
  · obtain ⟨old, hold, rfl⟩ := List.mem_map.1 hentry
    split
    · exact .inl rfl
    · exact .inr hold
  · simpa [or_comm] using hentry

theorem keys_modifyFirst (p : String → Bool) (f : α → α) (entries : Keyed α) :
    (entries.modifyFirst p f).keys = entries.keys := by
  induction entries with
  | nil => rfl
  | cons entry entries ih =>
    unfold modifyFirst
    split
    · rfl
    · simp only [keys, List.map_cons] at ih ⊢
      rw [ih]

/-- The only entry that a change can touch is the first one that it is meant for. -/
theorem mem_modifyFirst {p : String → Bool} {f : α → α} {entry : String × α}
    (hentry : entry ∈ entries.modifyFirst p f) :
    entry ∈ entries ∨ ∃ old, entries.find? (p ·.1) = some old ∧ entry = (old.1, f old.2) := by
  induction entries with
  | nil => cases hentry
  | cons first entries ih =>
    unfold modifyFirst at hentry
    split at hentry
    · next hfirst =>
      rcases List.mem_cons.1 hentry with rfl | hrest
      · exact .inr ⟨first, by simp [hfirst], rfl⟩
      · exact .inl (List.mem_cons_of_mem first hrest)
    · next hfirst =>
      rcases List.mem_cons.1 hentry with rfl | hrest
      · exact .inl List.mem_cons_self
      · rcases ih hrest with hold | ⟨old, hfound, heq⟩
        · exact .inl (List.mem_cons_of_mem first hold)
        · exact .inr ⟨old, by simp [hfirst, hfound], heq⟩

theorem get?_modifyFirst (entries : Keyed α) (key other : String) (f : α → α) :
    (entries.modifyFirst (· == key) f).get? other =
      if other = key then (entries.get? other).map f else entries.get? other := by
  induction entries with
  | nil => simp [modifyFirst, get?]
  | cons entry entries ih =>
    by_cases hentry : entry.1 = key
    · by_cases hother : other = key
      · simp [modifyFirst, get?_cons, hentry, hother]
      · simp [modifyFirst, get?_cons, hentry, hother, Ne.symm hother]
    · by_cases hother : other = key
      · simp [modifyFirst, get?_cons, hentry, hother] at ih ⊢
        exact ih
      · simp [modifyFirst, get?_cons, hentry, hother] at ih ⊢
        rw [ih]

/-- A change of the first entry of some kind is found under the key of that entry, and nothing else changes. -/
theorem get?_modifyFirst_of_find? {p : String → Bool} (hfirst : entries.find? (p ·.1) = some (key, value))
    (f : α → α) (other : String) :
    (entries.modifyFirst p f).get? other = if other = key then some (f value) else entries.get? other := by
  induction entries with
  | nil => cases hfirst
  | cons entry entries ih =>
    rw [List.find?_cons] at hfirst
    unfold modifyFirst
    split at hfirst
    · next hentry =>
      cases hfirst
      rw [if_pos hentry, get?_cons, get?_cons]
      by_cases hother : other = key
      · simp [hother]
      · simp [hother, Ne.symm hother]
    · next hentry =>
      -- The key of the changed entry is of the kind, so it is not the key of this one.
      have hne : entry.1 ≠ key := by
        rintro rfl
        simpa [hentry] using List.find?_some hfirst
      rw [if_neg (by simp [hentry]), get?_cons, get?_cons, ih hfirst]
      by_cases hother : other = key
      · simp [hother, hne]
      · simp [hother]

/-- What is kept under a key that a change is not meant for stays as it is. -/
theorem get?_modifyFirst_of_not {p : String → Bool} (hkey : p key = false) (f : α → α) (entries : Keyed α) :
    (entries.modifyFirst p f).get? key = entries.get? key := by
  induction entries with
  | nil => rfl
  | cons entry entries ih =>
    unfold modifyFirst
    split
    · next hentry =>
      have hne : entry.1 ≠ key := by
        rintro rfl
        simp [hkey] at hentry
      rw [get?_cons, get?_cons, if_neg hne, if_neg hne]
    · rw [get?_cons, get?_cons, ih]

theorem modifyFirst_id (p : String → Bool) (entries : Keyed α) : entries.modifyFirst p id = entries := by
  induction entries with
  | nil => rfl
  | cons entry entries ih =>
    rw [modifyFirst, ih]
    split <;> rfl

theorem keys_erase (entries : Keyed α) (key : String) : (entries.erase key).keys = entries.keys.erase key := by
  rw [keys, keys, erase, List.erase_eq_eraseP', List.eraseP_map]
  rfl

/-- Under distinct keys, nothing is found any more under a key that is taken out, and nothing else changes. -/
theorem get?_erase (hnodup : entries.keys.Nodup) (key other : String) :
    (entries.erase key).get? other = if other = key then none else entries.get? other := by
  split
  · next hother =>
    have hgone : key ∉ (entries.erase key).keys := by
      rw [keys_erase]
      exact hnodup.not_mem_erase
    rw [mem_keys, has_eq_isSome, Bool.not_eq_true, Option.isSome_eq_false_iff, Option.isNone_iff_eq_none] at hgone
    rw [hother, hgone]
  · next hother =>
    clear hnodup
    induction entries with
    | nil => rfl
    | cons entry entries ih =>
      rw [erase, List.eraseP_cons, get?_cons]
      by_cases hentry : entry.1 = key
      · simp [hentry, Ne.symm hother]
      · rw [beq_false_of_ne hentry, cond_false, get?_cons]
        split
        · rfl
        · exact ih

/-- An entry that stands at an index is the first one of its key. -/
theorem exists_of_indexOf? {index : Nat} (hindex : entries.indexOf? key = some index) :
    ∃ front value back, entries = front ++ (key, value) :: back ∧ has front key = false ∧ front.length = index := by
  obtain ⟨hlt, hkey, hbefore⟩ := List.findIdx?_eq_some_iff_getElem.1 hindex
  refine ⟨entries.take index, entries[index].2, entries.drop (index + 1), ?_, ?_, ?_⟩
  · have hentry : (key, entries[index].2) = entries[index] := by rw [← beq_iff_eq.1 hkey]
    rw [hentry, ← List.drop_eq_getElem_cons hlt, List.take_append_drop]
  · rw [has_eq_false]
    intro entry hentry
    obtain ⟨place, hplace, rfl⟩ := List.mem_take_iff_getElem.1 hentry
    simpa using hbefore place (by omega)
  · exact List.length_take_of_le (Nat.le_of_lt hlt)

section

variable {front back : Keyed α}

theorem get?_of_first (hfront : has front key = false) : get? (front ++ (key, value) :: back) key = some value := by
  have hnone : front.find? (·.1 == key) = none := by simpa [has] using hfront
  simp [get?, List.find?_append, hnone]

theorem erase_of_first (hfront : has front key = false) :
    erase (front ++ (key, value) :: back) key = front ++ back := by
  have hkept : ∀ entry ∈ front, ¬ (entry.1 == key) = true := by simpa [has] using hfront
  rw [erase, List.eraseP_append_right _ hkept]
  simp

end

/-- Where a value cannot be put: behind the last entry if its key is there already, and further behind in any case. -/
theorem insertAt?_eq_none_iff {index : Nat} :
    entries.insertAt? index key value = none ↔
      entries.length < index ∨ entries.length = index ∧ entries.has key = true := by
  unfold insertAt?
  cases entries.has key
  · simp
  · simp
    omega

/-- Distinct keys, and under each key a value that fits it. -/
structure WellKeyed (P : String → α → Prop) (entries : Keyed α) : Prop where
  nodup : entries.keys.Nodup
  fits : ∀ entry ∈ entries, P entry.1 entry.2

namespace WellKeyed

theorem nil : WellKeyed P ([] : Keyed α) :=
  ⟨List.nodup_nil, by simp⟩

theorem singleton (hvalue : P key value) : WellKeyed P [(key, value)] :=
  ⟨List.nodup_singleton key, by simpa using hvalue⟩

theorem of_get? (hentries : entries.WellKeyed P) (hvalue : entries.get? key = some value) : P key value :=
  hentries.fits (key, value) (mem_of_get? hvalue)

/-- Under distinct keys every entry is found. -/
theorem get?_of_mem (hentries : entries.WellKeyed P) (hentry : (key, value) ∈ entries) :
    entries.get? key = some value := by
  obtain ⟨front, back, rfl⟩ := List.append_of_mem hentry
  apply get?_of_first
  rw [has_eq_false]
  intro entry hfront hkey
  have hnodup := hentries.nodup
  rw [keys, List.map_append, List.map_cons, List.nodup_append] at hnodup
  exact hnodup.2.2 _ (List.mem_map_of_mem hfront) _ List.mem_cons_self hkey

theorem insert (hentries : entries.WellKeyed P) (hvalue : P key value) :
    (entries.insert key value).WellKeyed P := by
  constructor
  · rw [keys_insert]
    split
    · exact hentries.nodup
    · next hnew =>
      apply List.Nodup.append hentries.nodup (List.nodup_singleton key)
      rw [List.disjoint_singleton]
      rwa [mem_keys]
  · intro entry hentry
    rcases mem_insert hentry with rfl | hold
    · exact hvalue
    · exact hentries.fits entry hold

theorem erase (hentries : entries.WellKeyed P) (key : String) : (entries.erase key).WellKeyed P := by
  have hsublist : (entries.erase key).Sublist entries := List.eraseP_sublist
  exact ⟨hentries.nodup.sublist (hsublist.map _), fun entry hentry => hentries.fits entry (hsublist.subset hentry)⟩

/-- A change of the first entry of some kind has to fit the key of that entry only. -/
theorem modifyFirst (hentries : entries.WellKeyed P) (p : String → Bool) (f : α → α)
    (hfirst : ∀ entry, entries.find? (p ·.1) = some entry → P entry.1 (f entry.2)) :
    (entries.modifyFirst p f).WellKeyed P := by
  constructor
  · rw [keys_modifyFirst]
    exact hentries.nodup
  · intro entry hentry
    rcases mem_modifyFirst hentry with hold | ⟨old, hfound, rfl⟩
    · exact hentries.fits entry hold
    · exact hfirst old hfound

private theorem insertIdx (hentries : entries.WellKeyed P) {index : Nat} (hindex : index ≤ entries.length)
    (hnew : entries.has key = false) (hvalue : P key value) :
    WellKeyed P (List.insertIdx entries index (key, value)) := by
  constructor
  · have hperm : (keys (List.insertIdx entries index (key, value))).Perm (key :: entries.keys) :=
      (List.perm_insertIdx _ entries hindex).map _
    rw [hperm.nodup_iff, List.nodup_cons, mem_keys, hnew]
    exact ⟨Bool.false_ne_true, hentries.nodup⟩
  · intro entry hentry
    rcases (List.mem_insertIdx hindex).1 hentry with rfl | hold
    · exact hvalue
    · exact hentries.fits entry hold

theorem insertAt? (hentries : entries.WellKeyed P) {index : Nat} {after : Keyed α} (hvalue : P key value)
    (hafter : entries.insertAt? index key value = some after) : after.WellKeyed P := by
  unfold Keyed.insertAt? at hafter
  split at hafter <;> split at hafter <;> cases hafter
  · next hhas hindex =>
    have hlength : (entries.erase key).length = entries.length - 1 := by
      obtain ⟨entry, hentry, hkey⟩ := List.any_eq_true.1 hhas
      exact List.length_eraseP_of_mem hentry hkey
    have hgone : (entries.erase key).has key = false := by
      rw [← Bool.not_eq_true, ← mem_keys, keys_erase]
      exact hentries.nodup.not_mem_erase
    exact (hentries.erase key).insertIdx (by omega) hgone hvalue
  · next hhas hindex => exact hentries.insertIdx hindex (Bool.not_eq_true _ ▸ hhas) hvalue

end WellKeyed

end AnnotatedSql.Keyed
