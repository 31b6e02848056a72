import AnnotatedSql.Text.Case

/-!
Two ways to take no account of case. Texts that differ in the case of the letters `A` to `Z` only have the same form in
lower case (`toLower_eq_of_sameLetters`). The converse fails, since lower case knows all scripts. In ASCII, lower and
upper case tell the same texts apart (`toLower_eq_iff_toUpper_eq`).
-/
namespace AnnotatedSql.Text

/-- Only the letters `A` to `Z` change; their lower forms stand 32 places behind them. -/
theorem toLower_cases (c : Char) : c.toLower = c ∨ (65 ≤ c.toNat ∧ c.toNat ≤ 90) ∧ c.toLower.toNat = c.toNat + 32 := by
  by_cases hupper : c.val ≥ 65 ∧ c.val ≤ 90
  · right
    have hrange : 65 ≤ c.toNat ∧ c.toNat ≤ 90 := hupper
    refine ⟨hrange, ?_⟩
    have hval : c.toLower.val = c.val + 32 := congrArg Char.val (dif_pos hupper)
    have hsum : (c.val + 32).toNat = c.val.toNat + 32 := by
      rw [UInt32.toNat_add]
      exact Nat.mod_eq_of_lt (Nat.lt_of_le_of_lt (Nat.add_le_add_right hrange.2 32) (by decide))
    exact (congrArg UInt32.toNat hval).trans hsum
  · left
    exact dif_neg hupper

/-- No letter `a` to `z` is ignored in casing, in either case. -/
theorem caseIgnorableRanges_apart : ∀ range ∈ caseIgnorableRanges,
    range.2 < 65 ∨ (90 < range.1 ∧ range.2 < 97) ∨ 122 < range.1 := by
  decide +kernel

theorem caseIgnorable_toLower (c : Char) :
    caseIgnorableRanges.has c.toLower.toNat = caseIgnorableRanges.has c.toNat := by
  rcases toLower_cases c with hself | ⟨hletter, hlower⟩
  · rw [hself]
  · have hnone : ∀ code, (65 ≤ code ∧ code ≤ 90) ∨ (97 ≤ code ∧ code ≤ 122) →
        caseIgnorableRanges.has code = false := by
      intro code hcode
      rw [← Bool.not_eq_true, Ranges.has_iff]
      rintro ⟨range, hrange, hstart, hstop⟩
      have := caseIgnorableRanges_apart range hrange
      omega
    rw [hnone _ (.inr (by omega)), hnone _ (.inl hletter)]

theorem cased_toLower (c : Char) : casedRanges.has c.toLower.toNat = casedRanges.has c.toNat := by
  rcases toLower_cases c with hself | ⟨hletter, hlower⟩
  · rw [hself]
  · have hranges : (65, 90) ∈ casedRanges ∧ (97, 122) ∈ casedRanges := by decide +kernel
    have hupper : casedRanges.has c.toNat = true := Ranges.has_iff.2 ⟨_, hranges.1, hletter⟩
    have hsmall : casedRanges.has c.toLower.toNat = true := Ranges.has_iff.2 ⟨_, hranges.2, by simp only; omega⟩
    rw [hupper, hsmall]

theorem lowerChar_toLower (c : Char) : lowerChar c.toLower = lowerChar c := by
  rcases toLower_cases c with hself | ⟨hletter, hlower⟩
  · rw [hself]
  · have hagain : c.toLower.toLower = c.toLower := (toLower_cases c.toLower).resolve_right (by omega)
    rw [lowerChar, lowerChar, if_pos (by omega), if_pos (by omega), hagain]

theorem toLower_eq_sigma_iff {c : Char} : c.toLower = 'Σ' ↔ c = 'Σ' := by
  rcases toLower_cases c with hself | ⟨hletter, hlower⟩
  · rw [hself]
  · constructor
    · intro hsigma
      rw [hsigma] at hlower
      have : 'Σ'.toNat = 931 := rfl
      omega
    · rintro rfl
      exact absurd hletter (by decide)

theorem meetsCased_map_toLower (cs : List Char) : meetsCased (cs.map Char.toLower) = meetsCased cs := by
  induction cs with
  | nil => rfl
  | cons c cs ih =>
    unfold meetsCased at ih ⊢
    rw [List.map_cons, List.dropWhile_cons, List.dropWhile_cons, caseIgnorable_toLower]
    cases caseIgnorableRanges.has c.toNat
    · exact cased_toLower c
    · exact ih

theorem lowerAfter_map_toLower (before text : List Char) :
    lowerAfter (before.map Char.toLower) (text.map Char.toLower) = lowerAfter before text := by
  induction text generalizing before with
  | nil => rfl
  | cons c rest ih =>
    have hrest := ih (c :: before)
    rw [List.map_cons] at hrest
    simp only [List.map_cons, lowerAfter, toLower_eq_sigma_iff, meetsCased_map_toLower, lowerChar_toLower, hrest]

theorem toLower_eq_of_sameLetters {a b : String} (hsame : sameLetters a b = true) : toLower a = toLower b := by
  rw [toLower, toLower, ← lowerAfter_map_toLower [] a.toList, ← lowerAfter_map_toLower [] b.toList,
    sameLetters_iff.1 hsame]

section Ascii

theorem toNat_toLower (c : Char) :
    c.toLower.toNat = if 65 ≤ c.toNat ∧ c.toNat ≤ 90 then c.toNat + 32 else c.toNat := by
  by_cases hupper : c.val ≥ 'A'.val ∧ c.val ≤ 'Z'.val
  · have hrange : 65 ≤ c.toNat ∧ c.toNat ≤ 90 := hupper
    have hsum : (c.toNat + ('a'.val - 'A'.val).toNat) % 4294967296 = c.toNat + 32 := by
      rw [show ('a'.val - 'A'.val).toNat = 32 from rfl]
      omega
    rw [if_pos hrange]
    exact (congrArg Char.toNat (dif_pos hupper)).trans ((UInt32.toNat_add _ _).trans hsum)
  · have hrange : ¬ (65 ≤ c.toNat ∧ c.toNat ≤ 90) := hupper
    rw [if_neg hrange, show c.toLower = c from dif_neg hupper]

theorem toNat_toUpper (c : Char) :
    c.toUpper.toNat = if 97 ≤ c.toNat ∧ c.toNat ≤ 122 then c.toNat - 32 else c.toNat := by
  by_cases hlower : 'a'.val ≤ c.val ∧ c.val ≤ 'z'.val
  · have hrange : 97 ≤ c.toNat ∧ c.toNat ≤ 122 := hlower
    have hsum : (c.toNat + ('A'.val - 'a'.val).toNat) % 4294967296 = c.toNat - 32 := by
      rw [show ('A'.val - 'a'.val).toNat = 4294967264 from rfl]
      omega
    rw [if_pos hrange]
    exact (congrArg Char.toNat (dif_pos hlower)).trans ((UInt32.toNat_add _ _).trans hsum)
  · have hrange : ¬ (97 ≤ c.toNat ∧ c.toNat ≤ 122) := hlower
    rw [if_neg hrange, show c.toUpper = c from dif_neg hlower]

theorem toLower_eq_toLower_iff {c d : Char} : c.toLower = d.toLower ↔ c.toUpper = d.toUpper := by
  rw [← Char.toNat_inj, ← Char.toNat_inj, toNat_toLower, toNat_toLower, toNat_toUpper, toNat_toUpper]
  split <;> split <;> split <;> split <;> omega

theorem map_toLower_eq_iff {a b : List Char} :
    a.map Char.toLower = b.map Char.toLower ↔ a.map Char.toUpper = b.map Char.toUpper := by
  induction a generalizing b with
  | nil => simp
  | cons c a ih => cases b <;> simp [toLower_eq_toLower_iff, ih]

/-- A text in ASCII. -/
def IsAscii (text : String) : Prop :=
  ∀ c ∈ text.toList, c.toNat < 128

instance (text : String) : Decidable (IsAscii text) :=
  decidable_of_iff (text.toList.all (fun c => c.toNat < 128) = true) (by simp [IsAscii])

theorem flatMap_upperChar_of_ascii {chars : List Char} (hchars : ∀ c ∈ chars, c.toNat < 128) :
    chars.flatMap upperChar = chars.map Char.toUpper := by
  induction chars with
  | nil => rfl
  | cons c chars ih =>
    obtain ⟨hc, hothers⟩ := List.forall_mem_cons.1 hchars
    have hupper : upperChar c = [c.toUpper] := if_pos hc
    rw [List.flatMap_cons, ih hothers, hupper]
    rfl

/-- The last letter of a word makes a difference for `Σ` only. -/
theorem lowerAfter_of_ascii (before : List Char) {chars : List Char} (hchars : ∀ c ∈ chars, c.toNat < 128) :
    lowerAfter before chars = chars.map Char.toLower := by
  induction chars generalizing before with
  | nil => rfl
  | cons c chars ih =>
    obtain ⟨hc, hothers⟩ := List.forall_mem_cons.1 hchars
    have hsigma : c ≠ 'Σ' := by
      rintro rfl
      exact absurd hc (by decide)
    have hlower : lowerChar c = [c.toLower] := if_pos hc
    rw [lowerAfter, ih _ hothers, if_neg hsigma, hlower]
    rfl

theorem IsAscii.toUpper_eq {text : String} (htext : IsAscii text) :
    toUpper text = String.ofList (text.toList.map Char.toUpper) := by
  rw [toUpper, flatMap_upperChar_of_ascii htext]

theorem IsAscii.toLower_eq {text : String} (htext : IsAscii text) :
    toLower text = String.ofList (text.toList.map Char.toLower) := by
  rw [toLower, lowerAfter_of_ascii [] htext]

/-- In ASCII the forms in lower case and those in upper case tell the same texts apart. -/
theorem toLower_eq_iff_toUpper_eq {a b : String} (ha : IsAscii a) (hb : IsAscii b) :
    toLower a = toLower b ↔ toUpper a = toUpper b := by
  rw [ha.toLower_eq, hb.toLower_eq, ha.toUpper_eq, hb.toUpper_eq, String.ofList_inj, String.ofList_inj,
    map_toLower_eq_iff]

end Ascii

end AnnotatedSql.Text
