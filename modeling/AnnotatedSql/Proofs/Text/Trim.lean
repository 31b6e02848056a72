import AnnotatedSql.Text.Blank
import AnnotatedSql.Text.Bytes
import Mathlib.Data.List.Basic
import Mathlib.Data.List.TakeWhile

/-!
Trimmed texts. A text is its blanks at the front, what trimming leaves of it, and its blanks at the end
(`leading_trim_trailing`).
-/
namespace AnnotatedSql.Text

/-- The blanks at the front of a text. -/
def leading (text : List Char) : List Char :=
  text.takeWhile isBlank

/-- The blanks at the end of a text that is not all blank. -/
def trailing (text : List Char) : List Char :=
  ((trimStart text).reverse.takeWhile isBlank).reverse

theorem leading_trim_trailing (text : List Char) : leading text ++ (trim text ++ trailing text) = text := by
  have hend : trim text ++ trailing text = trimStart text := by
    rw [trim, trimEnd, trailing, ← List.reverse_append, List.takeWhile_append_dropWhile, List.reverse_reverse]
  rw [hend, leading, trimStart, List.takeWhile_append_dropWhile]

theorem isBlank_of_mem_trailing {text : List Char} {c : Char} (hc : c ∈ trailing text) : isBlank c = true :=
  List.mem_takeWhile_imp (List.mem_reverse.1 hc)

theorem isBlank_of_mem_leading {text : List Char} {c : Char} (hc : c ∈ leading text) : isBlank c = true :=
  List.mem_takeWhile_imp hc

theorem byteSize_leading (text : List Char) : byteSize text - byteSize (trimStart text) = byteSize (leading text) := by
  have hsize := congrArg byteSize (List.takeWhile_append_dropWhile (p := isBlank) (l := text))
  rw [byteSize_append] at hsize
  rw [leading, trimStart]
  omega

/-- Trimming the end of a text keeps a front part that ends in a visible character. -/
theorem trimEnd_append {front : List Char} (rest : List Char) (hfront : ∀ c ∈ front.getLast?, isBlank c = false)
    (hne : front ≠ []) : trimEnd (front ++ rest) = front ++ trimEnd rest := by
  have hstop : front.reverse.dropWhile isBlank = front.reverse := by
    rw [List.dropWhile_eq_self_iff]
    intro hpos
    have hlast : front.getLast? = some (front.reverse[0]) := by
      rw [List.getLast?_eq_getLast_of_ne_nil hne]
      simp [List.getLast_eq_getElem]
    simpa using hfront _ hlast
  rw [trimEnd, trimEnd, List.reverse_append, List.dropWhile_append]
  split
  · next hall => rw [hstop, List.isEmpty_iff.1 hall, List.reverse_reverse, List.reverse_nil, List.append_nil]
  · rw [List.reverse_append, List.reverse_reverse]

theorem trimEnd_prefix_self (text : List Char) : trimEnd text <+: text := by
  rw [← List.reverse_suffix]
  simpa [trimEnd] using List.dropWhile_suffix isBlank

/-- A mark that ends in a visible character opens a text whether the end of the text is trimmed or not. -/
theorem isPrefixOf_trimEnd {mark : List Char} (text : List Char) (hmark : ∀ c ∈ mark.getLast?, isBlank c = false) :
    mark.isPrefixOf (trimEnd text) = mark.isPrefixOf text := by
  rw [Bool.eq_iff_iff, List.isPrefixOf_iff_prefix, List.isPrefixOf_iff_prefix]
  constructor
  · intro hopens
    exact hopens.trans (trimEnd_prefix_self text)
  · rintro ⟨rest, rfl⟩
    by_cases hne : mark = []
    · simp [hne]
    · rw [trimEnd_append rest hmark hne]
      exact List.prefix_append mark _

/-- No blank stands at the front or at the end. -/
structure IsTrimmed (text : List Char) : Prop where
  front : ∀ c ∈ text.head?, isBlank c = false
  back : ∀ c ∈ text.getLast?, isBlank c = false

theorem isTrimmed_trim (text : List Char) : IsTrimmed (trim text) := by
  have hdrop : ∀ cs : List Char, ∀ c ∈ (cs.dropWhile isBlank).head?, isBlank c = false := by
    intro cs c hc
    have hhead := List.head?_dropWhile_not isBlank cs
    rw [Option.mem_def.1 hc] at hhead
    simpa using hhead
  constructor
  · intro c hc
    obtain ⟨rest, hrest⟩ := trimEnd_prefix_self (trimStart text)
    refine hdrop text c ?_
    change c ∈ (trimStart text).head?
    rw [← hrest, List.head?_append]
    simpa [trim] using Or.inl hc
  · intro c hc
    rw [trim, trimEnd, List.getLast?_reverse] at hc
    exact hdrop _ c hc

end AnnotatedSql.Text
