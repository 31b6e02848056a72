/-!
Sets of code points, written as inclusive ranges. The character classes of this library are data of the
Unicode standard, and each of them is one such set.
-/
namespace AnnotatedSql.Text

/-- A set of code points: the union of inclusive ranges. -/
abbrev Ranges := List (Nat × Nat)

/-- Whether a code point lies in one of the ranges. -/
def Ranges.has (ranges : Ranges) (code : Nat) : Bool :=
  ranges.any fun range => range.1 ≤ code && code ≤ range.2

theorem Ranges.has_iff {ranges : Ranges} {code : Nat} :
    ranges.has code = true ↔ ∃ range ∈ ranges, range.1 ≤ code ∧ code ≤ range.2 := by
  simp [Ranges.has]

end AnnotatedSql.Text
