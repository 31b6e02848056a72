import AnnotatedSql.Proofs.Text.Position
import Mathlib.Data.List.DropRight

/-!
Line and column, by what stands before an offset: the newlines there give the line, and the characters behind the last
of them the column. Offsets of characters and places on lines determine each other (`position?_offset?_inverse`).
-/
namespace AnnotatedSql.Text

/-- Line and column behind a text. -/
def lineColumn (before : List Char) : Nat × Nat :=
  (1 + before.count '\n', 1 + (before.rtakeWhile (· != '\n')).length)

theorem lineColumn_concat_newline (before : List Char) :
    lineColumn (before ++ ['\n']) = ((lineColumn before).1 + 1, 1) := by
  have hcolumn : (before ++ ['\n']).rtakeWhile (· != '\n') = [] := List.rtakeWhile_concat_neg _ _ _ (by simp)
  rw [lineColumn, hcolumn, List.count_append, List.count_singleton_self]
  rfl

theorem lineColumn_concat {c : Char} (hc : c ≠ '\n') (before : List Char) :
    lineColumn (before ++ [c]) = ((lineColumn before).1, (lineColumn before).2 + 1) := by
  have hcolumn : (before ++ [c]).rtakeWhile (· != '\n') = before.rtakeWhile (· != '\n') ++ [c] :=
    List.rtakeWhile_concat_pos _ _ _ (by simpa using hc)
  rw [lineColumn, hcolumn, List.count_append, List.count_singleton, if_neg (by simpa using hc), List.length_append]
  rfl

/-- Characters without a newline move the column only. -/
theorem lineColumn_append_of_not_mem (before : List Char) {part : List Char} (hpart : '\n' ∉ part) :
    lineColumn (before ++ part) = ((lineColumn before).1, (lineColumn before).2 + part.length) := by
  induction part using List.reverseRecOn with
  | nil => simp
  | append_singleton part c ih =>
    rw [List.mem_append, not_or] at hpart
    have hc : c ≠ '\n' := fun h => hpart.2 (by simp [h])
    rw [← List.append_assoc, lineColumn_concat hc, ih hpart.1, List.length_append, List.length_singleton, Nat.add_assoc]

theorem positionAfter_eq_lineColumn (before : List Char) : positionAfter 1 1 before = lineColumn before := by
  induction before using List.reverseRecOn with
  | nil => rfl
  | append_singleton before c ih =>
    rw [positionAfter_append, ih]
    by_cases hc : c = '\n'
    · rw [hc, lineColumn_concat_newline]
      rfl
    · rw [lineColumn_concat hc, positionAfter, if_neg hc]
      rfl

theorem position?_byteSize (before after : List Char) :
    position? (before ++ after) (byteSize before) = some (lineColumn before) := by
  rw [position?, positionFrom_byteSize, positionAfter_eq_lineColumn]

theorem offset?_lineColumn (before after : List Char) :
    offset? (before ++ after) (lineColumn before).1 (lineColumn before).2 = some (byteSize before) := by
  obtain ⟨line, column, hposition, hoffset⟩ := leadsBack_byteSize before after
  rw [position?_byteSize] at hposition
  cases hposition
  exact hoffset

/-- A line of a text that is put at the start of a line: as many lines are before it as its index says, and it starts at
    the first column. -/
theorem exists_of_getElem?_splitOn {before : List Char} (hbefore : (lineColumn before).2 = 1) (text : List Char)
    {index : Nat} {line : List Char} (hline : (text.splitOn '\n')[index]? = some line) :
    ∃ front rest, text = front ++ (line ++ rest) ∧ '\n' ∉ line ∧
      lineColumn (before ++ front) = ((lineColumn before).1 + index, 1) := by
  have hfirst : lineColumn (before ++ []) = ((lineColumn before).1 + 0, 1) := by
    rw [List.append_nil, ← hbefore]
    rfl
  by_cases hmem : '\n' ∈ text
  · obtain ⟨first, rest, htext, hnone⟩ := List.eq_append_cons_of_mem hmem
    rw [htext, List.splitOn_append_cons_self_of_not_mem hnone] at hline
    cases index with
    | zero =>
      cases hline
      exact ⟨[], '\n' :: rest, htext, hnone, hfirst⟩
    | succ index =>
      -- The rest stands behind the newline, at the start of the next line.
      have hnext : lineColumn (before ++ first ++ ['\n']) = ((lineColumn before).1 + 1, 1) := by
        rw [lineColumn_concat_newline, lineColumn_append_of_not_mem before hnone]
      obtain ⟨front, behind, hrest, hplain, hfront⟩ :=
        exists_of_getElem?_splitOn (congrArg Prod.snd hnext) rest hline
      refine ⟨first ++ '\n' :: front, behind, by simp [htext, hrest], hplain, ?_⟩
      rw [hnext] at hfront
      simpa [Nat.add_assoc, Nat.add_comm 1] using hfront
  · rw [List.splitOn_eq_singleton hmem] at hline
    cases index with
    | zero =>
      cases hline
      exact ⟨[], [], by simp, hmem, hfirst⟩
    | succ index => cases hline
termination_by text.length
decreasing_by
  rw [htext, List.length_append, List.length_cons]
  omega

/-- Each column of a line, the one behind its last character included, is the place of some offset. -/
theorem exists_lineColumn_eq {text line : List Char} {index column : Nat}
    (hline : (text.splitOn '\n')[index]? = some line) (hcolumn : column ≤ line.length) :
    ∃ before after, text = before ++ after ∧ lineColumn before = (index + 1, column + 1) := by
  obtain ⟨front, rest, rfl, hplain, hfront⟩ := @exists_of_getElem?_splitOn [] rfl text index line hline
  have htaken : '\n' ∉ line.take column := fun h => hplain (List.mem_of_mem_take h)
  refine ⟨front ++ line.take column, line.drop column ++ rest, ?_, ?_⟩
  · rw [List.append_assoc, ← List.append_assoc (line.take column), List.take_append_drop]
  · rw [lineColumn_append_of_not_mem front htaken, List.length_take_of_le hcolumn, ← List.nil_append front, hfront]
    exact Prod.ext (Nat.add_comm 1 index) (Nat.add_comm 1 column)

/-- The offset of a character or of the end has as its line one more than the newlines before it, and as its column one
    more than the characters since the last of them; line and column lead back to the offset. In turn, every column of a
    line, up to the one behind its last character, leads to such an offset, whose line and column they are. -/
theorem position?_offset?_inverse (text : List Char) :
    (∀ before after, text = before ++ after →
      position? text (byteSize before) =
        some (1 + before.count '\n', 1 + (before.rtakeWhile (· != '\n')).length) ∧
      offset? text (1 + before.count '\n') (1 + (before.rtakeWhile (· != '\n')).length) = some (byteSize before)) ∧
    ∀ line column row, (text.splitOn '\n')[line]? = some row → column ≤ row.length →
      ∃ before after, text = before ++ after ∧ offset? text (line + 1) (column + 1) = some (byteSize before) ∧
        position? text (byteSize before) = some (line + 1, column + 1) := by
  constructor
  · rintro before after rfl
    exact ⟨position?_byteSize before after, offset?_lineColumn before after⟩
  · intro line column row hrow hcolumn
    obtain ⟨before, after, rfl, hplace⟩ := exists_lineColumn_eq hrow hcolumn
    have hoffset := offset?_lineColumn before after
    have hposition := position?_byteSize before after
    rw [hplace] at hoffset hposition
    exact ⟨before, after, rfl, hoffset, hposition⟩

/-- An empty line, a character of two bytes, and a newline at the end. -/
theorem position?_offset?_inverse_emptyLine :
    position? "a\n\ncé\n".toList 6 = some (3, 3) ∧ offset? "a\n\ncé\n".toList 3 3 = some 6 ∧
    (∃ before after, "a\n\ncé\n".toList = before ++ after ∧ offset? "a\n\ncé\n".toList 2 1 = some (byteSize before) ∧
      position? "a\n\ncé\n".toList (byteSize before) = some (2, 1)) ∧
    ∃ before after, "a\n\ncé\n".toList = before ++ after ∧ offset? "a\n\ncé\n".toList 4 1 = some (byteSize before) ∧
      position? "a\n\ncé\n".toList (byteSize before) = some (4, 1) := by
  obtain ⟨hoffsets, hplaces⟩ := position?_offset?_inverse "a\n\ncé\n".toList
  obtain ⟨hposition, hoffset⟩ := hoffsets "a\n\ncé".toList ['\n'] rfl
  exact ⟨hposition, hoffset, hplaces 1 0 [] rfl (Nat.le_refl 0), hplaces 3 0 [] rfl (Nat.le_refl 0)⟩

end AnnotatedSql.Text
