import AnnotatedSql.Text.Position

/-!
Positions in concatenated texts. The position after a text depends on the text alone, and what follows it is placed
relative to that position. Line and column of a character lead back to its offset (`leadsBack_byteSize`).
-/
namespace AnnotatedSql.Text

/-- The position behind a text whose first character stands at the given one. -/
def positionAfter : (line column : Nat) → List Char → Nat × Nat
  | line, column, [] => (line, column)
  | line, column, c :: cs => if c = '\n' then positionAfter (line + 1) 1 cs else positionAfter line (column + 1) cs

/-- A position counted from another one instead of the start of a text. Only the first line is moved sideways. -/
def rebase (origin position : Nat × Nat) : Nat × Nat :=
  if position.1 = 1 then (origin.1, origin.2 + (position.2 - 1)) else (origin.1 + (position.1 - 1), position.2)

theorem positionAfter_append (line column : Nat) (cs ds : List Char) :
    positionAfter line column (cs ++ ds) =
      positionAfter (positionAfter line column cs).1 (positionAfter line column cs).2 ds := by
  induction cs generalizing line column with
  | nil => rfl
  | cons c cs ih =>
    simp only [List.cons_append, positionAfter]
    split <;> exact ih _ _

/-- The offset of a character that begins a suffix has the position after the prefix. -/
theorem positionFrom_byteSize (line column : Nat) (cs ds : List Char) :
    positionFrom line column (cs ++ ds) (byteSize cs) = some (positionAfter line column cs) := by
  induction cs generalizing line column with
  | nil => cases ds <;> rfl
  | cons c cs ih =>
    have hpos := c.utf8Size_pos
    obtain ⟨n, hn⟩ : ∃ n, byteSize (c :: cs) = n + 1 := ⟨c.utf8Size + byteSize cs - 1, by simp; omega⟩
    have hsize : n + 1 - c.utf8Size = byteSize cs := by simp at hn; omega
    have hwide : ¬ n + 1 < c.utf8Size := by simp at hn; omega
    rw [hn, List.cons_append, positionFrom, if_neg hwide, hsize]
    simp only [positionAfter]
    split <;> exact ih _ _

/-- Counting from any position is counting from the start of a text and moving the result. -/
theorem positionAfter_eq_rebase (line column : Nat) (cs : List Char) :
    positionAfter line column cs = rebase (line, column) (positionAfter 1 1 cs) := by
  suffices h : ∀ k m, positionAfter (line + k) (if k = 0 then column + m else 1 + m) cs =
      rebase (line, column) (positionAfter (1 + k) (1 + m) cs) by
    simpa using h 0 0
  induction cs with
  | nil =>
    intro k m
    by_cases hk : k = 0 <;> simp [positionAfter, rebase, hk]
  | cons c cs ih =>
    intro k m
    simp only [positionAfter]
    split
    · simpa [Nat.add_assoc] using ih (k + 1) 0
    · have hstep := ih k (m + 1)
      by_cases hk : k = 0 <;> simpa [hk, Nat.add_assoc] using hstep

/-- The line on which a text ends: where it starts, given what follows the text. -/
theorem exists_lineStart? (line column : Nat) (cs ds : List Char) :
    ∃ count front last, cs = front ++ last ∧
      positionAfter line column cs = (line + count, (if count = 0 then column else 1) + last.length) ∧
      lineStart? count (cs ++ ds) = some (byteSize front, last ++ ds) := by
  induction cs generalizing line column with
  | nil => exact ⟨0, [], [], rfl, rfl, by simp [lineStart?]⟩
  | cons c cs ih =>
    by_cases hc : c = '\n'
    · obtain ⟨count, front, last, rfl, hposition, hstart⟩ := ih (line + 1) 1
      refine ⟨count + 1, c :: front, last, rfl, ?_, ?_⟩
      · rw [positionAfter, if_pos hc, hposition, ite_self, if_neg (Nat.succ_ne_zero count), Nat.add_right_comm]
        rfl
      · rw [List.cons_append, lineStart?, if_pos hc, hstart]
        simp [Nat.add_comm]
    · obtain ⟨count, front, last, hcs, hposition, hstart⟩ := ih line (column + 1)
      rw [positionAfter, if_neg hc, hposition]
      cases count with
      | zero =>
        -- No line ends in the text.
        have hlast : cs = last := by
          rw [lineStart?, Option.some.injEq, Prod.mk.injEq] at hstart
          exact List.append_cancel_right hstart.2
        refine ⟨0, [], c :: last, by rw [hlast]; rfl, ?_, by simp [lineStart?, hlast]⟩
        rw [if_pos rfl, if_pos rfl, List.length_cons, Nat.add_right_comm, Nat.add_assoc column]
      | succ count =>
        refine ⟨count + 1, c :: front, last, by rw [hcs]; rfl, rfl, ?_⟩
        rw [List.cons_append, lineStart?, if_neg hc, hstart]
        simp [Nat.add_comm]

theorem offset?_eq_some {text rest : List Char} {line column start : Nat} (hline : line ≠ 0) (hcolumn : column ≠ 0)
    (hstart : lineStart? (line - 1) text = some (start, rest)) (hlength : column - 1 ≤ rest.length) :
    offset? text line column = some (start + byteSize (rest.take (column - 1))) := by
  have hcounted : (guard (line ≠ 0 ∧ column ≠ 0) : Option Unit) = some () := if_pos ⟨hline, hcolumn⟩
  have hreached : (guard (column - 1 ≤ rest.length) : Option Unit) = some () := if_pos hlength
  rw [offset?, hcounted, hstart]
  exact congrArg (Option.bind · _) hreached

/-- An offset that line and column lead back to. -/
def LeadsBack (text : List Char) (offset : Nat) : Prop :=
  ∃ line column, position? text offset = some (line, column) ∧ offset? text line column = some offset

/-- Line and column of a character lead back to its offset. -/
theorem leadsBack_byteSize (cs ds : List Char) : LeadsBack (cs ++ ds) (byteSize cs) := by
  obtain ⟨count, front, last, hcs, hposition, hstart⟩ := exists_lineStart? 1 1 cs ds
  refine ⟨1 + count, 1 + last.length, ?_, ?_⟩
  · rw [position?, positionFrom_byteSize, hposition]
    simp
  · have hsize : byteSize cs = byteSize front + byteSize last := by rw [hcs, byteSize_append]
    rw [offset?_eq_some (by omega) (by omega) (Nat.add_sub_cancel_left 1 count ▸ hstart) (by simp), hsize]
    simp

end AnnotatedSql.Text
