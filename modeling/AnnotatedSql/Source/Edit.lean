import AnnotatedSql.Error
import AnnotatedSql.Text.Bytes
import AnnotatedSql.Text.Number

/-!
Substitutions in a text. All of them are given against the text as it was, they may come in any order, and they may
not overlap.
-/
namespace AnnotatedSql.Source

/-- The substitution of `new` for `old` at a byte offset. -/
structure Edit where
  location : Nat
  old : List Char
  new : List Char
deriving Repr, DecidableEq

def Edit.stop (edit : Edit) : Nat :=
  edit.location + Text.byteSize edit.old

theorem Edit.location_lt_stop {edit : Edit} (hold : edit.old ≠ []) : edit.location < edit.stop :=
  Nat.lt_add_of_pos_right (Text.byteSize_pos hold)

/-- A text under edits that are applied from its end: the first `floor` bytes are as they were, and `tail` follows
    them. -/
structure Edited where
  floor : Nat
  tail : List Char

/-- Why an edit is not applied below a floor. Its end is a word: one beyond the last word counts from 0 again, and the
    edit then does not seem to reach beyond the floor. -/
def Edit.refusal (edit : Edit) (floor : Nat) : Error :=
  .invalidEdit <|
    if edit.stop % Text.wordCount > floor then s!"edit at {edit.location} overlaps another edit"
    else s!"expected {Text.quoted (String.ofList edit.old)} at offset {edit.location}"

/-- Applies an edit that has to lie below the floor. -/
def Edited.apply (text : List Char) (edited : Edited) (edit : Edit) : Except Error Edited :=
  if edit.stop ≤ edited.floor ∧ Text.slice? text edit.location edit.stop = some edit.old then
    let between := (Text.slice? text edit.stop edited.floor).getD []
    .ok { floor := edit.location, tail := edit.new ++ between ++ edited.tail }
  else .error (edit.refusal edited.floor)

/-- The text after all edits. Edits at one place are applied in the order given, each in front of the one before. -/
def mutate (text : List Char) (edits : List Edit) : Except Error (List Char) := do
  let sorted := edits.mergeSort fun a b => b.location ≤ a.location
  let edited ← sorted.foldlM (Edited.apply text) { floor := Text.byteSize text, tail := [] }
  return (Text.takeBytes? edited.floor text).getD [] ++ edited.tail

@[simp] theorem mutate_nil (text : List Char) : mutate text [] = .ok text := by
  have htake := Text.takeBytes?_byteSize_append text []
  rw [List.append_nil] at htake
  simp [mutate, htake, pure, Except.pure, bind, Except.bind]

end AnnotatedSql.Source
