import AnnotatedSql.Text.Bytes

/-!
Lines and columns of a text. Both count from 1, a line ends after its newline, and a column counts characters;
byte offsets and positions determine each other.
-/
namespace AnnotatedSql.Text

/-- Line and column of the character at a byte offset, counted on from the given ones. Offsets beyond the end
    are those of the end; an offset inside a character has no position. -/
def positionFrom (line column : Nat) : List Char → Nat → Option (Nat × Nat)
  | [], _ => some (line, column)
  | _ :: _, 0 => some (line, column)
  | c :: cs, offset + 1 =>
    if offset + 1 < c.utf8Size then none
    else if c = '\n' then positionFrom (line + 1) 1 cs (offset + 1 - c.utf8Size)
    else positionFrom line (column + 1) cs (offset + 1 - c.utf8Size)

/-- Line and column of a byte offset. -/
def position? (text : List Char) (offset : Nat) : Option (Nat × Nat) :=
  positionFrom 1 1 text offset

/-- Byte offset of the `n`th line after the first one, with the text from there on. -/
def lineStart? : Nat → List Char → Option (Nat × List Char)
  | 0, cs => some (0, cs)
  | _ + 1, [] => none
  | n + 1, c :: cs =>
    (lineStart? (if c = '\n' then n else n + 1) cs).map fun (offset, rest) => (offset + c.utf8Size, rest)

/-- Byte offset of a line and column. The column may run past the end of its line. -/
def offset? (text : List Char) (line column : Nat) : Option Nat := do
  guard (line ≠ 0 ∧ column ≠ 0)
  let (start, rest) ← lineStart? (line - 1) text
  guard (column - 1 ≤ rest.length)
  return start + byteSize (rest.take (column - 1))

end AnnotatedSql.Text
