import AnnotatedSql.Text.Ranges

/-!
Blank characters (the Unicode property White_Space) and what is cut at them: trimmed texts, words and lines.
-/
namespace AnnotatedSql.Text

/-- The property White_Space. -/
def blankRanges : Ranges := [
  (0x9, 0xD), (0x20, 0x20), (0x85, 0x85), (0xA0, 0xA0), (0x1680, 0x1680), (0x2000, 0x200A),
  (0x2028, 0x2029), (0x202F, 0x202F), (0x205F, 0x205F), (0x3000, 0x3000)]

def isBlank (c : Char) : Bool :=
  blankRanges.has c.toNat

/-- The blanks of plain text: space, tab, newline, form feed and return. -/
def isPlainBlank (c : Char) : Bool :=
  c == ' ' || c == '\t' || c == '\n' || c == '\x0c' || c == '\r'

theorem isBlank_of_isPlainBlank {c : Char} (h : isPlainBlank c = true) : isBlank c = true := by
  simp only [isPlainBlank, Bool.or_eq_true, beq_iff_eq] at h
  rcases h with (((rfl | rfl) | rfl) | rfl) | rfl <;> decide

def trimStart (cs : List Char) : List Char :=
  cs.dropWhile isBlank

def trimEnd (cs : List Char) : List Char :=
  (cs.reverse.dropWhile isBlank).reverse

def trim (cs : List Char) : List Char :=
  trimEnd (trimStart cs)

/-- The maximal runs of characters that are not blank. -/
def words (cs : List Char) : List (List Char) :=
  (cs.splitOnP isBlank).filter (!·.isEmpty)

/-- The lines of a text with their ends. A line ends at a newline, with or without a return before it. The last line
    may lack its end; it then keeps a return. -/
def endedLines : List Char → List (List Char × List Char)
  | [] => []
  | '\n' :: rest => ([], ['\n']) :: endedLines rest
  | '\r' :: '\n' :: rest => ([], ['\r', '\n']) :: endedLines rest
  | c :: rest =>
    match endedLines rest with
    | [] => [([c], [])]
    | (line, ending) :: more => (c :: line, ending) :: more

def lines (cs : List Char) : List (List Char) :=
  (endedLines cs).map Prod.fst

/-- Trimming, words and lines of a `String`. -/
def trimmed (text : String) : String :=
  String.ofList (trim text.toList)

end AnnotatedSql.Text
