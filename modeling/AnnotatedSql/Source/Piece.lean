import AnnotatedSql.Dialect
import AnnotatedSql.Text.Blank

/-!
A source text cut into pieces that a semicolon either ends or cannot end: quoted texts, dollar-quoted texts and
comments are one piece each, and everything else goes character by character. The pieces of a text concatenate to
the text (`concat_pieces`).
-/
namespace AnnotatedSql.Source

/-- What a piece means to the statement that it stands in. -/
inductive Role where
  /-- Text of the statement. -/
  | code
  /-- A comment or a blank. -/
  | filler
  /-- The semicolon that ends the statement. -/
  | terminator
deriving Repr, DecidableEq

structure Piece where
  role : Role
  text : List Char
deriving Repr, DecidableEq

/-- Rest of a quoted text after its opening quote, up to the closing quote or to the end. A doubled quote does not
    close, nor does a character after a backslash where backslashes escape. -/
def quotedRest (escapes : Bool) (quote : Char) : List Char → List Char × List Char
  | [] => ([], [])
  | [c] => ([c], [])
  | c :: d :: rest =>
    if (escapes && c == '\\') || (c == quote && d == quote) then
      let (taken, left) := quotedRest escapes quote rest
      (c :: d :: taken, left)
    else if c == quote then ([c], d :: rest)
    else
      let (taken, left) := quotedRest escapes quote (d :: rest)
      (c :: taken, left)

/-- Rest of a comment after `/*`, up to the first `*/` or to the end. -/
def blockRest : List Char → List Char × List Char
  | [] => ([], [])
  | [c] => ([c], [])
  | c :: d :: rest =>
    if c == '*' && d == '/' then ([c, d], rest)
    else
      let (taken, left) := blockRest (d :: rest)
      (c :: taken, left)

/-- Rest of a comment that ends with its line; the newline is not part of it. -/
def lineRest (cs : List Char) : List Char × List Char :=
  (cs.takeWhile (· != '\n'), cs.dropWhile (· != '\n'))

/-- The part of a text up to and including the first occurrence of `mark`; all of it if there is none. -/
def throughMark (mark : List Char) : List Char → List Char × List Char
  | [] => ([], [])
  | c :: rest =>
    if mark.isPrefixOf (c :: rest) then ((c :: rest).take mark.length, (c :: rest).drop mark.length)
    else
      let (taken, left) := throughMark mark rest
      (c :: taken, left)

def isTagChar (c : Char) : Bool :=
  c.isAlphanum || c == '_'

/-- The tag that opens a dollar-quoted text, without its first `$`, and what follows it. A digit after the first
    `$` makes a placeholder of it. -/
def dollarTag? (cs : List Char) : Option (List Char × List Char) :=
  if cs.head?.any Char.isDigit then none
  else match cs.dropWhile isTagChar with
    | '$' :: rest => some (cs.takeWhile isTagChar ++ ['$'], rest)
    | _ => none

/-- The piece that starts with `c`, and what follows it. -/
def nextPiece (dialect : Dialect) (c : Char) (cs : List Char) : Piece × List Char :=
  let piece (role : Role) (split : List Char × List Char) : Piece × List Char := (⟨role, c :: split.1⟩, split.2)
  let single (role : Role) : Piece × List Char := piece role ([], cs)
  let mySQL := dialect == .mySQL
  if c == '\x27' || c == '"' || c == '\x60' then
    piece .code (quotedRest (mySQL && c != '\x60') c cs)
  else if c == '$' && !mySQL then
    match dollarTag? cs with
    | some (tag, rest) =>
      let (body, left) := throughMark ('$' :: tag) rest
      piece .code (tag ++ body, left)
    | none => single .code
  else if c == '-' && cs.head? == some '-' then piece .filler (lineRest cs)
  else if c == '#' && mySQL then piece .filler (lineRest cs)
  else if c == '/' && cs.head? == some '*' then
    let (body, left) := blockRest (cs.drop 1)
    piece .filler ('*' :: body, left)
  else if c == ';' then single .terminator
  else single (if Text.isPlainBlank c then .filler else .code)

theorem quotedRest_append (escapes : Bool) (quote : Char) (cs : List Char) :
    (quotedRest escapes quote cs).1 ++ (quotedRest escapes quote cs).2 = cs := by
  fun_induction quotedRest escapes quote cs <;> simp_all

theorem blockRest_append (cs : List Char) : (blockRest cs).1 ++ (blockRest cs).2 = cs := by
  fun_induction blockRest cs <;> simp_all

theorem lineRest_append (cs : List Char) : (lineRest cs).1 ++ (lineRest cs).2 = cs := by
  simp [lineRest]

theorem throughMark_append (mark cs : List Char) :
    (throughMark mark cs).1 ++ (throughMark mark cs).2 = cs := by
  fun_induction throughMark mark cs <;> simp_all [List.take_append_drop]

theorem dollarTag?_append {cs tag rest : List Char} (h : dollarTag? cs = some (tag, rest)) :
    tag ++ rest = cs := by
  unfold dollarTag? at h
  split at h
  · cases h
  · split at h
    · rename_i hdrop
      cases h
      have hsplit := List.takeWhile_append_dropWhile (p := isTagChar) (l := cs)
      rw [hdrop] at hsplit
      simpa using hsplit
    · cases h

/-- A piece and what follows it make up the text. -/
theorem nextPiece_append (dialect : Dialect) (c : Char) (cs : List Char) :
    (nextPiece dialect c cs).1.text ++ (nextPiece dialect c cs).2 = c :: cs := by
  unfold nextPiece
  have hquoted := quotedRest_append (dialect == .mySQL && c != '\x60') c cs
  have hline := lineRest_append cs
  have hblock := blockRest_append (cs.drop 1)
  simp only
  split
  · simpa using hquoted
  split
  · split
    · rename_i tag rest htag
      have hmark := throughMark_append ('$' :: tag) rest
      simpa [hmark] using dollarTag?_append htag
    · rfl
  split
  · simpa using hline
  split
  · simpa using hline
  split
  · rename_i hstar
    cases cs with
    | nil => simp at hstar
    | cons d ds =>
      have hd : d = '*' := by simp at hstar; exact hstar.2
      subst hd
      simpa using hblock
  split <;> rfl

theorem nextPiece_text_ne_nil (dialect : Dialect) (c : Char) (cs : List Char) :
    (nextPiece dialect c cs).1.text ≠ [] := by
  unfold nextPiece
  grind

theorem nextPiece_rest_lt (dialect : Dialect) (c : Char) (cs : List Char) :
    (nextPiece dialect c cs).2.length < (c :: cs).length := by
  have hlength := congrArg List.length (nextPiece_append dialect c cs)
  have hpos := List.length_pos_iff.2 (nextPiece_text_ne_nil dialect c cs)
  rw [List.length_append] at hlength
  omega

/-- The pieces of a text, in order. -/
def pieces (dialect : Dialect) : List Char → List Piece
  | [] => []
  | c :: cs => (nextPiece dialect c cs).1 :: pieces dialect (nextPiece dialect c cs).2
termination_by cs => cs.length
decreasing_by exact nextPiece_rest_lt dialect c cs

/-- Cutting a text into pieces loses nothing and reorders nothing. -/
theorem concat_pieces (dialect : Dialect) (cs : List Char) :
    (pieces dialect cs).flatMap Piece.text = cs := by
  fun_induction pieces dialect cs with
  | case1 => rfl
  | case2 c cs ih => rw [List.flatMap_cons, ih, nextPiece_append]

end AnnotatedSql.Source
