import AnnotatedSql.Toml

/-!
The smallest parts of TOML documents: blanks, comments, strings and keys.
-/
namespace AnnotatedSql.Toml

/-- Reads a part of a document and leaves the rest. -/
abbrev Reader := StateT (List Char) Option

namespace Reader

def peek? : Reader (Option Char) := do
  return (← get).head?

/-- Reads exactly the given characters. -/
def exactly (chars : List Char) : Reader Unit := fun cs =>
  if chars.isPrefixOf cs then some ((), cs.drop chars.length) else none

/-- Reads as many characters as satisfy a condition. -/
def takeWhile (p : Char → Bool) : Reader (List Char) :=
  modifyGet fun cs => (cs.takeWhile p, cs.dropWhile p)

/-- Whether the given characters come next; if so, reads them. -/
def accept (chars : List Char) : Reader Bool := fun cs =>
  if chars.isPrefixOf cs then some (true, cs.drop chars.length) else some (false, cs)

end Reader

open Reader

def isBlank (c : Char) : Bool :=
  c == ' ' || c == '\t'

/-- A character that may stand in a comment or, its delimiters aside, in a string: no control but the tab. -/
def isPlain (c : Char) : Bool :=
  c == '\t' || (32 ≤ c.toNat && c.toNat != 127)

def blanks : Reader Unit := do
  let _ ← takeWhile isBlank

/-- A line break: a newline, perhaps after a return. -/
def lineBreak : Reader Bool :=
  accept ['\n'] <||> accept ['\r', '\n']

def comment? : Reader Unit := do
  if (← peek?) == some '#' then
    let _ ← takeWhile isPlain

/-- Reads up to the end of a line on which nothing but a comment is left. -/
def lineEnd : Reader Unit := do
  blanks
  comment?
  if (← peek?).isNone then return
  guard (← lineBreak)

/-- Blanks, comments and line breaks, as they may stand inside an array. The bound is on the number of lines. -/
def gaps : Nat → Reader Unit
  | 0 => pure ()
  | lines + 1 => do
    blanks
    comment?
    if ← lineBreak then gaps lines

/-! Strings -/

/-- The character that follows a backslash stands for. -/
def escapes : List (Char × Char) :=
  [('b', '\x08'), ('t', '\t'), ('n', '\n'), ('f', '\x0c'), ('r', '\r'), ('"', '"'), ('\\', '\\')]

def hexValue? (c : Char) : Option Nat :=
  if c.isDigit then some (c.toNat - '0'.toNat)
  else if 'a' ≤ c ∧ c ≤ 'f' then some (c.toNat - 'a'.toNat + 10)
  else if 'A' ≤ c ∧ c ≤ 'F' then some (c.toNat - 'A'.toNat + 10)
  else none

/-- The character of a code in hexadecimal digits. -/
def charOfHex? (digits : List Char) : Option Char := do
  let values ← digits.mapM hexValue?
  let code := values.foldl (fun code value => 16 * code + value) 0
  guard code.isValidChar
  return Char.ofNat code

/-- The rest of a string after its opening quote, on one line: its characters, and what follows the closing quote. -/
def basicBody : List Char → Option (List Char × List Char)
  | [] => none
  | '"' :: rest => some ([], rest)
  | '\\' :: 'u' :: a :: b :: c :: d :: rest => do
    let char ← charOfHex? [a, b, c, d]
    let (body, rest) ← basicBody rest
    return (char :: body, rest)
  | '\\' :: 'U' :: a :: b :: c :: d :: e :: f :: g :: h :: rest => do
    let char ← charOfHex? [a, b, c, d, e, f, g, h]
    let (body, rest) ← basicBody rest
    return (char :: body, rest)
  | '\\' :: c :: rest => do
    let char ← escapes.lookup c
    let (body, rest) ← basicBody rest
    return (char :: body, rest)
  | c :: rest => do
    guard (isPlain c && c != '\\')
    let (body, rest) ← basicBody rest
    return (c :: body, rest)

/-- The same without escapes, between single quotes. -/
def literalBody : Reader (List Char) := do
  let body ← takeWhile fun c => isPlain c && c != '\x27'
  exactly ['\x27']
  return body

/-- How many of the characters at the start are a given quote. -/
def quoteRun (quote : Char) (cs : List Char) : Nat :=
  (cs.takeWhile (· == quote)).length

/-- The end of a string of many lines: three quotes, with up to two more that belong to the string. -/
def closing? (quote : Char) (cs : List Char) : Option (List Char × List Char) :=
  let run := quoteRun quote cs
  if run < 3 then none
  else
    let inside := min (run - 3) 2
    some (List.replicate inside quote, cs.drop (inside + 3))

/-- Whether only blanks stand between here and the end of the line. -/
def endsLine (cs : List Char) : Bool :=
  let rest := cs.dropWhile isBlank
  ['\n'].isPrefixOf rest || ['\r', '\n'].isPrefixOf rest

/-- A string of many lines after its opening quotes. After a backslash at the end of a line, `skipping` passes over
    blanks and line breaks. -/
def basicLines (skipping : Bool) : List Char → Option (List Char × List Char)
  | [] => none
  | '\\' :: 'u' :: a :: b :: c :: d :: rest => do
    let char ← charOfHex? [a, b, c, d]
    let (body, rest) ← basicLines false rest
    return (char :: body, rest)
  | '\\' :: 'U' :: a :: b :: c :: d :: e :: f :: g :: h :: rest => do
    let char ← charOfHex? [a, b, c, d, e, f, g, h]
    let (body, rest) ← basicLines false rest
    return (char :: body, rest)
  | '\\' :: c :: rest =>
    if endsLine (c :: rest) then basicLines true (c :: rest)
    else do
      let char ← escapes.lookup c
      let (body, rest) ← basicLines false rest
      return (char :: body, rest)
  | '\r' :: '\n' :: rest =>
    if skipping then basicLines true rest
    else do
      let (body, rest) ← basicLines false rest
      return ('\n' :: body, rest)
  | c :: rest =>
    if skipping && (isBlank c || c == '\n') then basicLines true rest
    else
      match closing? '"' (c :: rest) with
      | some ended => some ended
      | none => do
        guard ((isPlain c && c != '\\') || c == '\n')
        let (body, rest) ← basicLines false rest
        return (c :: body, rest)

/-- The same without escapes, between single quotes. -/
def literalLines : List Char → Option (List Char × List Char)
  | [] => none
  | '\r' :: '\n' :: rest => do
    let (body, rest) ← literalLines rest
    return ('\n' :: body, rest)
  | c :: rest =>
    match closing? '\x27' (c :: rest) with
    | some ended => some ended
    | none => do
      guard (isPlain c || c == '\n')
      let (body, rest) ← literalLines rest
      return (c :: body, rest)

/-- A string on one line, with either kind of quotes. -/
def shortString : Reader (List Char) := do
  if ← accept ['"'] then basicBody
  else
    exactly ['\x27']
    literalBody

/-- A string of either kind. A line break right after three opening quotes does not belong to it. -/
def anyString : Reader (List Char) := do
  if ← accept ['"', '"', '"'] then
    let _ ← lineBreak
    basicLines false
  else if ← accept ['\x27', '\x27', '\x27'] then
    let _ ← lineBreak
    literalLines
  else shortString

/-! Keys -/

def isBareKeyChar (c : Char) : Bool :=
  c.isAlphanum || c == '_' || c == '-'

/-- One part of a key. -/
def simpleKey : Reader String := do
  match ← peek? with
  | some '"' | some '\x27' => return String.ofList (← shortString)
  | _ =>
    let chars ← takeWhile isBareKeyChar
    guard (!chars.isEmpty)
    return String.ofList chars

/-- The parts of a dotted key after the first one, of which there are at most as many as the bound says. -/
def moreKeys : Nat → Reader (List String)
  | 0 => pure []
  | bound + 1 => do
    blanks
    if ← accept ['.'] then
      blanks
      let key ← simpleKey
      return key :: (← moreKeys bound)
    else return []

/-- A dotted key: the path to its table, and its last part. -/
def dottedKey : Reader (List String × String) := do
  let first ← simpleKey
  let keys := first :: (← moreKeys (← get).length)
  return (keys.dropLast, keys.getLastD first)

end AnnotatedSql.Toml
