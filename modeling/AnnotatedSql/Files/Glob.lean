import AnnotatedSql.Files

/-!
Paths by pattern. In a part of a path, `?` stands for one character, `*` for any number of them, and `[…]` or `[!…]`
for one that is, or is not, among those listed; a part `**` stands for any number of directories.
-/
namespace AnnotatedSql.Glob

/-- Characters from one up to another. -/
structure CharSpan where
  low : Char
  high : Char
deriving Repr, DecidableEq

def CharSpan.contains (span : CharSpan) (c : Char) : Bool :=
  span.low ≤ c && c ≤ span.high

/-- One element of a part of a pattern. -/
inductive Mark where
  | char (c : Char)
  | anyChar
  | anyText
  | among (spans : List CharSpan)
  | notAmong (spans : List CharSpan)
deriving Repr, DecidableEq

/-- One part of a pattern. -/
inductive Part where
  | marks (marks : List Mark)
  /-- Any number of directories. -/
  | directories
deriving Repr, DecidableEq

/-- The characters between brackets: `a-z` is a span, and anything else stands for itself. -/
def spans : List Char → List CharSpan
  | low :: '-' :: high :: rest => { low, high } :: spans rest
  | c :: rest => { low := c, high := c } :: spans rest
  | [] => []

/-- What stands between brackets, and what comes after them. A bracket that closes in the first place counts as one
    of the characters. -/
def bracketed? : List Char → Option (List Char × List Char)
  | [] => none
  | first :: rest =>
    if rest.contains ']' then
      let more := rest.takeWhile (· != ']')
      some (first :: more, rest.drop (more.length + 1))
    else none

/-- The marks of a part other than `**`. Two stars in a row, and brackets that do not close, are no marks. The bound
    is on their number. -/
def marks? : Nat → List Char → Option (List Mark)
  | 0, _ => some []
  | _, [] => some []
  | _ + 1, '*' :: '*' :: _ => none
  | bound + 1, '*' :: rest => (marks? bound rest).map (.anyText :: ·)
  | bound + 1, '?' :: rest => (marks? bound rest).map (.anyChar :: ·)
  | bound + 1, '[' :: '!' :: rest => do
    let (inside, rest) ← bracketed? rest
    return .notAmong (spans inside) :: (← marks? bound rest)
  | bound + 1, '[' :: rest => do
    let (inside, rest) ← bracketed? rest
    return .among (spans inside) :: (← marks? bound rest)
  | bound + 1, c :: rest => (marks? bound rest).map (.char c :: ·)

def Part.read? (cs : List Char) : Option Part :=
  if cs == ['*', '*'] then some .directories
  else (marks? cs.length cs).map .marks

/-- The text and everything behind each of its characters. -/
def endings : List Char → List (List Char)
  | [] => [[]]
  | c :: rest => (c :: rest) :: endings rest

/-- Whether marks describe a whole name. -/
def describe : List Mark → List Char → Bool
  | [], name => name.isEmpty
  | .anyText :: marks, name => (endings name).any (describe marks)
  | _ :: _, [] => false
  | .char c :: marks, d :: name => c == d && describe marks name
  | .anyChar :: marks, _ :: name => describe marks name
  | .among spans :: marks, d :: name => spans.any (·.contains d) && describe marks name
  | .notAmong spans :: marks, d :: name => !spans.any (·.contains d) && describe marks name

def Mark.char? : Mark → Option Char
  | char c => some c
  | _ => none

/-- The name that marks spell out, if they do. -/
def literal? (marks : List Mark) : Option String :=
  (marks.mapM Mark.char?).map String.ofList

/-- Whether a name goes back to the directory itself or to the one above. -/
def isDots (name : String) : Bool :=
  name == "." || name == ".."

/-- A pattern: where it starts, its parts, and whether it is for directories only. -/
structure Pattern where
  start : String
  parts : List Part
  directoriesOnly : Bool
deriving Repr, DecidableEq

/-- Reads a pattern, unless one of its parts is malformed. -/
def Pattern.read? (text : String) : Option Pattern := do
  let cs := text.toList
  let absolute := cs.head? == some '/'
  let pieces := (if absolute then cs.drop 1 else cs).splitOn '/'
  let pieces := if pieces.getLast? == some [] then pieces.dropLast else pieces
  return {
    start := if absolute then "/" else "."
    parts := ← pieces.mapM Part.read?
    directoriesOnly := cs.getLast? == some '/' }

/-- No more directories than this nest, since a path has at most 4096 bytes. -/
def maxNesting : Nat := 2048

/-- Skips parts that again stand for any number of directories. -/
def collapse : List Part → List Part
  | .directories :: rest => collapse rest
  | parts => parts

section
variable {m : Type → Type} [Monad m] (files : Files m) (directoriesOnly : Bool)

/-- A path that all parts describe. -/
def finish (path : String) : m (List String) := do
  if directoriesOnly && !(← files.isDirectory path) then return [] else return [path]

/-- The paths that parts describe below a directory, sorted at each level by name, what lies in a directory after the
    directory. -/
def below : Nat → List Part → String → m (List String)
  | 0, _, _ => return []
  | _ + 1, [], _ => return []
  | steps + 1, part :: rest, path => do
    let onward (rest : List Part) (next : String) : m (List String) :=
      if rest.isEmpty then finish files directoriesOnly next else below steps rest next
    let names ← files.names? path
    let within (visit : String → String → m (List String)) : m (List String) := do
      let sorted := (names.getD []).mergeSort fun a b => !(b < a : Bool)
      return (← sorted.mapM fun name => visit name (Files.join path name)).flatten
    match part with
    | .marks marks =>
      match literal? marks with
      | some name =>
        let next := Files.join path name
        let kind ← files.kind? next
        if (if isDots name then names.isSome else kind.isSome) then onward rest next else return []
      | none =>
        let dots := if names.isSome && marks.head? == some (.char '.') then
          ["..", "."].filter fun name => describe marks name.toList else []
        let special ← dots.mapM fun name =>
          onward rest (if path.endsWith "/" then path ++ name else path ++ "/" ++ name)
        let found ← within fun name next =>
          if describe marks name.toList then onward rest next else return []
        return special.flatten ++ found
    | .directories =>
      match collapse rest with
      | [] =>
        within fun _ next => do
          if ← files.isDirectory next then return next :: (← below steps [.directories] next) else return []
      | .directories :: _ => return []
      | .marks marks :: rest =>
        within fun name next => do
          let here ← if describe marks name.toList then onward rest next else pure []
          if ← files.isDirectory next then
            return here ++ (← below steps (.directories :: .marks marks :: rest) next)
          else return here

end

/-- The paths that a pattern describes. -/
def Pattern.expand {m : Type → Type} [Monad m] (pattern : Pattern) (files : Files m) : m (List String) :=
  below files pattern.directoriesOnly (pattern.parts.length + maxNesting) pattern.parts pattern.start

end AnnotatedSql.Glob
