import AnnotatedSql.Directive

/-!
Comments taken out of a statement. Whole comment lines leave the text and directive lines vanish; a comment that
shares its line with code stays.
-/
namespace AnnotatedSql.Source

/-- A statement's text without its comments, line by line, and the comments. -/
structure Stripped where
  lines : List (List Char)
  comments : List (List Char)

/-- The parts of a text around the first occurrence of `mark`. -/
def cutAt? (mark : List Char) : List Char → Option (List Char × List Char)
  | [] => if mark.isEmpty then some ([], []) else none
  | c :: rest =>
    if mark.isPrefixOf (c :: rest) then some ([], (c :: rest).drop mark.length)
    else (cutAt? mark rest).map fun (before, after) => (c :: before, after)

/-- A line of a block comment, without blanks and leading stars; nothing if that leaves nothing. -/
def blockLine (line : List Char) : List (List Char) :=
  let text := Text.trim ((Text.trim line).dropWhile (· == '*'))
  if text.isEmpty then [] else [text]

/-- What a line is to the statement, outside block comments. -/
inductive LineKind where
  | directive
  | comment (text : List Char)
  /-- The line opens a block comment that goes on after it. -/
  | opensBlock (text : List Char)
  | code

def lineKind (forms : CommentForms) (line : List Char) : LineKind :=
  let t := Text.trimStart line
  if forms.isDirective t then .directive
  else match t with
    | '-' :: '-' :: comment => .comment (Text.trim comment)
    | '/' :: '*' :: rest =>
      if forms.slashStar then
        let rest := Text.trimEnd rest
        match cutAt? ['*', '/'] rest with
        | some (comment, []) => .comment (Text.trim comment)
        | some _ => .code
        | none => .opensBlock rest
      else .code
    | '#' :: comment => if forms.hash then .comment (Text.trim comment) else .code
    | _ => .code

/-- Sorts lines into code and comments; `inBlock` tells whether a block comment is open. -/
def stripLines (forms : CommentForms) : Bool → List (List Char) → Stripped
  | _, [] => { lines := [], comments := [] }
  | true, line :: rest =>
    let t := Text.trimStart line
    match cutAt? ['*', '/'] t with
    | some (comment, after) =>
      let code := Text.trimStart after
      let stripped := stripLines forms false rest
      { lines := (if code.isEmpty then [] else [code]) ++ stripped.lines
        comments := blockLine comment ++ stripped.comments }
    | none =>
      let stripped := stripLines forms true rest
      { stripped with comments := blockLine t ++ stripped.comments }
  | false, line :: rest =>
    match lineKind forms line with
    | .directive => stripLines forms false rest
    | .comment text =>
      let stripped := stripLines forms false rest
      { stripped with comments := text :: stripped.comments }
    | .opensBlock text =>
      let stripped := stripLines forms true rest
      { stripped with comments := blockLine text ++ stripped.comments }
    | .code =>
      let stripped := stripLines forms false rest
      { stripped with lines := line :: stripped.lines }

/-- The text of a statement without its comment lines, and the comments. -/
def stripComments (forms : CommentForms) (sql : List Char) : List Char × List (List Char) :=
  let stripped := stripLines forms false (Text.lines (Text.trim sql))
  (List.intercalate ['\n'] stripped.lines, stripped.comments)

end AnnotatedSql.Source
