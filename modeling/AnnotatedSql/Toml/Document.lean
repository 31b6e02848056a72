import AnnotatedSql.Toml.Lexeme
import AnnotatedSql.Toml.Scalar

/-!
Reading whole TOML documents.
-/
namespace AnnotatedSql.Toml

open Reader

/-- The values of an array after its opening bracket. A comma may stand after the last one. -/
def arrayItems (value : Reader Toml) : Nat → Reader (List Toml)
  | 0 => failure
  | bound + 1 => do
    gaps bound
    if ← accept [']'] then return []
    let item ← value
    gaps bound
    if ← accept [','] then return item :: (← arrayItems value bound)
    exactly [']']
    return [item]

/-- A key and its value. -/
def keyValue (value : Reader Toml) : Reader ((List String × String) × Toml) := do
  let key ← dottedKey
  blanks
  exactly ['=']
  blanks
  return (key, ← value)

/-- The entries of a table between braces, of which there is at least one. -/
def inlineEntries (value : Reader Toml) : Nat → Entries → Reader Entries
  | 0, _ => failure
  | bound + 1, entries => do
    blanks
    let ((path, key), given) ← keyValue value
    let entries ← (entries.assign? path key given : Option Entries)
    blanks
    if ← accept [','] then inlineEntries value bound entries
    else
      exactly ['\x7d']
      return entries

/-- A value, in which arrays and tables may nest as deep as the bound says. -/
def value : Nat → Reader Toml
  | 0 => failure
  | depth + 1 => do
    match ← peek? with
    | some '"' | some '\x27' => return .string (String.ofList (← anyString))
    | some '[' =>
      exactly ['[']
      return .array (← arrayItems (value depth) (← get).length)
    | some '\x7b' =>
      exactly ['\x7b']
      blanks
      if ← accept ['\x7d'] then return .table .inline []
      return .table .inline (← inlineEntries (value depth) (← get).length [])
    | _ => scalar

/-- How deep arrays and tables may nest. -/
def maxDepth : Nat := 80

/-- A header: its path, and the document with its table. -/
def header (document : Entries) : Reader (List String × Entries) := do
  let many ← accept ['[', '[']
  if !many then exactly ['[']
  blanks
  let (path, key) ← dottedKey
  blanks
  exactly (if many then [']', ']'] else [']'])
  let document ← (if many then document.appendTable? path key else document.openTable? path key : Option Entries)
  return (path ++ [key], document)

/-- The lines of a document. Keys belong to the table of the header before them. -/
def documentLines : Nat → List String → Entries → Reader Entries
  | 0, _, _ => failure
  | bound + 1, current, document => do
    blanks
    match ← peek? with
    | none => return document
    | some '[' =>
      let (current, document) ← header document
      lineEnd
      documentLines bound current document
    | some c =>
      if c == '#' || c == '\n' || c == '\r' then
        lineEnd
        documentLines bound current document
      else
        let ((path, key), given) ← keyValue (value maxDepth)
        let document ← (document.descend false (fun _ inner => inner.assign? path key given) current .header :
          Option Entries)
        lineEnd
        documentLines bound current document

/-- The entries of a document, unless it is malformed. -/
def parse? (text : String) : Option Entries :=
  let cs := match text.toList with
    | '\ufeff' :: rest => rest
    | cs => cs
  (documentLines (cs.length + 1) [] []).run' cs

end AnnotatedSql.Toml
