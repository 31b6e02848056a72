import AnnotatedSql.Text.Blank
import AnnotatedSql.Text.Number
import AnnotatedSql.Text.Quoted

/-!
Type strings as a database reports them, such as `int(10) unsigned` or `enum('a','b')`: a base name, then a size or
a list of values in parentheses, then qualifiers.
-/
namespace AnnotatedSql

structure FieldType where
  base : String := ""
  size : Option Nat := none
  scale : Option Nat := none
  unsigned : Bool := false
  zerofill : Bool := false
  /-- The values of an `enum` or a `set`. -/
  values : List String := []
deriving Repr, DecidableEq, Inhabited

/-- Why a type string cannot be read; each case but the first carries the string. -/
inductive FieldTypeError where
  | empty
  | invalidBase (input : String)
  | invalidSize (input : String)
  | unterminated (input : String)
  | unexpectedQualifier (qualifier input : String)
deriving Repr, DecidableEq

namespace FieldTypeError

def message : FieldTypeError → String
  | empty => "empty type string"
  | invalidBase input => "invalid type name in " ++ Text.quoted input
  | invalidSize input => "invalid size in " ++ Text.quoted input
  | unterminated input => "unterminated value list in " ++ Text.quoted input
  | unexpectedQualifier qualifier input =>
    "unexpected qualifier " ++ Text.quoted qualifier ++ " in " ++ Text.quoted input

end FieldTypeError

namespace FieldType

/-- Rest of a value after its opening quote: the value, in which a doubled quote is one, and what follows the
    closing quote. -/
def readValue? : List Char → Option (List Char × List Char)
  | [] => none
  | '\x27' :: '\x27' :: rest => (readValue? rest).map fun (value, after) => ('\x27' :: value, after)
  | c :: rest =>
    if c = '\x27' then some ([], rest)
    else (readValue? rest).map fun (value, after) => (c :: value, after)

theorem readValue?_length {cs value after : List Char} (h : readValue? cs = some (value, after)) :
    after.length < cs.length := by
  fun_induction readValue? cs generalizing value after with
  | case1 => cases h
  | case2 rest ih =>
    obtain ⟨⟨v, a⟩, hrest, heq⟩ := Option.map_eq_some_iff.1 h
    cases heq
    have := ih hrest
    simp only [List.length_cons]
    omega
  | case3 =>
    cases h
    simp
  | case4 c rest _ _ ih =>
    obtain ⟨⟨v, a⟩, hrest, heq⟩ := Option.map_eq_some_iff.1 h
    cases heq
    have := ih hrest
    simp only [List.length_cons]
    omega

/-- Blanks and commas between values, in any number. -/
def isSeparator (c : Char) : Bool :=
  Text.isBlank c || c == ','

/-- The values of a list up to its closing parenthesis, and what follows it. -/
def readValues? (cs : List Char) : Option (List String × List Char) :=
  match h : cs.dropWhile isSeparator with
  | ')' :: rest => some ([], rest)
  | '\x27' :: rest =>
    match hvalue : readValue? rest with
    | none => none
    | some (value, after) =>
      (readValues? after).map fun (values, rest) => (String.ofList value :: values, rest)
  | _ => none
termination_by cs.length
decreasing_by
  have hlt := readValue?_length hvalue
  have hle := (List.dropWhile_sublist (l := cs) isSeparator).length_le
  rw [h, List.length_cons] at hle
  omega

/-- Size and perhaps scale, between commas. -/
def readSize? (inner : List Char) : Option (Nat × Option Nat) :=
  match (inner.splitOn ',').map fun part => Text.readWord? (Text.trim part) with
  | [some size] => some (size, none)
  | [some size, some scale] => some (size, some scale)
  | _ => none

/-- The part in parentheses, if there is one, and what follows it. -/
def readArguments (input : String) (type : FieldType) (rest : List Char) :
    Except FieldTypeError (FieldType × List Char) :=
  match rest with
  | '(' :: args =>
    if type.base = "enum" ∨ type.base = "set" then
      match readValues? args with
      | some (values, after) => .ok ({ type with values }, after)
      | none => .error (.unterminated input)
    else
      match args.dropWhile (· != ')') with
      | [] => .error (.unterminated input)
      | _ :: after =>
        let inner := args.takeWhile (· != ')')
        if inner.isEmpty then .ok (type, after)
        else match readSize? inner with
          | some (size, scale) => .ok ({ type with size := some size, scale }, after)
          | none => .error (.invalidSize input)
  | _ => .ok (type, rest)

/-- Takes one qualifier into account. -/
def qualify (input : String) (type : FieldType) (word : List Char) : Except FieldTypeError FieldType :=
  match String.ofList (word.map Char.toLower) with
  | "unsigned" => .ok { type with unsigned := true }
  | "zerofill" => .ok { type with zerofill := true }
  | "signed" => .ok type
  | _ => .error (.unexpectedQualifier (String.ofList word) input)

def isBaseChar (c : Char) : Bool :=
  c.isAlphanum || c == '_'

/-- Reads a type string. -/
def read (input : String) : Except FieldTypeError FieldType := do
  let trimmed := Text.trim input.toList
  if trimmed.isEmpty then throw .empty
  let base := trimmed.takeWhile isBaseChar
  if base.isEmpty then throw (.invalidBase input)
  let type : FieldType := { base := String.ofList (base.map Char.toLower) }
  let (type, rest) ← readArguments input type (Text.trimStart (trimmed.dropWhile isBaseChar))
  (Text.words rest).foldlM (qualify input) type

end FieldType

end AnnotatedSql
