import AnnotatedSql.Error
import AnnotatedSql.Sql.Lexer
import AnnotatedSql.Text.Number

/-!
Placeholders in statement texts. They are found among the tokens, so that comments and quoted texts never hold one.
-/
namespace AnnotatedSql

/-- Spellings of a named parameter. -/
inductive NamedForm where
  /-- `:name` -/
  | colon
  /-- `@name` -/
  | at
  /-- `sqlc.arg(name)` -/
  | arg
  /-- `sqlc.narg(name)`: may be null. -/
  | nullableArg
  /-- `sqlc.slice(name)`: a list of values. -/
  | slice
deriving Repr, DecidableEq

/-- The form that a helper function's name stands for, in any case. -/
def NamedForm.ofHelper? (helper : String) : Option NamedForm :=
  match Text.toLower helper with
  | "arg" => some arg
  | "narg" => some nullableArg
  | "slice" => some slice
  | _ => none

inductive PlaceholderKind where
  /-- `$N` or `?N` -/
  | numbered (number : Nat)
  /-- A bare `?` -/
  | positional
  | named (name : String) (form : NamedForm)
deriving Repr, DecidableEq

/-- The row-limiting clause that a placeholder is the operand of. -/
inductive LimitSlot where
  | limit
  | offset
deriving Repr, DecidableEq

/-- One placeholder as it stands in a text. -/
structure Occurrence where
  /-- Byte offset from the start of the text. -/
  location : Nat
  text : String
  kind : PlaceholderKind
  slot : Option LimitSlot
deriving Repr, DecidableEq

namespace Occurrence

def isNamed (occurrence : Occurrence) : Bool :=
  match occurrence.kind with
  | .named _ _ => true
  | _ => false

/-- The number of a numbered placeholder. -/
def number? (occurrence : Occurrence) : Option Nat :=
  match occurrence.kind with
  | .numbered number => some number
  | _ => none

end Occurrence

namespace Placeholder

open Sql

/-- The kind of a placeholder token. `$` alone is none, and a number has to fit into a word. -/
def kindOf? (spelling : String) : Option PlaceholderKind :=
  match spelling.toList with
  | ['?'] => some .positional
  | '$' :: digits | '?' :: digits => (Text.readWord? digits).map .numbered
  | _ => none

/-- Name and form of a call such as `sqlc.arg(name)`, given the tokens after `sqlc`. -/
def helper? : List Lexeme → Option PlaceholderKind
  | ⟨.symbol ".", _, _⟩ :: ⟨.word helper, _, _⟩ :: ⟨.symbol "(", _, _⟩ :: ⟨arg, _, _⟩ :: ⟨.symbol ")", _, _⟩ :: _ => do
    let form ← NamedForm.ofHelper? helper.value
    match arg with
    | .word name => some (.named name.value form)
    | .text .single name => some (.named name form)
    | _ => none
  | _ => none

/-- The name of an unquoted word `@name`, which grammars with `@` in names read as one word. -/
def userVariable? (word : Word) : Option String :=
  match word.quote, word.value.toList with
  | none, '@' :: c :: rest => if c = '@' then none else some (String.ofList (c :: rest))
  | _, _ => none

/-- The placeholder at the front of the tokens, and how many tokens it takes. -/
def front? (lexeme : Lexeme) (rest : List Lexeme) : Option (PlaceholderKind × Nat) :=
  match lexeme.token with
  | .placeholder spelling => (kindOf? spelling).map (·, 1)
  | .symbol ":" => nameAfter .colon
  | .symbol "@" => nameAfter .at
  | .word word =>
    match userVariable? word with
    | some name => some (.named name .at, 1)
    | none =>
      if word.quote.isNone && Text.sameLetters word.value "sqlc" then (helper? rest).map (·, 6) else none
  | _ => none
where
  /-- The word that follows without a blank. -/
  nameAfter (form : NamedForm) : Option (PlaceholderKind × Nat) :=
    match rest with
    | ⟨.word word, start, _⟩ :: _ => if lexeme.stop = start then some (.named word.value form, 2) else none
    | _ => none

def isKeyword (key : String) : Token → Bool
  | .word word => word.key == key
  | _ => false

/-- Whether tokens are one operand: its parentheses match, and no comma or semicolon stands in it. -/
def isOperand (depth : Nat) : List Token → Bool
  | [] => depth == 0
  | .symbol "(" :: rest => isOperand (depth + 1) rest
  | .symbol ")" :: rest => if depth = 0 then false else isOperand (depth - 1) rest
  | .symbol "," :: _ | .symbol ";" :: _ => false
  | _ :: rest => isOperand depth rest

/-- Farthest reach of the first operand of `LIMIT a, b`: an operand is a number or a placeholder of up to six
    tokens, and the keyword stands before it. -/
def operandReach : Nat := 7

/-- The row-limiting clause around a placeholder, given the tokens before it, nearest first, and the token after
    it. -/
def slot? (before : List Token) (after : Option Token) : Option LimitSlot :=
  match before with
  | [] => none
  | token :: earlier =>
    if isKeyword "LIMIT" token then
      some (if after = some (.symbol ",") then .offset else .limit)
    else if isKeyword "OFFSET" token then some .offset
    else if token = .symbol "," then
      let window := earlier.take operandReach
      let operand := window.takeWhile (!isKeyword "LIMIT" ·)
      if operand.length < window.length && !operand.isEmpty && isOperand 0 operand.reverse then some .limit
      else none
    else none

/-- The placeholders among tokens, given the tokens before them, nearest first. -/
def occurrencesFrom (text : List Char) (before : List Token) : List Lexeme → List Occurrence
  | [] => []
  | lexeme :: rest =>
    match front? lexeme rest with
    | none => occurrencesFrom text (lexeme.token :: before) rest
    | some (kind, size) =>
      let taken := lexeme :: rest.take (size - 1)
      let after := rest.drop (size - 1)
      let stop := (taken.getLast?.map Lexeme.stop).getD lexeme.stop
      { location := lexeme.start
        text := String.ofList ((Text.slice? text lexeme.start stop).getD [])
        kind
        slot := slot? before (after.head?.map Lexeme.token) } ::
        occurrencesFrom text ((taken.map Lexeme.token).reverse ++ before) after
termination_by lexemes => lexemes.length
decreasing_by all_goals simp only [List.length_drop, List.length_cons]; omega

/-- All placeholders of a text, in order. -/
def locate (dialect : Dialect) (text : List Char) : Except Error (List Occurrence) :=
  match Sql.lex dialect.grammar text with
  | none => .error (.parse "sql parser error: unterminated token")
  | some lexemes => .ok (occurrencesFrom text [] lexemes)

end Placeholder

end AnnotatedSql
