import AnnotatedSql.Sql.Grammar
import AnnotatedSql.Sql.Keyword
import AnnotatedSql.Sql.Tree
import AnnotatedSql.Text.Number

/-!
Readers of tokens. A reader takes tokens from the front of a list and gives a value, or refuses; what it took before
it refused is given back by `attempt`.
-/
namespace AnnotatedSql.Sql

/-- Why no value can be read. -/
inductive Refusal where
  /-- The tokens do not have the form. -/
  | unexpected
  /-- Expressions and queries are nested too deep. No other form is tried then. -/
  | tooDeep
  /-- What has to follow a word is missing, and the reading of the whole text breaks off. -/
  | brokenOff
deriving Repr, DecidableEq

/-- A reader of tokens in a grammar. -/
abbrev Parse (α : Type) := ReaderT Grammar (StateT (List Lexeme) (Except Refusal)) α

namespace Parse

variable {α : Type}

def refuse : Parse α :=
  throw .unexpected

/-- Whether the grammar is one of those given. -/
def inGrammar (grammars : List Grammar) : Parse Bool := do
  return grammars.contains (← read)

def peek? : Parse (Option Token) := do
  return (← get).head?.map Lexeme.token

/-- The token after `n` others. -/
def peekAt? (n : Nat) : Parse (Option Token) := do
  return ((← get).drop n).head?.map Lexeme.token

/-- Takes the next token. -/
def next : Parse Lexeme := do
  match ← get with
  | [] => refuse
  | lexeme :: rest =>
    set rest
    return lexeme

/-- Takes the next token, if there is one. -/
def skip : Parse Unit :=
  modify List.tail

/-- Reads a value, or takes nothing and gives none. -/
def attempt (reader : Parse α) : Parse (Option α) := fun grammar lexemes =>
  match reader grammar lexemes with
  | .ok (value, rest) => .ok (some value, rest)
  | .error .unexpected => .ok (none, lexemes)
  | .error refusal => .error refusal

/-- Reads a value that nothing can stand in for. -/
def firmly (reader : Parse α) : Parse α := fun grammar lexemes =>
  match reader grammar lexemes with
  | .ok result => .ok result
  | .error _ => .error .brokenOff

/-- Takes a symbol if it is the next token. -/
def symbol? (spelling : String) : Parse Bool := do
  if (← peek?) == some (.symbol spelling) then
    skip
    return true
  else return false

def symbol (spelling : String) : Parse Unit := do
  if !(← symbol? spelling) then refuse

def peekSymbol (spelling : String) : Parse Bool := do
  return (← peek?) == some (.symbol spelling)

/-- Takes symbols if all of them come next. -/
def symbols? (spellings : List String) : Parse Bool := do
  let lexemes ← get
  if (lexemes.take spellings.length).map Lexeme.token == spellings.map Token.symbol then
    set (lexemes.drop spellings.length)
    return true
  else return false

/-- The key of the next word; empty if the next token is no unquoted word. -/
def peekKey : Parse String := do
  match ← peek? with
  | some (.word word) => return word.key
  | _ => return ""

def keyOf : Lexeme → String
  | ⟨.word word, _, _⟩ => word.key
  | _ => ""

def peekKeyword (key : String) : Parse Bool := do
  return (← peekKey) == key

/-- Takes keywords if all of them come next. -/
def keywords? (keys : List String) : Parse Bool := do
  let lexemes ← get
  if (lexemes.take keys.length).map keyOf == keys then
    set (lexemes.drop keys.length)
    return true
  else return false

/-- Takes a keyword if it is the next token. -/
def keyword? (key : String) : Parse Bool :=
  keywords? [key]

def keyword (key : String) : Parse Unit := do
  if !(← keyword? key) then refuse

def keywords (keys : List String) : Parse Unit :=
  keys.forM keyword

/-- Takes the next token if it is one of some keywords. -/
def oneOf? (keys : List String) : Parse (Option String) := do
  let key ← peekKey
  if keys.contains key then
    skip
    return some key
  else return none

def oneOf (keys : List String) : Parse String := do
  match ← oneOf? keys with
  | some key => return key
  | none => refuse

/-- Reads values for as long as the reader gives one, at most `bound` of them. -/
def repeatUpTo (bound : Nat) (reader : Parse (Option α)) : Parse (List α) :=
  match bound with
  | 0 => return []
  | bound + 1 => do
    match ← reader with
    | none => return []
    | some value => return value :: (← repeatUpTo bound reader)

/-- Reads values for as long as the reader gives one. Each takes a token at least. -/
def repeated (reader : Parse (Option α)) : Parse (List α) := do
  repeatUpTo ((← get).length + 1) reader

/-- Reads values between commas, one at least. -/
def commaSeparated (reader : Parse α) : Parse (List α) := do
  let first ← reader
  let rest ← repeated do
    if ← symbol? "," then return some (← reader) else return none
  return first :: rest

/-- Reads values between commas; none if the closing symbol comes first. -/
def commaSeparatedUntil (close : String) (reader : Parse α) : Parse (List α) := do
  if ← peekSymbol close then return [] else commaSeparated reader

def parenthesized (reader : Parse α) : Parse α := do
  symbol "("
  let value ← reader
  symbol ")"
  return value

/-- Reads a value if a keyword announces it. -/
def after? (key : String) (reader : Parse α) : Parse (Option α) := do
  if ← keyword? key then return some (← reader) else return none

/-- Reads a list if keywords announce it. -/
def listAfter (keys : List String) (reader : Parse (List α)) : Parse (List α) := do
  if ← keywords? keys then reader else return []

/-- Any word, or a quoted text in its place. -/
def ident : Parse Ident := do
  match (← next).token with
  | .word word => return word.ident
  | .text .single value => return { value, quote := some '\x27' }
  | .text .double value => return { value, quote := some '"' }
  | _ => refuse

/-- A name with dots between its parts. -/
def objectName : Parse ObjectName := do
  let first ← ident
  let rest ← repeated do
    if ← symbol? "." then return some (← ident) else return none
  return first :: rest

/-- A name where a token that is no name is taken in its place, at most `bound` parts long. -/
def looseNameUpTo : (bound : Nat) → Parse Unit
  | 0 => return
  | bound + 1 => do
    let named ← attempt ident
    if named.isNone then skip
    else if ← symbol? "." then looseNameUpTo bound

/-- A name where a token that is no name is taken in its place. -/
def looseName : Parse Unit := do
  looseNameUpTo ((← get).length + 1)

/-- A text, or a plain name in its place. -/
def text : Parse String := do
  let grammar ← read
  match (← next).token with
  | .word word => if word.isPlainName then return word.value else refuse
  | .text .single value | .text .double value | .text .unicode value => return value
  | .text .escaped value => if grammar == .mySQL then refuse else return value
  | _ => refuse

/-- A whole number that fits into a word. -/
def wholeNumber : Parse Nat := do
  match (← next).token with
  | .number digits _ =>
    match Text.readWord? digits.toList with
    | some value => return value
    | none => refuse
  | _ => refuse

/-- A number in parentheses, if there is one. -/
def precision? : Parse (Option Nat) := do
  if ← symbol? "(" then
    let value ← wholeNumber
    symbol ")"
    return some value
  else return none

/-- A list of columns in parentheses. If it is optional and none is there, the list is empty; an empty list in
    parentheses has to be allowed. -/
def columnList (optional allowEmpty : Bool) : Parse (List Ident) := do
  if ← symbol? "(" then
    if ← pure allowEmpty <&&> symbol? ")" then return []
    else
      let columns ← commaSeparated ident
      symbol ")"
      return columns
  else if optional then return []
  else refuse

/-- A name after `AS`, or a name alone that is not reserved. -/
def aliasName? (reserved : List String) : Parse (Option Ident) := do
  let marked ← keyword? "AS"
  match ← peek? with
  | some (.word word) =>
    if marked || !reserved.contains word.key then
      skip
      return some word.ident
    else return none
  | some (.text .single value) =>
    skip
    return some { value, quote := some '\x27' }
  | some (.text .double value) =>
    skip
    return some { value, quote := some '"' }
  | _ => if marked then refuse else return none

/-- A value: a literal, or a placeholder. -/
def value : Parse Literal := do
  match (← next).token with
  | .word word =>
    if word.key == "TRUE" || word.key == "FALSE" then return .boolean
    else if word.key == "NULL" then return .null
    else if word.quote == some '"' then return .text .double word.value
    else refuse
  | .number digits _ => return .number digits
  | .text kind value => return .text kind value
  | .placeholder spelling => return .placeholder spelling
  | .symbol mark =>
    if mark == ":" || mark == "@" then
      match (← next).token with
      | .word word => return .placeholder (mark ++ word.value)
      | .number digits false => return .placeholder (mark ++ digits)
      | _ => refuse
    else refuse
  | _ => refuse

/-- A number without a sign, or a placeholder for one. -/
def numberValue : Parse Literal := do
  match ← value with
  | .number digits => return .number digits
  | .placeholder spelling => return .placeholder spelling
  | _ => refuse

/-- The readers that the grammar's rules call in turn. -/
structure Rules where
  /-- An expression whose operators bind stronger than the number given. -/
  expr : Nat → Parse Expr
  /-- An expression without operators between operands. -/
  primary : Parse Expr
  query : Parse Query
  /-- A query body whose set operators bind stronger than the number given. -/
  body : Nat → Parse Body
  typeName : Parse TypeName
  relation : Parse Relation
  statement : Parse Statement

namespace Rules

/-- A whole expression. -/
def whole (rules : Rules) : Parse Expr :=
  rules.expr 0

/-- Expressions between commas. -/
def list (rules : Rules) : Parse (List Expr) :=
  commaSeparated (rules.expr 0)

/-- Names for columns in parentheses, each perhaps with a type. -/
def aliasColumns (rules : Rules) : Parse (List Ident) := do
  if ← symbol? "(" then
    let columns ← commaSeparated do
      let name ← ident
      let _ ← attempt rules.typeName
      return name
    symbol ")"
    return columns
  else return []

/-- The alias of a table, if there is one. -/
def tableAlias? (rules : Rules) : Parse (Option Alias) := do
  match ← aliasName? reservedForTable with
  | none => return none
  | some name => return some { name, columns := ← rules.aliasColumns }

end Rules

end Parse

end AnnotatedSql.Sql
