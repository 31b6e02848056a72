import AnnotatedSql.Sql.Parse.Basic

/-!
How strong operators bind. PostgreSQL has an order of its own.
-/
namespace AnnotatedSql.Sql

/-- Groups of operators that bind alike in every grammar. -/
inductive Strength where
  | or
  | and
  | not
  /-- Operators of PostgreSQL on documents, ranges and arrays. -/
  | special
  | is
  | like
  | equality
  | between
  | pipe
  | caret
  | ampersand
  | xor
  | sum
  | product
  | timeZone
  | cast
deriving Repr, DecidableEq

/-- The strength as a number; 0 is that of no operator. -/
def Grammar.strength (grammar : Grammar) (strength : Strength) : Nat :=
  match grammar with
  | .postgreSQL =>
    match strength with
    | .or => 10
    | .and => 20
    | .not => 30
    | .is => 40
    | .equality => 50
    | .like => 60
    | .between => 60
    | .special => 70
    | .pipe => 70
    | .ampersand => 70
    | .xor => 75
    | .sum => 80
    | .product => 90
    | .caret => 100
    | .timeZone => 110
    | .cast => 140
  | .mySQL | .general =>
    match strength with
    | .or => 5
    | .and => 10
    | .not => 15
    | .special => 16
    | .is => 17
    | .like => 19
    | .equality => 20
    | .between => 20
    | .pipe => 21
    | .caret => 22
    | .ampersand => 23
    | .xor => 24
    | .sum => 30
    | .product => 40
    | .timeZone => 41
    | .cast => 50

/-- The strength of a collation in PostgreSQL. -/
def collateStrength : Nat := 120

/-- The strength of a subscript in PostgreSQL. -/
def subscriptStrength : Nat := 130

/-- Symbols that PostgreSQL binds like user-defined operators. -/
def specialSymbols : List String := [
  "->", "->>", "#>", "#>>", "@>", "<@", "#-", "@?", "@@", "?", "?&", "?|", "!", "&&", "^@", "||", "#", ">>", "<<"]

def equalitySymbols : List String := [
  "=", "<", "<=", "<>", ">", ">=", "==", "~", "~*", "!~", "!~*", "~~", "~~*", "!~~", "!~~*", "<=>"]

/-- The group of a symbol, outside of PostgreSQL's own rules. -/
def symbolStrength? (spelling : String) : Option Strength :=
  if equalitySymbols.contains spelling then some .equality
  else match spelling with
  | "|" => some .pipe
  | "^" | "#" | ">>" | "<<" => some .caret
  | "&" => some .ampersand
  | "+" | "-" => some .sum
  | "*" | "/" | "//" | "%" | "||" => some .product
  | "::" | "!" | "[" | "&&" | "^@" => some .cast
  | "->" | "->>" | "#>" | "#>>" | "@>" | "<@" | "#-" | "@?" | "@@" | "?" | "?&" | "?|" => some .special
  | _ => none

/-- The group of a keyword, given the keys of the two tokens after it. -/
def keywordStrength? (key second third : String) : Option Strength :=
  match key with
  | "OR" => some .or
  | "AND" => some .and
  | "XOR" => some .xor
  | "AT" => if second == "TIME" && third == "ZONE" then some .timeZone else none
  | "NOT" =>
    if ["IN", "BETWEEN"].contains second then some .between
    else if ["LIKE", "ILIKE", "RLIKE", "REGEXP", "SIMILAR"].contains second then some .like
    else none
  | "IS" => some .is
  | "IN" | "BETWEEN" | "OPERATOR" => some .between
  | "LIKE" | "ILIKE" | "RLIKE" | "REGEXP" | "SIMILAR" => some .like
  | "DIV" => some .product
  | _ => none

/-- How strong the operator binds that comes next; 0 if none does. -/
def Grammar.nextStrength (grammar : Grammar) (lexemes : List Lexeme) : Nat :=
  let weigh (strength : Option Strength) : Nat := (strength.map grammar.strength).getD 0
  let key (n : Nat) : String := ((lexemes.drop n).head?.map Parse.keyOf).getD ""
  match lexemes.head?.map Lexeme.token with
  | some (.word word) =>
    if grammar == .postgreSQL && word.key == "COLLATE" then collateStrength
    else weigh (keywordStrength? word.key (key 1) (key 2))
  | some (.symbol spelling) =>
    if grammar == .postgreSQL && spelling == "[" then subscriptStrength
    else if grammar == .postgreSQL && specialSymbols.contains spelling then grammar.strength .special
    else weigh (symbolStrength? spelling)
  | some (.operator _) => grammar.strength .special
  | _ => 0

end AnnotatedSql.Sql
