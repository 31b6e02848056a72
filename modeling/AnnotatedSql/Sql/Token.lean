import AnnotatedSql.Text.Case

/-!
Tokens of SQL texts, each with the byte offsets between which it stands.
-/
namespace AnnotatedSql.Sql

/-- A name or a keyword. -/
structure Word where
  /-- The spelling, without quotes. -/
  value : String
  /-- The quote around it, if any. -/
  quote : Option Char
  /-- The spelling in capitals, by which keywords are told; empty for a quoted word, which is no keyword. -/
  key : String
deriving Repr, DecidableEq, Inhabited

def Word.plain (value : String) : Word where
  value
  quote := none
  key := Text.toUpper value

def Word.quoted (quote : Char) (value : String) : Word where
  value
  quote := some quote
  key := ""

/-- The written forms of literal texts. -/
inductive TextKind where
  /-- `'…'` -/
  | single
  /-- `"…"`, where double quotes do not make names. -/
  | double
  /-- `$$…$$` or `$tag$…$tag$` -/
  | dollar
  /-- `N'…'` -/
  | national
  /-- `E'…'` -/
  | escaped
  /-- `U&'…'` -/
  | unicode
  /-- `X'…'` or `0x…` -/
  | hex
  /-- `B'…'` or `B"…"` -/
  | bits
  /-- `R'…'` or `R"…"` -/
  | raw
deriving Repr, DecidableEq

inductive Token where
  /-- Blanks and comments. -/
  | blank
  | word (word : Word)
  /-- A number; `long` tells whether an `L` follows it. -/
  | number (digits : String) (long : Bool)
  | text (kind : TextKind) (value : String)
  /-- `?`, `?1`, `$1` or `$name` -/
  | placeholder (spelling : String)
  /-- Punctuation and the operators of the grammar; `!=` is spelled `<>`. -/
  | symbol (spelling : String)
  /-- An operator made of operator characters that the grammar does not name. -/
  | operator (spelling : String)
  /-- Any other character. -/
  | other (char : Char)
deriving Repr, DecidableEq, Inhabited

/-- A token and where it stands. -/
structure Lexeme where
  token : Token
  /-- Byte offset of its first character. -/
  start : Nat
  /-- Byte offset after its last character. -/
  stop : Nat
deriving Repr, DecidableEq, Inhabited

end AnnotatedSql.Sql
