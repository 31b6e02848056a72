import AnnotatedSql.Sql.Grammar
import AnnotatedSql.Sql.Token
import AnnotatedSql.Text.Blank
import AnnotatedSql.Text.Bytes

/-!
Texts cut into tokens. Each scanning rule gives a token and the number of characters that it takes beyond its first
one, so that a step always moves on; a text has no tokens if one of its quotes or comments does not end.
-/
namespace AnnotatedSql.Sql.Lexer

/-- A token, and how many characters it takes after its first one. -/
abbrev Scan := Option (Token × Nat)

/-- Meaning of the character after a backslash. -/
def escapedChar : Char → Char
  | '0' => '\x00'
  | 'a' => '\x07'
  | 'b' => '\x08'
  | 'f' => '\x0c'
  | 'n' => '\n'
  | 'r' => '\r'
  | 't' => '\t'
  | 'Z' => '\x1a'
  | c => c

/-- Rest of a quoted text after its opening quote: the text, and how many characters it takes with its closing
    quote. A doubled quote is one quote. -/
def quoted? (escapes : Bool) (quote : Char) : List Char → Option (List Char × Nat)
  | [] => none
  | [c] => if c = quote then some ([], 1) else none
  | c :: d :: rest =>
    if c = quote then
      if d = quote then (quoted? escapes quote rest).map fun (text, n) => (quote :: text, n + 2)
      else some ([], 1)
    else if escapes && c == '\\' then
      (quoted? escapes quote rest).map fun (text, n) => (escapedChar d :: text, n + 2)
    else (quoted? escapes quote (d :: rest)).map fun (text, n) => (c :: text, n + 1)

/-- Value of hexadecimal digits, `none` if one is no digit. -/
def hexValue? (cs : List Char) : Option Nat :=
  cs.foldlM (fun value c =>
    if c.isDigit then some (16 * value + (c.toNat - 48))
    else if 'a' ≤ c ∧ c ≤ 'f' then some (16 * value + (c.toNat - 87))
    else if 'A' ≤ c ∧ c ≤ 'F' then some (16 * value + (c.toNat - 55))
    else none) 0

def isHexDigit (c : Char) : Bool :=
  c.isDigit || ('a' ≤ c && c ≤ 'f') || ('A' ≤ c && c ≤ 'F')

def isOctalDigit (c : Char) : Bool :=
  '0' ≤ c && c ≤ '7'

/-- The character of a code point. -/
def charOfCode? (code : Nat) : Option Char :=
  if code.isValidChar then some (Char.ofNat code) else none

/-- The character of a byte; only those of the first half are characters. -/
def charOfByte? (code : Nat) : Option Char :=
  if code % 256 < 128 then some (Char.ofNat (code % 256)) else none

/-- The character of a code point written in hexadecimal; a plus may lead the digits. -/
def signedCode? (cs : List Char) : Option Char :=
  let digits := if cs.head? == some '+' then cs.drop 1 else cs
  (hexValue? digits).bind charOfCode?

/-- Meaning of an escape after its backslash, and how many characters it takes. -/
def escape? : List Char → Option (Char × Nat)
  | [] => none
  | c :: rest =>
    if c = 'b' then some ('\x08', 1)
    else if c = 'f' then some ('\x0c', 1)
    else if c = 'n' then some ('\n', 1)
    else if c = 'r' then some ('\r', 1)
    else if c = 't' then some ('\t', 1)
    else if c = 'u' ∨ c = 'U' then
      let size := if c = 'u' then 4 else 8
      let digits := rest.take size
      if digits.length < size then none
      else (signedCode? digits).map (·, size + 1)
    else if c = 'x' then
      let digits := (rest.take 2).takeWhile isHexDigit
      if digits.isEmpty then some ('x', 1)
      else ((hexValue? digits).bind charOfByte?).map (·, digits.length + 1)
    else if isOctalDigit c then
      let digits := c :: (rest.take 2).takeWhile isOctalDigit
      (charOfByte? (digits.foldl (fun value d => 8 * value + (d.toNat - 48)) 0)).map (·, digits.length)
    else some (c, 1)

/-- Rest of an `E'…'` text after its opening quote. -/
def escapedText? (cs : List Char) : Option (List Char × Nat) :=
  match cs with
  | [] => none
  | '\x27' :: '\x27' :: rest => (escapedText? rest).map fun (text, n) => ('\x27' :: text, n + 2)
  | '\x27' :: _ => some ([], 1)
  | '\\' :: rest =>
    match escape? rest with
    | none => none
    | some (c, size) =>
      if c = '\x00' then none
      else (escapedText? (rest.drop size)).map fun (text, n) => (c :: text, n + size + 1)
  | c :: rest => (escapedText? rest).map fun (text, n) => (c :: text, n + 1)
termination_by cs.length

/-- Rest of a `U&'…'` text after its opening quote. -/
def unicodeText? : List Char → Option (List Char × Nat)
  | [] => none
  | '\x27' :: '\x27' :: rest => (unicodeText? rest).map fun (text, n) => ('\x27' :: text, n + 2)
  | '\x27' :: _ => some ([], 1)
  | '\\' :: '\\' :: rest => (unicodeText? rest).map fun (text, n) => ('\\' :: text, n + 2)
  | '\\' :: '+' :: a :: b :: c :: d :: e :: f :: rest => do
    let char ← (hexValue? [a, b, c, d, e, f]).bind charOfCode?
    (unicodeText? rest).map fun (text, n) => (char :: text, n + 8)
  | '\\' :: '+' :: _ => none
  | '\\' :: a :: b :: c :: d :: rest => do
    let char ← (hexValue? [a, b, c, d]).bind charOfCode?
    (unicodeText? rest).map fun (text, n) => (char :: text, n + 5)
  | '\\' :: _ => none
  | c :: rest => (unicodeText? rest).map fun (text, n) => (c :: text, n + 1)

/-- Rest of a comment after `/*`: how many characters it takes with its end. Comments nest. -/
def blockComment? : (depth : Nat) → (last : Char) → List Char → Option Nat
  | _, _, [] => none
  | depth, last, c :: rest =>
    if last == '/' && c == '*' then (blockComment? (depth + 1) c rest).map (· + 1)
    else if last == '*' && c == '/' then
      if depth ≤ 1 then some 1 else (blockComment? (depth - 1) c rest).map (· + 1)
    else (blockComment? depth c rest).map (· + 1)

/-- Rest of a comment that ends with its line: how many characters it takes. The blanks before the end of the line are
    left to be read by themselves. -/
def lineComment (cs : List Char) : Nat :=
  ((cs.takeWhile (· != '\n')).reverse.dropWhile Text.isPlainBlank).length

/-- Rest of a `$$…$$` text after its opening mark: how many characters it takes with its closing mark. -/
def dollarBody? : List Char → Option Nat
  | '$' :: '$' :: _ => some 2
  | _ :: rest => (dollarBody? rest).map (· + 1)
  | [] => none

/-- Rest of a `$tag$…$tag$` text after its opening mark. A closing mark that fails at some character is given up
    with that character. -/
def taggedBody? (tag : List Char) (cs : List Char) : Option Nat :=
  match cs with
  | [] => none
  | '$' :: rest =>
    let same := (tag.zip rest).takeWhile fun (a, b) => a == b
    if same.length < tag.length then
      if rest.length ≤ same.length then none
      else (taggedBody? tag (rest.drop (same.length + 1))).map (· + same.length + 2)
    else if (rest.drop tag.length).head? == some '$' then some (tag.length + 2)
    else (taggedBody? tag (rest.drop tag.length)).map (· + tag.length + 1)
  | _ :: rest => (taggedBody? tag rest).map (· + 1)
termination_by cs.length
decreasing_by all_goals simp only [List.length_drop, List.length_cons]; omega

/-- Whether a character belongs to the tag after a dollar sign. -/
def isTagPart (c : Char) : Bool :=
  Text.isAlphanumeric c || c == '_'

/-- Rest of a token that starts with `$` and a tag: a text if a second `$` follows, else a placeholder. -/
def tagged (tag cs : List Char) : Scan :=
  match cs with
  | '$' :: rest =>
    (taggedBody? tag rest).map fun n =>
      (.text .dollar (String.ofList (rest.take (n - tag.length - 2))), tag.length + 1 + n)
  | _ => some (.placeholder (String.ofList ('$' :: tag)), tag.length)

/-- Tokens that start with `$`, where `$` starts no name. -/
def dollar (cs : List Char) : Scan :=
  match cs with
  | '$' :: rest => (dollarBody? rest).map fun n => (.text .dollar (String.ofList (rest.take (n - 2))), n + 1)
  | _ =>
    let tag := cs.takeWhile isTagPart
    tagged tag (cs.drop tag.length)

/-- A name that starts with the given characters, all but the first of which stand in `cs`. -/
def name (grammar : Grammar) (start : List Char) (cs : List Char) : Token × Nat :=
  let more := cs.drop (start.length - 1)
  let part := more.takeWhile grammar.isNamePart
  let text := start ++ part
  let size := start.length - 1 + part.length
  if text.all fun c => c.isDigit || c == '.' then
    let digits := (more.drop part.length).takeWhile fun c => c.isDigit || c == '.'
    (.number (String.ofList (text ++ digits)) false, size + digits.length)
  else (.word (.plain (String.ofList text)), size)

/-- A word that starts with one letter, which may have turned out to start a literal. -/
def letterWord (grammar : Grammar) (c : Char) (cs : List Char) : Token × Nat :=
  let part := cs.takeWhile grammar.isNamePart
  (.word (.plain (String.ofList (c :: part))), part.length)

/-- The exponent at the front, with its sign and digits; also whether an `e` stands there at all. -/
def exponent (cs : List Char) : List Char × Bool :=
  match cs with
  | [] => ([], false)
  | e :: rest =>
    if e == 'e' || e == 'E' then
      let (sign, digits) := match rest with
        | '+' :: more => (['+'], more)
        | '-' :: more => (['-'], more)
        | _ => ([], rest)
      let value := digits.takeWhile Char.isDigit
      (if value.isEmpty then [] else e :: sign ++ value, true)
    else ([], false)

/-- The digits at the front, with the first period among them. -/
def mantissa (cs : List Char) : List Char :=
  let whole := cs.takeWhile Char.isDigit
  let rest := cs.drop whole.length
  let point := if rest.head? == some '.' then ['.'] else []
  whole ++ point ++ (rest.drop point.length).takeWhile Char.isDigit

/-- The number that a mantissa and what follows it make. Where names may start with digits, a number without an
    exponent that runs into letters is a name, with its period. -/
def numberFrom (grammar : Grammar) (mantissa cs : List Char) : Token × Nat :=
  let (power, marked) := exponent cs
  let digits := mantissa ++ power
  let rest := cs.drop power.length
  let tail := rest.takeWhile grammar.isNamePart
  if grammar.digitNames && !marked && !tail.isEmpty then
    (.word (.plain (String.ofList (digits ++ tail))), digits.length + tail.length - 1)
  else
    let long := rest.head? == some 'L'
    (.number (String.ofList digits) long, digits.length + (if long then 1 else 0) - 1)

/-- Numbers, and the period where it starts none. -/
def number (grammar : Grammar) (c : Char) (cs : List Char) : Token × Nat :=
  if c == '0' && cs.head? == some 'x' then
    let digits := (cs.drop 1).takeWhile isHexDigit
    (.text .hex (String.ofList digits), 1 + digits.length)
  else
    let mantissa := mantissa (c :: cs)
    if mantissa == ['.'] then (.symbol ".", 0)
    else numberFrom grammar mantissa ((c :: cs).drop mantissa.length)

/-- An operator of the grammar, or a longer one made of the operator characters after it. `size` counts the
    characters after the first. -/
def operator (grammar : Grammar) (symbol : String) (size : Nat) (cs : List Char) : Scan :=
  let more := (cs.drop size).takeWhile grammar.isOperatorPart
  if more.isEmpty then some (.symbol symbol, size)
  else some (.operator (symbol ++ String.ofList more), size + more.length)

/-- A token of fixed spelling. -/
def fixed (symbol : String) (size : Nat) : Scan :=
  some (.symbol symbol, size)

/-- Tokens that start with `?`. In PostgreSQL it is an operator, which takes in the character after it. -/
def question (grammar : Grammar) (cs : List Char) : Scan :=
  if grammar == .postgreSQL then
    match cs with
    | '|' :: _ => fixed "?|" 1
    | '&' :: _ => fixed "?&" 1
    | _ => fixed "?" (min 1 cs.length)
  else
    let digits := cs.takeWhile Text.isNumeric
    some (.placeholder (String.ofList ('?' :: digits)), digits.length)

/-- What can follow a symbol as part of the same token. -/
inductive Growth where
  | none
  /-- Operator characters make it a longer operator. -/
  | operator
  /-- Any character but a blank starts a name with it. -/
  | name

/-- A symbol, by the characters after its first one. -/
structure SymbolRule where
  tail : List Char
  spelling : String
  growth : Growth

def SymbolRule.scan (rule : SymbolRule) (grammar : Grammar) (c : Char) (cs : List Char) : Scan :=
  match rule.growth with
  | .none => fixed rule.spelling rule.tail.length
  | .operator => operator grammar rule.spelling rule.tail.length cs
  | .name =>
    match (cs.drop rule.tail.length).head?.filter (· != ' ') with
    | none => fixed rule.spelling rule.tail.length
    | some d => some (name grammar (c :: rule.tail ++ [d]) cs)

/-- The symbols with a first character, in the order in which they are tried. -/
def symbolRules (grammar : Grammar) : Char → List SymbolRule
  | '(' => [⟨[], "(", .none⟩]
  | ')' => [⟨[], ")", .none⟩]
  | ',' => [⟨[], ",", .none⟩]
  | ';' => [⟨[], ";", .none⟩]
  | '\\' => [⟨[], "\\", .none⟩]
  | '[' => [⟨[], "[", .none⟩]
  | ']' => [⟨[], "]", .none⟩]
  | '\x7b' => [⟨[], "\x7b", .none⟩]
  | '\x7d' => [⟨[], "\x7d", .none⟩]
  | '+' => [⟨[], "+", .none⟩]
  | '*' => [⟨[], "*", .none⟩]
  | '/' => (if grammar == .general then [⟨['/'], "//", .none⟩] else []) ++ [⟨[], "/", .none⟩]
  | '%' => [⟨[], "%", .operator⟩]
  | '-' => [⟨['>', '>'], "->>", .operator⟩, ⟨['>'], "->", .operator⟩, ⟨[], "-", .operator⟩]
  | '|' => [⟨['/'], "|/", .operator⟩, ⟨['|', '/'], "||/", .operator⟩, ⟨['|'], "||", .operator⟩, ⟨[], "|", .operator⟩]
  | '=' => [⟨['>'], "=>", .none⟩, ⟨['='], "==", .none⟩, ⟨[], "=", .none⟩]
  | '!' => [⟨['='], "<>", .none⟩, ⟨['!'], "!!", .none⟩, ⟨['~', '*'], "!~*", .none⟩,
      ⟨['~', '~', '*'], "!~~*", .none⟩, ⟨['~', '~'], "!~~", .none⟩, ⟨['~'], "!~", .none⟩, ⟨[], "!", .none⟩]
  | '<' => [⟨['=', '>'], "<=>", .operator⟩, ⟨['='], "<=", .operator⟩, ⟨['>'], "<>", .operator⟩, ⟨['<'], "<<", .operator⟩,
      ⟨['@'], "<@", .operator⟩, ⟨[], "<", .operator⟩]
  | '>' => [⟨['='], ">=", .operator⟩, ⟨['>'], ">>", .operator⟩, ⟨[], ">", .operator⟩]
  | ':' => [⟨[':'], "::", .none⟩, ⟨['='], ":=", .none⟩, ⟨[], ":", .none⟩]
  | '&' => [⟨['&'], "&&", .operator⟩, ⟨[], "&", .operator⟩]
  | '^' => [⟨['@'], "^@", .none⟩, ⟨[], "^", .none⟩]
  | '~' => [⟨['*'], "~*", .operator⟩, ⟨['~', '*'], "~~*", .operator⟩, ⟨['~'], "~~", .operator⟩, ⟨[], "~", .operator⟩]
  | '@' =>
    let growth := if grammar.isNameStart '@' then .name else .none
    [⟨['>'], "@>", .none⟩, ⟨['?'], "@?", .none⟩, ⟨['@'], "@@", growth⟩, ⟨[], "@", growth⟩]
  | '#' => [⟨['-'], "#-", .operator⟩, ⟨['>', '>'], "#>>", .operator⟩, ⟨['>'], "#>", .operator⟩,
      ⟨[], "#", if grammar.isNameStart '#' then .name else .operator⟩]
  | _ => []

/-- Comments; `none` if none starts here. -/
def comment? (grammar : Grammar) (c : Char) (cs : List Char) : Option Scan :=
  match c, cs with
  | '-', '-' :: rest => some (some (.blank, 1 + lineComment rest))
  | '/', '*' :: rest => some ((blockComment? 1 ' ' rest).map fun n => (.blank, n + 1))
  | '#', _ => if grammar == .mySQL then some (some (.blank, lineComment cs)) else none
  | _, _ => none

/-- Comments, operators and punctuation; `none` if the character starts none of them. -/
def symbol? (grammar : Grammar) (c : Char) (cs : List Char) : Option Scan :=
  match comment? grammar c cs with
  | some scan => some scan
  | none =>
    if c == '?' then some (question grammar cs)
    else ((symbolRules grammar c).find? (·.tail.isPrefixOf cs)).map (·.scan grammar c cs)

/-- A literal that a letter opens: what stands between the letter and its text, and how the text is read. -/
structure LiteralRule where
  opening : List Char
  kind : TextKind
  text? : List Char → Option (List Char × Nat)

/-- The literals that a letter, given in lower case, opens. -/
def literalRules (grammar : Grammar) : Char → List LiteralRule
  | 'b' => [⟨['\x27'], .bits, quoted? false '\x27'⟩, ⟨['"'], .bits, quoted? false '"'⟩]
  | 'r' =>
    if grammar == .general then [⟨['\x27'], .raw, quoted? false '\x27'⟩, ⟨['"'], .raw, quoted? false '"'⟩] else []
  | 'n' => [⟨['\x27'], .national, quoted? true '\x27'⟩]
  | 'e' => [⟨['\x27'], .escaped, escapedText?⟩]
  | 'u' => if grammar == .mySQL then [] else [⟨['&', '\x27'], .unicode, unicodeText?⟩]
  | 'x' => [⟨['\x27'], .hex, quoted? true '\x27'⟩]
  | _ => []

/-- Literals that a letter opens; `none` if the letter starts a name. -/
def letterLiteral? (grammar : Grammar) (c : Char) (cs : List Char) : Option Scan :=
  ((literalRules grammar c.toLower).find? (·.opening.isPrefixOf cs)).map fun rule =>
    (rule.text? (cs.drop rule.opening.length)).map fun (text, n) =>
      (.text rule.kind (String.ofList text), n + rule.opening.length)

/-- Whether a letter can open a literal, so that it starts a word in another way than other letters. -/
def opensLiteral (grammar : Grammar) (c : Char) : Bool :=
  "bBnNeExX".toList.contains c || ("uU".toList.contains c && grammar != .mySQL)
    || ("rR".toList.contains c && grammar == .general)

/-- Words, placeholders, and characters that start no token of another kind. -/
def wordOrOther (grammar : Grammar) (c : Char) (cs : List Char) : Scan :=
  if opensLiteral grammar c then some (letterWord grammar c cs)
  else if grammar.isNameStart c then some (name grammar [c] cs)
  else if c == '$' then dollar cs
  else if Text.isBlank c then some (.blank, 0)
  else some (.other c, 0)

/-- The token that starts with `c`, where that is no blank and opens no literal with a letter. -/
def scanPlain (grammar : Grammar) (c : Char) (cs : List Char) : Scan :=
  if c == '\x27' then
    (quoted? grammar.backslashEscapes c cs).map fun (text, n) => (.text .single (String.ofList text), n)
  else if grammar.isNameQuote c then
    (quoted? false c cs).map fun (text, n) => (.word (.quoted c (String.ofList text)), n)
  else if c == '"' then
    (quoted? grammar.backslashEscapes c cs).map fun (text, n) => (.text .double (String.ofList text), n)
  else if c.isDigit || c == '.' then some (number grammar c cs)
  else (symbol? grammar c cs).getD (wordOrOther grammar c cs)

/-- The token that starts with `c`. -/
def scan (grammar : Grammar) (c : Char) (cs : List Char) : Scan :=
  if c == ' ' || c == '\t' || c == '\n' then some (.blank, 0)
  else if c == '\r' then some (.blank, if cs.head? == some '\n' then 1 else 0)
  else (letterLiteral? grammar c cs).getD (scanPlain grammar c cs)

/-- The tokens of a text that starts at a byte offset. -/
def lexFrom (grammar : Grammar) (offset : Nat) : List Char → Option (List Lexeme)
  | [] => some []
  | c :: cs =>
    match scan grammar c cs with
    | none => none
    | some (token, n) =>
      let stop := offset + c.utf8Size + Text.byteSize (cs.take n)
      (lexFrom grammar stop (cs.drop n)).map (⟨token, offset, stop⟩ :: ·)
termination_by cs => cs.length
decreasing_by simp only [List.length_drop, List.length_cons]; omega

end Lexer

/-- The tokens of a text, blanks and comments left out; `none` if a quote or a comment does not end. -/
def lex (grammar : Grammar) (text : List Char) : Option (List Lexeme) :=
  (Lexer.lexFrom grammar 0 text).map (·.filter (·.token != .blank))

end AnnotatedSql.Sql
