import AnnotatedSql.Toml

/-!
Numbers, truth values and times of TOML documents. Each is a run of characters without blanks, save that a blank may
stand between a date and a time.
-/
namespace AnnotatedSql.Toml

/-- A character of such a run. -/
def isScalarChar (c : Char) : Bool :=
  c.isAlphanum || c == '+' || c == '-' || c == '_' || c == '.' || c == ':'

/-- Digits with single underscores between them, as plain digits. -/
def underscored? (isDigit : Char → Bool) : List Char → Option (List Char)
  | [] => none
  | [c] => if isDigit c then some [c] else none
  | c :: '_' :: rest => if isDigit c then (underscored? isDigit rest).map (c :: ·) else none
  | c :: rest => if isDigit c then (underscored? isDigit rest).map (c :: ·) else none

/-- A sign, and what it stands before. -/
def splitSign : List Char → Option Char × List Char
  | '+' :: rest => (some '+', rest)
  | '-' :: rest => (some '-', rest)
  | cs => (none, cs)

/-- Decimal digits without a superfluous zero in front. -/
def decimalDigits? (cs : List Char) : Option (List Char) := do
  let digits ← underscored? Char.isDigit cs
  guard (digits.length = 1 ∨ digits.head? ≠ some '0')
  return digits

/-- The value of a digit in bases up to sixteen. -/
def digitValue (c : Char) : Nat :=
  if c.isDigit then c.toNat - '0'.toNat else c.toLower.toNat - 'a'.toNat + 10

def valueIn (base : Nat) (digits : List Char) : Nat :=
  digits.foldl (fun value digit => base * value + digitValue digit) 0

/-- A number that fits a signed word of 64 bits. -/
def inRange? (value : Int) : Option Int :=
  if -9223372036854775808 ≤ value ∧ value ≤ 9223372036854775807 then some value else none

/-- Digits of a base other than ten. -/
def based? (base : Nat) (isDigit : Char → Bool) (cs : List Char) : Option Int := do
  let digits ← underscored? isDigit cs
  inRange? (valueIn base digits)

def integer? : List Char → Option Int
  | '0' :: 'x' :: rest => based? 16 (fun c => (c.isDigit || ('a' ≤ c.toLower && c.toLower ≤ 'f'))) rest
  | '0' :: 'o' :: rest => based? 8 (fun c => '0' ≤ c && c ≤ '7') rest
  | '0' :: 'b' :: rest => based? 2 (fun c => c == '0' || c == '1') rest
  | cs => do
    let (sign, rest) := splitSign cs
    let digits ← decimalDigits? rest
    let value : Int := valueIn 10 digits
    inRange? (if sign == some '-' then -value else value)

def isExponentMark (c : Char) : Bool :=
  c == 'e' || c == 'E'

def isExponent : List Char → Bool
  | c :: rest => isExponentMark c && (underscored? Char.isDigit (splitSign rest).2).isSome
  | [] => false

/-- A number with a fraction, an exponent or both, or one that is infinite or undefined. -/
def isFloat (cs : List Char) : Bool :=
  let rest := (splitSign cs).2
  if rest == "inf".toList || rest == "nan".toList then true
  else
    let whole := rest.takeWhile fun c => c != '.' && !isExponentMark c
    (decimalDigits? whole).isSome &&
      match rest.drop whole.length with
      | '.' :: fraction =>
        let digits := fraction.takeWhile (!isExponentMark ·)
        let exponent := fraction.drop digits.length
        (underscored? Char.isDigit digits).isSome && (exponent.isEmpty || isExponent exponent)
      | exponent => isExponent exponent

/-! Times -/

/-- Two digits whose value lies between bounds. -/
def isPair (low high : Nat) (a b : Char) : Bool :=
  a.isDigit && b.isDigit && low ≤ valueIn 10 [a, b] && valueIn 10 [a, b] ≤ high

def isLeapYear (year : Nat) : Bool :=
  year % 4 == 0 && (year % 100 != 0 || year % 400 == 0)

def daysOfMonth (year month : Nat) : Nat :=
  if month == 2 then if isLeapYear year then 29 else 28
  else if month == 4 || month == 6 || month == 9 || month == 11 then 30
  else 31

def isDate : List Char → Bool
  | [y₁, y₂, y₃, y₄, '-', m₁, m₂, '-', d₁, d₂] =>
    [y₁, y₂, y₃, y₄].all Char.isDigit && isPair 1 12 m₁ m₂ &&
      isPair 1 (daysOfMonth (valueIn 10 [y₁, y₂, y₃, y₄]) (valueIn 10 [m₁, m₂])) d₁ d₂
  | _ => false

/-- A distance from universal time. -/
def isOffset : List Char → Bool
  | ['Z'] | ['z'] => true
  | [sign, h₁, h₂, ':', m₁, m₂] => (sign == '+' || sign == '-') && isPair 0 23 h₁ h₂ && isPair 0 59 m₁ m₂
  | _ => false

/-- A time of day, and after it what `isEnd` accepts. -/
def isTime (isEnd : List Char → Bool) : List Char → Bool
  | h₁ :: h₂ :: ':' :: m₁ :: m₂ :: ':' :: s₁ :: s₂ :: rest =>
    isPair 0 23 h₁ h₂ && isPair 0 59 m₁ m₂ && isPair 0 60 s₁ s₂ &&
      match rest with
      | '.' :: fraction =>
        let digits := fraction.takeWhile Char.isDigit
        !digits.isEmpty && isEnd (fraction.drop digits.length)
      | rest => isEnd rest
  | _ => false

/-- A time of day as it stands after a date. -/
def isTimeOfDate (cs : List Char) : Bool :=
  isTime (fun rest => rest.isEmpty || isOffset rest) cs

/-- A date with a time after the letter between them. -/
def isDateTime (cs : List Char) : Bool :=
  isDate (cs.take 10) &&
    match cs.drop 10 with
    | mark :: clock => (mark == 'T' || mark == 't') && isTimeOfDate clock
    | [] => false

/-- The value of a run of characters. -/
def ofRun? (cs : List Char) : Option Toml :=
  if cs == "true".toList then some (.boolean true)
  else if cs == "false".toList then some (.boolean false)
  else if isDate cs || isDateTime cs || isTime List.isEmpty cs then some (.time (String.ofList cs))
  else if isFloat cs then some (.float (String.ofList cs))
  else (integer? cs).map .integer

/-- Reads a value without delimiters. -/
def scalar (cs : List Char) : Option (Toml × List Char) := do
  let run := cs.takeWhile isScalarChar
  let rest := cs.drop run.length
  let value ← ofRun? run
  match rest with
  | ' ' :: after =>
    let clock := after.takeWhile isScalarChar
    if isDate run && isTimeOfDate clock then
      return (.time (String.ofList (run ++ ' ' :: clock)), after.drop clock.length)
    else return (value, rest)
  | _ => return (value, rest)

end AnnotatedSql.Toml
