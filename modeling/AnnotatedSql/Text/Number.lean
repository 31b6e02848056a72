/-!
Numbers in texts: the decimal digits of a 64-bit word.
-/
namespace AnnotatedSql.Text

/-- The number of values of a 64-bit word. -/
def wordCount : Nat := 18446744073709551616

/-- The largest 64-bit word. -/
def maxWord : Nat := wordCount - 1

/-- The number that decimal digits denote. -/
def digitsValue (digits : List Char) : Nat :=
  digits.foldl (fun value digit => 10 * value + (digit.toNat - '0'.toNat)) 0

/-- Reads a 64-bit word: decimal digits, perhaps after a plus sign. -/
def readWord? (cs : List Char) : Option Nat :=
  let digits := match cs with
    | '+' :: rest => rest
    | _ => cs
  if digits.isEmpty || !digits.all Char.isDigit then none
  else
    let value := digitsValue digits
    if value < wordCount then some value else none

end AnnotatedSql.Text
