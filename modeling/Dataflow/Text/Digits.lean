/-!
# Digits and fixed words in text

What readers of text share: the digits of numbers, their values, and words that have to stand at a
place letter by letter.
-/

namespace Dataflow.Text

/-! ## Digits -/

/-- Decimal digits. -/
def isDigit (c : Char) : Bool := '0' ≤ c && c ≤ '9'

/-- The value of a decimal digit. -/
def digitValue (c : Char) : Nat := c.toNat - '0'.toNat

/-- The number written by decimal digits. -/
def digitsValue (digits : List Char) : Nat :=
  digits.foldl (fun n c => 10 * n + digitValue c) 0

/-- The value of a hexadecimal digit. -/
def hexValue? (c : Char) : Option Nat :=
  if isDigit c then some (digitValue c)
  else if 'a' ≤ c && c ≤ 'f' then some (c.toNat - 'a'.toNat + 10)
  else if 'A' ≤ c && c ≤ 'F' then some (c.toNat - 'A'.toNat + 10)
  else none

/-! ## Words -/

/-- The text after a fixed word. -/
def word? : List Char → List Char → Option (List Char)
  | [], text => some text
  | w :: ws, c :: text => if w = c then word? ws text else none
  | _ :: _, [] => none

end Dataflow.Text
