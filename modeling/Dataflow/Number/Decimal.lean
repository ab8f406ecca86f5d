import Dataflow.Number.Binary
import Dataflow.Text.Digits

/-!
# Decimals as floating-point numbers

A decimal is a row of digits times a power of ten, and its number is the nearest one.  The exponent
may be of any size: far outside the range of finite numbers the result is told without working out
the power.
-/

namespace Dataflow

/-- The 64-bit number nearest to the digits times a power of ten. -/
def Binary64.ofDecimal (negative : Bool) (digits : List Char) (exponent : Int) : Binary64 :=
  let digits := digits.dropWhile (· = '0')
  let places : Int := digits.length + exponent
  if digits.isEmpty ∨ places < -400 then ⟨negative, 0⟩
  else if places > 400 then .infinite negative
  else
    .ofRatio negative (Text.digitsValue digits * Nat.pow 10 exponent.toNat)
      (Nat.pow 10 (-exponent).toNat)

end Dataflow
