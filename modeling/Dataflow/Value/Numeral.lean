import Dataflow.Text.Digits
import Dataflow.Value.Basic

/-!
# Numbers in JSON text

A numeral without fraction and exponent is an integer while it fits.  Any other numeral is a
floating-point number: as many leading digits as fit into 64 bits are taken as a significand, and
that is multiplied or divided by one power of ten, so the result can be one place away from the
nearest number.  A numeral too large for a finite number has no value.
-/

namespace Dataflow

/-- A numeral by its parts. -/
structure Numeral where
  /-- Whether a minus sign stands in front. -/
  negative : Bool
  /-- The digits before the point. -/
  whole : List Char
  /-- The digits after the point, if there is one. -/
  fraction : Option (List Char) := none
  /-- The exponent, if there is one: whether it is negative, and its digits. -/
  exponent : Option (Bool × List Char) := none

namespace Numeral

/-- Appends digits to a significand until the next one would exceed the limit; answers the digits
left over as well. -/
def absorb (limit : Nat) (significand : Nat) : List Char → Nat × List Char
  | [] => (significand, [])
  | c :: rest =>
    let next := 10 * significand + Text.digitValue c
    if next ≤ limit then absorb limit next rest else (significand, c :: rest)

/-- The greatest significand. -/
def limit : Nat := 0xffffffffffffffff

/-- Multiplies by a power of ten, in steps of at most `10 ^ 308`.  The fuel is the number of such
steps; four take every significand to zero. -/
def scale : Nat → Binary64 → Int → Option Binary64
  | 0, x, _ => some x
  | fuel + 1, x, exponent =>
    if exponent.natAbs ≤ 308 then
      let power := Binary.powerOfTen exponent.natAbs
      if exponent ≥ 0 then
        let y := x.scaleUp power
        if y.isFinite then some y else none
      else some (x.scaleDown power)
    else if x.magnitude = 0 then some x
    else if exponent ≥ 0 then none
    else scale fuel (x.scaleDown (Binary.powerOfTen 308)) (exponent + 308)

/-- A significand times a power of ten, with a sign. -/
def assemble (negative : Bool) (significand : Nat) (exponent : Int) : Option Value :=
  (scale 5 (Binary.ofRatio false significand 1) exponent).map fun x =>
    .float { x with negative := negative }

/-- The greatest exponent that is counted. -/
def exponentLimit : Nat := 0x7fffffff

/-- The value of a numeral, if it has one. -/
def value? (numeral : Numeral) : Option Value :=
  let (wholePart, dropped) := absorb limit 0 numeral.whole
  let (significand, place) : Nat × Int :=
    match numeral.fraction with
    | none => (wholePart, dropped.length)
    | some digits =>
      let (significand, rest) := absorb limit wholePart digits
      (significand, (dropped.length : Int) - (digits.length - rest.length : Nat))
  match numeral.exponent with
  | some (down, digits) =>
    let (exponent, rest) := absorb exponentLimit 0 digits
    if rest.isEmpty then
      assemble numeral.negative significand (if down then place - exponent else place + exponent)
    else if significand ≠ 0 ∧ !down then none
    else some (.float ⟨numeral.negative, 0⟩)
  | none =>
    if numeral.fraction.isNone ∧ dropped.isEmpty then
      if !numeral.negative then some (.int significand)
      else if 0 < significand ∧ significand ≤ 0x8000000000000000 then some (.int (-significand))
      else some (.float (Binary.ofRatio true significand 1))
    else assemble numeral.negative significand place

end Numeral

end Dataflow
