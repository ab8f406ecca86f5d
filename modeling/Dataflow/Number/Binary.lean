/-!
# Binary floating-point numbers

A floating-point number of a binary interchange format is a sign and a magnitude.  Magnitudes are
numbered in increasing order: `0` is zero, `1` the least positive one, `infinity` comes after the
last finite one, and everything above stands for "not a number".  All arithmetic goes through
exact ratios of natural numbers and one rounding rule, `roundRatio`: to nearest, ties to even.
-/

namespace Dataflow

/-! ## Formats -/

/-- A binary interchange format, by the widths of its two fields. -/
structure BinaryFormat where
  /-- Number of bits of the stored fraction. -/
  fractionBits : Nat
  /-- Number of bits of the stored exponent. -/
  exponentBits : Nat

namespace BinaryFormat

/-- The 64-bit format. -/
def double : BinaryFormat := ⟨52, 11⟩

/-- The 32-bit format. -/
def single : BinaryFormat := ⟨23, 8⟩

/-- Every finite magnitude is a multiple of two to this power. -/
def leastExponent (format : BinaryFormat) : Int :=
  2 - (Nat.pow 2 (format.exponentBits - 1) : Int) - format.fractionBits

/-- The number of finite magnitudes, which is the place of infinity among them. -/
def infinity (format : BinaryFormat) : Nat :=
  (Nat.pow 2 format.exponentBits - 1) * Nat.pow 2 format.fractionBits

/-- The greatest `k` with `2 ^ k ≤ num / den`, for positive `num` and `den`. -/
def floorLog2 (num den : Nat) : Int :=
  let guess : Int := (Nat.log2 num : Int) - (Nat.log2 den : Int)
  if num * Nat.pow 2 (-guess).toNat ≥ den * Nat.pow 2 guess.toNat then guess else guess - 1

/-- The quotient rounded to nearest, ties to the even neighbour. -/
def roundQuotient (num den : Nat) : Nat :=
  let rest := 2 * (num % den)
  if rest > den ∨ (rest = den ∧ num / den % 2 = 1) then num / den + 1 else num / den

/-- The magnitude nearest to `num / den`, ties to even, past the last finite one infinity. -/
def roundRatio (format : BinaryFormat) (num den : Nat) : Nat :=
  if num = 0 then 0
  else
    let exponent := max format.leastExponent (floorLog2 num den - format.fractionBits)
    let significand :=
      roundQuotient (num * Nat.pow 2 (-exponent).toNat) (den * Nat.pow 2 exponent.toNat)
    min format.infinity
      ((exponent - format.leastExponent).toNat * Nat.pow 2 format.fractionBits + significand)

end BinaryFormat

/-! ## Numbers -/

/-- A floating-point number: its sign and the place of its magnitude among all magnitudes. -/
structure Binary (format : BinaryFormat) where
  /-- Whether the sign is minus; zero has both signs. -/
  negative : Bool
  /-- How many magnitudes lie below. -/
  magnitude : Nat
  deriving DecidableEq, Repr

/-- 64-bit numbers. -/
abbrev Binary64 := Binary .double

/-- 32-bit numbers. -/
abbrev Binary32 := Binary .single

namespace Binary

variable {format : BinaryFormat}

instance : Inhabited (Binary format) := ⟨⟨false, 0⟩⟩

/-- Positive zero. -/
def zero : Binary format := ⟨false, 0⟩

/-- Infinity of the given sign. -/
def infinite (negative : Bool) : Binary format := ⟨negative, format.infinity⟩

/-- The number that stands for "not a number". -/
def nan : Binary format := ⟨false, format.infinity + 1⟩

/-- Whether the number is neither an infinity nor "not a number". -/
def isFinite (x : Binary format) : Bool := x.magnitude < format.infinity

/-- Whether this is "not a number". -/
def isNaN (x : Binary format) : Bool := format.infinity < x.magnitude

/-- Numerical equality: both zeros are equal, and "not a number" equals nothing. -/
def equal (x y : Binary format) : Bool :=
  !x.isNaN && !y.isNaN && x.magnitude == y.magnitude &&
    (x.negative == y.negative || x.magnitude == 0)

/-- A finite magnitude as a significand times a power of two. -/
def scaled (x : Binary format) : Nat × Int :=
  let unit := Nat.pow 2 format.fractionBits
  let step := x.magnitude / unit
  if step = 0 then (x.magnitude, format.leastExponent)
  else (unit + x.magnitude % unit, format.leastExponent + (step - 1 : Nat))

/-- A finite magnitude as a ratio. -/
def ratio (x : Binary format) : Nat × Nat :=
  let (significand, exponent) := x.scaled
  (significand * Nat.pow 2 exponent.toNat, Nat.pow 2 (-exponent).toNat)

/-- The number nearest to the ratio, with the given sign. -/
def ofRatio (negative : Bool) (num den : Nat) : Binary format :=
  ⟨negative, format.roundRatio num den⟩

/-- The number nearest to an integer. -/
def ofInt (n : Int) : Binary format := ofRatio (n < 0) n.natAbs 1

/-- The nearest power of ten. -/
def powerOfTen (exponent : Nat) : Binary format := ofRatio false (Nat.pow 10 exponent) 1

/-- The magnitude multiplied by that of another finite number. -/
def scaleUp (x y : Binary format) : Binary format :=
  ofRatio x.negative (x.ratio.1 * y.ratio.1) (x.ratio.2 * y.ratio.2)

/-- The magnitude divided by that of another finite number other than zero. -/
def scaleDown (x y : Binary format) : Binary format :=
  ofRatio x.negative (x.ratio.1 * y.ratio.2) (x.ratio.2 * y.ratio.1)

/-- The same number with the sign turned. -/
def negate (x : Binary format) : Binary format := { x with negative := !x.negative }

/-- The nearest number of another format. -/
def convert {target : BinaryFormat} (x : Binary format) : Binary target :=
  if x.isNaN then nan
  else if x.isFinite then ofRatio x.negative x.ratio.1 x.ratio.2
  else infinite x.negative

end Binary

end Dataflow
