import Dataflow.Number.Binary

/-!
# The shortest decimal text of a floating-point number

A finite number is written with the fewest digits that read back as the same number, the nearest
such digits if there are several, an exact tie going to the even digit.  The reals that round to a
number form an interval around it, so the search walks the decimal grids from coarse to fine and
looks at the number's two neighbours on each.
-/

namespace Dataflow

namespace Binary

variable {format : BinaryFormat}

/-! ## Digits -/

/-- The reals that read back as a number, in quarters of its unit: the lower end, the number itself
and the upper end, each times two to the exponent, and whether the ends belong to them. -/
structure Interval where
  lower : Nat
  centre : Nat
  upper : Nat
  exponent : Int
  closed : Bool

/-- The interval of a finite number other than zero.  Just above a power of two the lower
neighbour is nearer than the upper one. -/
def interval (x : Binary format) : Interval :=
  let (significand, exponent) := x.scaled
  let narrow := significand = Nat.pow 2 format.fractionBits ∧ exponent ≠ format.leastExponent
  { lower := 4 * significand - (if narrow then 1 else 2)
    centre := 4 * significand
    upper := 4 * significand + 2
    exponent := exponent - 2
    closed := significand % 2 = 0 }

/-- A point of the grid of tens to `place` inside the interval, the nearer of the two neighbours
of the centre if both are. -/
def Interval.gridPoint? (range : Interval) (place : Int) : Option Nat :=
  let unit := Nat.pow 10 place.toNat * Nat.pow 2 (-range.exponent).toNat
  let scale := Nat.pow 2 range.exponent.toNat * Nat.pow 10 (-place).toNat
  let centre := range.centre * scale
  let below := centre / unit
  let inside (point : Nat) : Bool :=
    let value := point * unit
    let lower := range.lower * scale
    let upper := range.upper * scale
    (lower < value && value < upper) || (range.closed && (value == lower || value == upper))
  let low := inside below
  let high := inside (below + 1)
  if low && high then
    let toLow := centre - below * unit
    let toHigh := (below + 1) * unit - centre
    if toLow < toHigh then some below
    else if toHigh < toLow then some (below + 1)
    else if below % 2 = 0 then some below else some (below + 1)
  else if low then some below
  else if high then some (below + 1)
  else none

/-- Walks the decimal grids downwards from `place`. -/
def Interval.search (range : Interval) : Nat → Int → Nat × Int
  | 0, place => (0, place)
  | fuel + 1, place =>
    match range.gridPoint? place with
    | some point => (point, place)
    | none => range.search fuel (place - 1)

/-- The shortest digits of a finite number other than zero, as an integer and the power of ten
that it counts. -/
def shortest (x : Binary format) : Nat × Int :=
  let range := x.interval
  let bits : Int := (Nat.log2 range.centre + 1 : Nat) + range.exponent
  range.search 40 (bits * 30103 / 100000 + 2)

/-! ## Text -/

/-- Where positional notation is used: `place` is the number of digits before the point. -/
structure Layout where
  /-- The greatest number of digits before the point. -/
  widest : Int
  /-- How many zeros after the point are too many. -/
  deepest : Int

/-- 64-bit numbers are written positionally from `0.00001` up to sixteen digits. -/
def layout64 : Layout := ⟨16, 5⟩

/-- 32-bit numbers are written positionally from `0.000001` up to thirteen digits. -/
def layout32 : Layout := ⟨13, 6⟩

/-- Digits with a point at the given place, or with an exponent.  There is always a fraction or an
exponent. -/
def Layout.write (style : Layout) (digits : Nat) (place : Int) : String :=
  let text := (toString digits).toList
  let point : Int := text.length + place
  if 0 ≤ place ∧ point ≤ style.widest then
    String.ofList (text ++ List.replicate place.toNat '0' ++ ['.', '0'])
  else if 0 < point ∧ point ≤ style.widest then
    String.ofList (text.take point.toNat ++ '.' :: text.drop point.toNat)
  else if -style.deepest < point ∧ point ≤ 0 then
    String.ofList ('0' :: '.' :: (List.replicate (-point).toNat '0' ++ text))
  else
    let mantissa := if text.length = 1 then text else text.take 1 ++ '.' :: text.drop 1
    String.ofList (mantissa ++ 'e' :: (toString (point - 1)).toList)

/-- The text of a number; those that are not finite are named. -/
def render (style : Layout) (x : Binary format) : String :=
  if x.isNaN then "NaN"
  else
    let sign := if x.negative then "-" else ""
    if !x.isFinite then sign ++ "inf"
    else if x.magnitude = 0 then sign ++ "0.0"
    else sign ++ style.write x.shortest.1 x.shortest.2

/-- The text of a 64-bit number. -/
def text64 (x : Binary64) : String := render layout64 x

/-- The text of a 32-bit number. -/
def text32 (x : Binary32) : String := render layout32 x

end Binary

end Dataflow
