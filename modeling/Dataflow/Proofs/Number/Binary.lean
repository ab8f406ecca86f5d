import Dataflow.Number.Binary
import Dataflow.Value.Basic
import Mathlib.Algebra.Group.Nat.Defs

/-!
# Numbers that stay finite

Rounding to a 64-bit number leads to infinity only from ratios of `2 ^ 1023` and more.  So neither
the integers that a value can hold nor the 32-bit numbers get there.

* `BinaryFormat.Below` — a ratio lies below a power of two, in natural numbers.
* `BinaryFormat.below_floorLog2`, `BinaryFormat.floorLog2_lt` — the binary logarithm of a ratio.
* `BinaryFormat.roundRatio_lt_infinity` — ratios that are rounded to finite numbers.
* `Binary.isFinite_ofInt`, `Binary.isFinite_convert` — integers and 32-bit numbers.
-/

namespace Dataflow

namespace BinaryFormat

/-! ## Ratios and powers of two -/

/-- The ratio `num / den` is less than two to this power. -/
def Below (num den : Nat) (power : Int) : Prop :=
  num * 2 ^ (-power).toNat < den * 2 ^ power.toNat

variable {num den : Nat} {power : Int}

/-- A power may be written as any difference. -/
theorem below_iff (num den a b : Nat) :
    Below num den ((b : Int) - a) ↔ num * 2 ^ a < den * 2 ^ b := by
  -- Both sides are multiplied by the power of two that the given exponents share.
  have up : ((b : Int) - a).toNat + min a b = b := by omega
  have down : (-((b : Int) - a)).toNat + min a b = a := by omega
  rw [Below, ← Nat.mul_lt_mul_right (Nat.two_pow_pos (min a b)), Nat.mul_assoc, Nat.mul_assoc,
    ← Nat.pow_add, ← Nat.pow_add, up, down]

theorem Below.mono (h : Below num den power) {greater : Int} (le : power ≤ greater) :
    Below num den greater := by
  have split : greater = ((power.toNat + (greater - power).toNat : Nat) : Int) -
      ((-power).toNat : Nat) := by omega
  rw [split, below_iff]
  refine Nat.lt_of_lt_of_le h (Nat.mul_le_mul_left den ?_)
  exact Nat.pow_le_pow_right (by decide) (Nat.le_add_right ..)

/-! ## The binary logarithm -/

theorem below_floorLog2 (positive : den ≠ 0) : Below num den (floorLog2 num den + 1) := by
  have high : num < 2 ^ (Nat.log2 num + 1) := Nat.lt_log2_self
  have low : 2 ^ Nat.log2 den ≤ den := Nat.log2_self_le positive
  simp only [floorLog2, Nat.pow_eq]
  split
  · have shift : (Nat.log2 num : Int) - Nat.log2 den + 1 =
        ((Nat.log2 num + 1 : Nat) : Int) - Nat.log2 den := by omega
    rw [shift, below_iff]
    calc num * 2 ^ Nat.log2 den
        < 2 ^ (Nat.log2 num + 1) * 2 ^ Nat.log2 den :=
          Nat.mul_lt_mul_of_pos_right high (Nat.two_pow_pos _)
      _ = 2 ^ Nat.log2 den * 2 ^ (Nat.log2 num + 1) := Nat.mul_comm ..
      _ ≤ den * 2 ^ (Nat.log2 num + 1) := Nat.mul_le_mul_right _ low
  · rename_i less
    rw [Int.sub_add_cancel]
    exact Nat.lt_of_not_le less

theorem floorLog2_lt (zero : num ≠ 0) (h : Below num den power) :
    floorLog2 num den < power := by
  refine Int.not_le.1 fun le => ?_
  have below := h.mono le
  have low : 2 ^ Nat.log2 num ≤ num := Nat.log2_self_le zero
  have high : den < 2 ^ (Nat.log2 den + 1) := Nat.lt_log2_self
  simp only [floorLog2, Nat.pow_eq] at below
  split at below
  · rename_i enough
    exact Nat.not_le_of_lt below enough
  · have shift : (Nat.log2 num : Int) - Nat.log2 den - 1 =
        (Nat.log2 num : Int) - ((Nat.log2 den + 1 : Nat) : Int) := by omega
    rw [shift, below_iff] at below
    have less : den * 2 ^ Nat.log2 num < num * 2 ^ (Nat.log2 den + 1) :=
      calc den * 2 ^ Nat.log2 num
          < 2 ^ (Nat.log2 den + 1) * 2 ^ Nat.log2 num :=
            Nat.mul_lt_mul_of_pos_right high (Nat.two_pow_pos _)
        _ = 2 ^ Nat.log2 num * 2 ^ (Nat.log2 den + 1) := Nat.mul_comm ..
        _ ≤ num * 2 ^ (Nat.log2 den + 1) := Nat.mul_le_mul_right _ low
    exact Nat.lt_asymm below less

/-! ## Rounding -/

theorem roundQuotient_le (num den : Nat) : roundQuotient num den ≤ num / den + 1 := by
  simp only [roundQuotient]
  split <;> omega

/-- A significand takes up at most one place more than the fraction. -/
theorem significand_le (positive : den ≠ 0) {exponent : Int}
    (h : Below num den (exponent + 53)) :
    roundQuotient (num * 2 ^ (-exponent).toNat) (den * 2 ^ exponent.toNat) ≤ 2 ^ 53 := by
  refine Nat.le_trans (roundQuotient_le _ _) ?_
  have split : exponent + 53 = ((exponent.toNat + 53 : Nat) : Int) - ((-exponent).toNat : Nat) := by
    omega
  rw [split, below_iff, Nat.pow_add, ← Nat.mul_assoc, Nat.mul_comm _ (2 ^ 53)] at h
  exact (Nat.div_lt_iff_lt_mul
    (Nat.mul_pos (Nat.pos_of_ne_zero positive) (Nat.two_pow_pos _))).2 h

/-- A ratio below the greatest power of two is rounded to a finite number. -/
theorem roundRatio_lt_infinity (positive : den ≠ 0) (h : Below num den 1023) :
    double.roundRatio num den < double.infinity := by
  have top : double.infinity = 2047 * 2 ^ 52 := by decide
  by_cases zero : num = 0
  · rw [roundRatio, if_pos zero, top]
    decide
  · have least : double.leastExponent = -1074 := by decide
    have bits : double.fractionBits = 52 := rfl
    -- The exponent is at most 970, so that the magnitudes below it fill 2044 blocks; the
    -- significand adds at most two more.
    have log := floorLog2_lt zero h
    simp only [roundRatio, if_neg zero, least, bits, Nat.pow_eq, top]
    refine Nat.lt_of_le_of_lt (Nat.min_le_right _ _) ?_
    have below : Below num den (max (-1074) (floorLog2 num den - (52 : Nat)) + 53) :=
      (below_floorLog2 positive).mono (by omega)
    have significand := significand_le positive below
    have steps : (max (-1074) (floorLog2 num den - (52 : Nat)) - -1074).toNat ≤ 2044 := by omega
    have scaled := Nat.mul_le_mul_right (2 ^ 52) steps
    omega

end BinaryFormat

namespace Binary

open BinaryFormat

/-- An integer that a value can hold is nearest to a finite number. -/
theorem isFinite_ofInt {n : Int} (least : Value.leastInt ≤ n)
    (greatest : n ≤ Value.greatestInt) : (Binary.ofInt n : Binary64).isFinite = true := by
  rw [Value.leastInt] at least
  rw [Value.greatestInt] at greatest
  have small : n.natAbs < 2 ^ 64 := by omega
  have below : Below n.natAbs 1 64 := by
    rw [show (64 : Int) = ((64 : Nat) : Int) - ((0 : Nat) : Int) by rfl, below_iff]
    omega
  rw [Binary.isFinite, decide_eq_true_iff]
  exact roundRatio_lt_infinity (by decide) (below.mono (by decide))

/-- The significand of a finite 32-bit number has 24 places, of which the first counts `2 ^ 127` at
most. -/
theorem scaled_single {x : Binary32} (finite : x.isFinite = true) :
    x.scaled.1 < 2 ^ 24 ∧ x.scaled.2 ≤ 104 := by
  have top : BinaryFormat.single.infinity = 255 * 2 ^ 23 := by decide
  have least : BinaryFormat.single.leastExponent = -149 := by decide
  have unit : Nat.pow 2 BinaryFormat.single.fractionBits = 2 ^ 23 := rfl
  rw [isFinite, decide_eq_true_iff, top] at finite
  simp only [scaled, least, unit]
  split <;> simp only <;> omega

/-- A finite 32-bit number is finite as a 64-bit number. -/
theorem isFinite_convert {x : Binary32} (finite : x.isFinite = true) :
    (x.convert : Binary64).isFinite = true := by
  have number : x.isNaN = false := by
    rw [isFinite, decide_eq_true_iff] at finite
    rw [isNaN, decide_eq_false_iff_not]
    omega
  obtain ⟨significand, exponent⟩ := scaled_single finite
  have below : Below x.ratio.1 x.ratio.2 128 := by
    simp only [ratio, Nat.pow_eq]
    generalize x.scaled = parts at significand exponent ⊢
    rw [show (128 : Int) = ((128 : Nat) : Int) - ((0 : Nat) : Int) by rfl, below_iff]
    calc parts.1 * 2 ^ parts.2.toNat * 2 ^ 0
        = parts.1 * 2 ^ parts.2.toNat := Nat.mul_one _
      _ < 2 ^ 24 * 2 ^ 104 :=
        Nat.mul_lt_mul_of_lt_of_le significand
          (Nat.pow_le_pow_right (by decide) (by omega)) (Nat.two_pow_pos _)
      _ ≤ 2 ^ (-parts.2).toNat * 2 ^ 128 := Nat.le_mul_of_pos_left _ (Nat.two_pow_pos _)
  have positive : x.ratio.2 ≠ 0 := Nat.ne_of_gt (Nat.two_pow_pos _)
  rw [convert, number, finite]
  simp only [Bool.false_eq_true, if_false, if_true, isFinite, decide_eq_true_iff]
  exact roundRatio_lt_infinity positive (below.mono (by decide))

end Binary

end Dataflow
