import Mathlib.Algebra.Order.Field.Power
import MetricCourier.Number.Fixed
import MetricCourier.Proofs.Number.Nearest

/-!
# Double precision numbers, exactly

A finite double precision number is a rational number, `Binary64.value`. Its thousandths are the
whole number nearest to a thousand times its magnitude (`nearest_thousandths`), whether its least
binary place lies before the point or behind it, and it is positive in the sense of its bits if its
value is greater than zero (`isPositive_iff`).
-/

namespace MetricCourier.Binary64

/-- The magnitude of a finite number. -/
def magnitude (x : Binary64) : ℚ := x.significand * (2 : ℚ) ^ ((x.scale : ℤ) - 1075)

/-- A finite number as a rational number. -/
def value (x : Binary64) : ℚ := if x.negative then -x.magnitude else x.magnitude

open Rounding

theorem magnitude_nonneg (x : Binary64) : 0 ≤ x.magnitude := by
  unfold magnitude
  positivity

/-- The magnitude is rounded to the nearest whole number of thousandths. -/
theorem nearest_thousandths (x : Binary64) : Nearest (1000 * x.magnitude) x.thousandths := by
  unfold thousandths magnitude
  split
  · next h =>
    -- a whole number, which is not rounded at all
    have hexp : (x.scale : ℤ) - 1075 = ((x.scale - 1075 : ℕ) : ℤ) := by omega
    have hwhole : (1000 : ℚ) * (x.significand * (2 : ℚ) ^ ((x.scale : ℤ) - 1075)) =
        ((x.significand <<< (x.scale - 1075) * 1000 : ℕ) : ℤ) := by
      rw [hexp, zpow_natCast, Nat.shiftLeft_eq]
      push_cast
      ring
    rw [hwhole]
    exact nearest_intCast _
  · next h =>
    -- a quotient by a power of two, rounded as such
    have hexp : (x.scale : ℤ) - 1075 = -((1075 - x.scale : ℕ) : ℤ) := by omega
    have hquotient : (1000 : ℚ) * (x.significand * (2 : ℚ) ^ ((x.scale : ℤ) - 1075)) =
        ((x.significand * 1000 : ℕ) : ℚ) / ((1 <<< (1075 - x.scale) : ℕ) : ℚ) := by
      rw [hexp, zpow_neg, zpow_natCast, Nat.one_shiftLeft]
      push_cast
      ring
    rw [hquotient]
    refine nearest_nearestEven _ ?_
    rw [Nat.one_shiftLeft]
    exact Nat.two_pow_pos _

theorem significand_eq_zero_iff (x : Binary64) :
    x.significand = 0 ↔ x.exponent = 0 ∧ x.fraction = 0 := by
  unfold significand leadingOne
  split <;> simp [*]

/-- Positive by its bits is greater than zero. -/
theorem isPositive_iff {x : Binary64} (h : x.isFinite = true) :
    x.isPositive = true ↔ 0 < x.value := by
  have hnan : x.isNaN = false := by
    have hexp : x.exponent ≠ 2047 := of_decide_eq_true h
    simp [isNaN, hexp]
  rw [value, isPositive, hnan]
  cases hsign : x.negative with
  | true =>
    simp [x.magnitude_nonneg]
  | false =>
    -- without a sign bit the number is zero only if all its bits are
    have hzero : x.significand = 0 ↔ x.bits = 0 := by
      have hlow : ¬ 0x8000000000000000 ≤ x.bits.toNat := of_decide_eq_false hsign
      rw [significand_eq_zero_iff, exponent, fraction, leadingOne, ← UInt64.toNat_inj]
      change _ ↔ x.bits.toNat = 0
      omega
    have hpos : 0 < x.magnitude ↔ x.significand ≠ 0 := by
      unfold magnitude
      rw [mul_pos_iff_of_pos_right (by positivity), Nat.cast_pos, Nat.pos_iff_ne_zero]
    simp [hpos, hzero]

end MetricCourier.Binary64
