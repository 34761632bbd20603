import Mathlib.Algebra.Order.Field.Basic
import Mathlib.Algebra.Order.Field.Rat
import Mathlib.Algebra.Order.Ring.Abs
import Mathlib.Tactic.FieldSimp
import Mathlib.Tactic.Linarith
import Mathlib.Tactic.Ring
import MetricCourier.Number.Rounding

/-!
# The nearest whole number

Rounding as a matter of the number line. `Rounding.Nearest x n` says that no whole number is nearer
to the rational number `x` than `n` is, and that `n` is even if another one is equally near. Rounding
like this never turns the order of two numbers around (`Nearest.mono`), and it treats both signs alike
(`Nearest.neg`). Rounding to the multiples of another unit than one is the same thing in that unit
(`nearest_div_iff`).

Rounding a quotient of natural numbers finds it (`nearest_nearestEven`): what is rounded away is at
most one half, and exactly one half only if the result is even.
-/

namespace MetricCourier.Rounding

/-- No whole number is nearer to `x`, and if another one is equally near, this one is even. -/
structure Nearest (x : ℚ) (n : ℤ) : Prop where
  near : ∀ k : ℤ, |(n : ℚ) - x| ≤ |(k : ℚ) - x|
  even : ∀ k : ℤ, k ≠ n → |(k : ℚ) - x| = |(n : ℚ) - x| → Even n

variable {x y : ℚ} {m n : ℤ}

/-- The other whole numbers are further away than the one that is at most one half off. -/
theorem half_le_of_ne (h : |(n : ℚ) - x| ≤ 1 / 2) {k : ℤ} (hk : k ≠ n) :
    1 / 2 ≤ |(k : ℚ) - x| := by
  have hapart : (1 : ℚ) ≤ |(k : ℚ) - n| := by
    have hpos : 1 ≤ |k - n| := Int.one_le_abs (sub_ne_zero.mpr hk)
    exact_mod_cast hpos
  have hway : |(k : ℚ) - n| ≤ |(k : ℚ) - x| + |x - n| := abs_sub_le _ _ _
  rw [abs_sub_comm x] at hway
  linarith

/-- What is at most one half off is nearest, if it is even where it is exactly one half off. -/
theorem nearest_of_half (h : |(n : ℚ) - x| ≤ 1 / 2)
    (heven : |(n : ℚ) - x| = 1 / 2 → Even n) : Nearest x n where
  near k := by
    by_cases hk : k = n
    · rw [hk]
    · -- the others are at least one half off
      exact h.trans (half_le_of_ne h hk)
  even k hk heq := heven (le_antisymm h (heq ▸ half_le_of_ne h hk))

/-- Rounding treats both signs alike. -/
theorem Nearest.neg (h : Nearest x n) : Nearest (-x) (-n) := by
  -- the mirror image of a whole number is as far from the mirror image of `x`
  have hflip : ∀ k : ℤ, |((-k : ℤ) : ℚ) - -x| = |(k : ℚ) - x| := by
    intro k
    rw [Int.cast_neg, neg_sub_neg, abs_sub_comm]
  refine ⟨fun k => ?_, fun k hk heq => ?_⟩
  · have hnear := h.near (-k)
    rwa [← hflip n, ← hflip (-k), neg_neg] at hnear
  · rw [hflip] at heq
    refine (h.even (-k) (fun hkn => hk (by rw [← hkn, neg_neg])) ?_).neg
    rw [← heq, ← hflip (-k), neg_neg]

/-- A whole number that is larger and yet not further away lies past the middle. -/
theorem middle_le (hmn : n < m) (h : |(m : ℚ) - x| ≤ |(n : ℚ) - x|) : (n + m : ℚ) ≤ 2 * x := by
  have hlt : (n : ℚ) < m := by exact_mod_cast hmn
  have hsq := sq_le_sq.mpr h
  nlinarith

theorem le_middle (hmn : n < m) (h : |(n : ℚ) - x| ≤ |(m : ℚ) - x|) : 2 * x ≤ (n + m : ℚ) := by
  have hlt : (n : ℚ) < m := by exact_mod_cast hmn
  have hsq := sq_le_sq.mpr h
  nlinarith

/-- **Rounding keeps the order.** -/
theorem Nearest.mono (hm : Nearest x m) (hn : Nearest y n) (hxy : x ≤ y) : m ≤ n := by
  by_contra hlt
  rw [not_le] at hlt
  -- both numbers lie in the middle between their roundings
  have hx : (n + m : ℚ) ≤ 2 * x := middle_le hlt (hm.near n)
  have hy : 2 * y ≤ (n + m : ℚ) := le_middle hlt (hn.near m)
  have hxmid : x = (n + m : ℚ) / 2 := by linarith
  have hymid : y = (n + m : ℚ) / 2 := by linarith
  have htie : |(n : ℚ) - (n + m : ℚ) / 2| = |(m : ℚ) - (n + m : ℚ) / 2| := by
    rw [abs_sub_comm (m : ℚ)]
    congr 1
    ring
  -- which are then both even, so that there is a nearer number between them
  have hmeven : Even m := hm.even n hlt.ne (by rw [hxmid, htie])
  have hneven : Even n := hn.even m hlt.ne' (by rw [hymid, htie])
  have hgap : n + 1 < m := by
    obtain ⟨a, rfl⟩ := hmeven
    obtain ⟨b, rfl⟩ := hneven
    omega
  have hbetween := middle_le hgap (hm.near (n + 1))
  push_cast at hbetween
  linarith

/-- There is one nearest whole number. -/
theorem Nearest.unique (hm : Nearest x m) (hn : Nearest x n) : m = n :=
  le_antisymm (hm.mono hn le_rfl) (hn.mono hm le_rfl)

/-- A positive whole number is nearest exactly to what is more than one half: the half itself lies
between zero and one, and zero is even. -/
theorem Nearest.pos_iff (h : Nearest x n) : 0 < n ↔ 1 / 2 < x := by
  constructor
  · -- one is no further from `x` than zero is, so `x` is not below the half
    intro hn
    have hmiddle := middle_le hn (h.near 0)
    have hone : (1 : ℚ) ≤ n := by exact_mod_cast hn
    push_cast at hmiddle
    refine lt_of_le_of_ne (by linarith) fun hhalf => ?_
    -- at the half the number is one, and zero is equally near
    have hnone : (n : ℚ) = 1 := by linarith
    have htie : |((0 : ℤ) : ℚ) - x| = |(n : ℚ) - x| := by
      rw [hnone, ← hhalf]
      norm_num
    have heven : Even n := h.even 0 hn.ne htie
    have hodd : n = 1 := by exact_mod_cast hnone
    rw [hodd] at heven
    exact absurd heven (by decide)
  · intro hx
    by_contra hn
    rw [not_lt] at hn
    have hmiddle := le_middle (lt_of_le_of_lt hn one_pos) (h.near 1)
    have hzero : (n : ℚ) ≤ 0 := by exact_mod_cast hn
    push_cast at hmiddle
    linarith

/-- Rounding to the multiples of a unit is rounding the number counted in that unit. -/
theorem nearest_div_iff {unit : ℚ} (hunit : 0 < unit) :
    Nearest (x / unit) n ↔
      (∀ k : ℤ, |n * unit - x| ≤ |k * unit - x|) ∧
        ∀ k : ℤ, k ≠ n → |k * unit - x| = |n * unit - x| → Even n := by
  -- every distance is that in the other unit times the unit
  have hscale : ∀ k : ℤ, |(k : ℚ) * unit - x| = |(k : ℚ) - x / unit| * unit := by
    intro k
    rw [← abs_of_pos hunit, ← abs_mul, sub_mul, abs_of_pos hunit, div_mul_cancel₀ _ hunit.ne']
  simp only [hscale, mul_le_mul_iff_left₀ hunit, mul_left_inj' hunit.ne']
  exact ⟨fun h => ⟨h.near, h.even⟩, fun h => ⟨h.1, h.2⟩⟩

theorem nearest_intCast (n : ℤ) : Nearest n n := by
  refine nearest_of_half ?_ fun h => ?_
  · rw [sub_self, abs_zero]
    norm_num
  · rw [sub_self, abs_zero] at h
    norm_num at h

/-- **A quotient is rounded to the nearest whole number.** -/
theorem nearest_nearestEven (num : ℕ) {den : ℕ} (hden : 0 < den) :
    Nearest ((num : ℚ) / den) (nearestEven num den) := by
  obtain ⟨hup, hdown⟩ := nearestEven_near num hden
  have hpos : (0 : ℚ) < den := by exact_mod_cast hden
  have hup' : (2 * num : ℚ) ≤ 2 * (den * nearestEven num den) + den := by exact_mod_cast hup
  have hdown' : (2 * (den * nearestEven num den) : ℚ) ≤ 2 * num + den := by exact_mod_cast hdown
  -- how far the result is off, counted in parts of the denominator
  have hoff : |((nearestEven num den : ℤ) : ℚ) - num / den| =
      |(den * nearestEven num den : ℚ) - num| / den := by
    rw [Int.cast_natCast, ← abs_of_pos hpos, ← abs_div, abs_of_pos hpos]
    congr 1
    field_simp
  refine nearest_of_half ?_ fun htie => ?_
  · rw [hoff, div_le_iff₀ hpos, abs_le]
    constructor <;> linarith
  · -- a tie on either side, above or below
    rw [hoff, div_eq_iff hpos.ne'] at htie
    refine (Int.even_coe_nat _).mpr (Nat.even_iff.mpr (nearestEven_even hden ?_))
    obtain h | h := abs_choice ((den * nearestEven num den : ℚ) - num)
    · right
      have : (2 * (den * nearestEven num den) : ℚ) = 2 * num + den := by linarith
      exact_mod_cast this
    · left
      have : (2 * num : ℚ) = 2 * (den * nearestEven num den) + den := by linarith
      exact_mod_cast this

end MetricCourier.Rounding
