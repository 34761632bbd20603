/-!
# Rounding a quotient to the nearest natural

Both roundings of this library, a binary fraction to thousandths and a wide integer to a
significand, divide one natural number by another and keep the nearest whole quotient. Exactly
half way between two, the even one is kept.
-/

namespace MetricCourier.Rounding

/-- The whole number nearest to `num / den`; of two equally near, the even one. -/
def nearestEven (num den : Nat) : Nat :=
  let quotient := num / den
  let rest := num % den
  if 2 * rest < den then quotient
  else if den < 2 * rest then quotient + 1
  else if quotient % 2 = 0 then quotient else quotient + 1

/-- Rounding moves a quotient by at most one half. -/
theorem nearestEven_near (num : Nat) {den : Nat} (h : 0 < den) :
    2 * num ≤ 2 * (den * nearestEven num den) + den ∧
      2 * (den * nearestEven num den) ≤ 2 * num + den := by
  have hdiv := Nat.div_add_mod num den
  have hlt := Nat.mod_lt num h
  -- one more in the quotient is one denominator more
  have hsucc : den * (num / den + 1) = den * (num / den) + den := by
    rw [Nat.mul_add, Nat.mul_one]
  unfold nearestEven
  simp only
  split
  · -- the rest is less than half of the denominator, more than that, or just half
    omega
  · split
    · rw [hsucc]; omega
    · split
      · omega
      · rw [hsucc]; omega

/-- Rounding moves a quotient by exactly one half only to an even number. -/
theorem nearestEven_even {num den : Nat} (h : 0 < den)
    (htie : 2 * num = 2 * (den * nearestEven num den) + den ∨
      2 * (den * nearestEven num den) = 2 * num + den) : nearestEven num den % 2 = 0 := by
  have hdiv := Nat.div_add_mod num den
  have hlt := Nat.mod_lt num h
  have hsucc : den * (num / den + 1) = den * (num / den) + den := by
    rw [Nat.mul_add, Nat.mul_one]
  unfold nearestEven at htie ⊢
  simp only at htie ⊢
  -- off the half way the result is off by less than one half
  by_cases hlow : 2 * (num % den) < den
  · rw [if_pos hlow] at htie
    omega
  · rw [if_neg hlow] at htie ⊢
    by_cases hhigh : den < 2 * (num % den)
    · rw [if_pos hhigh, hsucc] at htie
      omega
    · -- exactly half way
      rw [if_neg hhigh]
      split <;> omega

end MetricCourier.Rounding
