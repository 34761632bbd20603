import MetricCourier.Number.Binary64
import MetricCourier.Text.Decimal

/-!
# Fixed point with three decimals

Gauge values, histogram values and sample rates are written in fixed point with exactly three
decimals and never with an exponent. The written number is the multiple of one thousandth that is
nearest to the exact binary value; of two equally near, the one with the even last digit. The sign
is that of the number, so negative zero and a negative number that rounds to zero keep it.
-/

namespace MetricCourier.Binary64

/-- The magnitude of a finite number in thousandths, rounded to the nearest whole one. -/
def thousandths (x : Binary64) : Nat :=
  if 1075 ≤ x.scale then (x.significand <<< (x.scale - 1075)) * 1000
  else Rounding.nearestEven (x.significand * 1000) (1 <<< (1075 - x.scale))

/-- The text of so many thousandths: the whole part, a point and three digits. -/
def thousandthsText (t : Nat) : String :=
  Decimal.natural (t / 1000) ++ "." ++ String.ofList (Decimal.padded 3 (t % 1000))

/-- The text of a finite number in fixed point with three decimals. -/
def fixed (x : Binary64) : String :=
  (if x.negative then "-" else "") ++ thousandthsText x.thousandths

/-- Fixed point is written in digits, with a point among them and perhaps a minus sign before. -/
theorem notMem_fixed {c : Char} (hc : Decimal.isDigit c = false) (hpoint : c ≠ '.')
    (hsign : c ≠ '-') (x : Binary64) : c ∉ x.fixed.toList := by
  intro h
  rw [fixed, String.toList_append, List.mem_append] at h
  obtain h | h := h
  · split at h
    · exact hsign (List.mem_singleton.1 h)
    · cases h
  · rw [thousandthsText, String.toList_append, String.toList_append, List.mem_append,
      List.mem_append] at h
    -- the whole part, the point, or the places behind it
    obtain (h | h) | h := h
    · exact Decimal.notMem_natural hc _ h
    · exact hpoint (List.mem_singleton.1 h)
    · rw [String.toList_ofList] at h
      rw [Decimal.isDigit_of_mem_padded h] at hc
      cases hc

end MetricCourier.Binary64
