import MetricCourier.Number.Rounding

/-!
# Double precision numbers by their bits

Values and sample rates are IEEE 754 `binary64` numbers. A `Binary64` is its 64 bits: a sign,
eleven bits of exponent and fifty-two of fraction. Everything the library decides about such a
number, whether it is finite, whether it is positive and how it is written, is decided on these
fields in exact arithmetic.

A finite number is `± significand * 2 ^ (scale - 1075)`, where `scale` is the exponent field, but at
least one, since subnormal numbers share their least binary place with the smallest normal ones.

`Binary64.ofWord` is the nearest number to an unsigned word, a tie going to the even significand.
-/

namespace MetricCourier

/-- A double precision number, given by its bits. -/
structure Binary64 where
  /-- The sign bit, the eleven exponent bits and the fifty-two fraction bits. -/
  bits : UInt64
  deriving DecidableEq, Inhabited

namespace Binary64

/-- The number zero with a plus sign. -/
def zero : Binary64 := ⟨0⟩

/-- The place above the fraction, `2 ^ 52`: the leading one of a normal number. -/
def leadingOne : Nat := 0x10000000000000

/-- Is the sign bit set? It is for negative zero too. -/
def negative (x : Binary64) : Bool := 0x8000000000000000 ≤ x.bits.toNat

/-- The exponent field. -/
def exponent (x : Binary64) : Nat := x.bits.toNat / leadingOne % 2048

/-- The fraction field. -/
def fraction (x : Binary64) : Nat := x.bits.toNat % leadingOne

/-- Neither an infinity nor a NaN. -/
def isFinite (x : Binary64) : Bool := x.exponent ≠ 2047

/-- One of the two infinities. -/
def isInfinite (x : Binary64) : Bool := x.exponent = 2047 && x.fraction = 0

/-- Not a number. -/
def isNaN (x : Binary64) : Bool := x.exponent = 2047 && x.fraction ≠ 0

/-- A number is finite, infinite or none. -/
theorem isFinite_eq (x : Binary64) : x.isFinite = (!x.isInfinite && !x.isNaN) := by
  unfold isFinite isInfinite isNaN
  by_cases hexponent : x.exponent = 2047 <;> by_cases hfraction : x.fraction = 0 <;>
    simp [hexponent, hfraction]

/-- The magnitude counted in units of the least binary place. -/
def significand (x : Binary64) : Nat :=
  if x.exponent = 0 then x.fraction else leadingOne + x.fraction

/-- The exponent of the least binary place, counted from `2 ^ -1075`. -/
def scale (x : Binary64) : Nat := max 1 x.exponent

/-- Greater than zero: neither sign bit nor NaN nor either zero. -/
def isPositive (x : Binary64) : Bool := !x.negative && !x.isNaN && x.bits ≠ 0

/-- The number nearest to an unsigned word. Below `2 ^ 53` it is the word itself; above, the
places that do not fit are rounded away, a tie going to the even significand. A significand
that rounds up to `2 ^ 53` carries into the exponent field by plain addition. -/
def ofWord (n : UInt64) : Binary64 :=
  if n = 0 then zero
  else
    let top := n.toNat.log2
    let kept :=
      if top ≤ 52 then n.toNat <<< (52 - top)
      else Rounding.nearestEven n.toNat (1 <<< (top - 52))
    ⟨UInt64.ofNat ((top + 1023) * leadingOne + (kept - leadingOne))⟩

end Binary64

end MetricCourier
