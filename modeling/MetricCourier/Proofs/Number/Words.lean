import Mathlib.Data.Nat.Size
import MetricCourier.Client.Value
import MetricCourier.Proofs.Number.Exact

/-!
# Words as double precision numbers

A double precision number has fifty-three binary places, so a word with more of them is rounded when
it becomes one. Around a word `n` such numbers lie `spacing n` apart, and `kept n` is what is left of
the word: the multiple of the spacing that is nearest to it, an even multiple if another one is equally
near (`Keeps`).

Rounding does not pass a multiple of the spacing, from either side (`kept_le`, `le_kept`), and
everything about the order follows from that. A word that is such a multiple is kept as it is. Two
words with the same spacing are rounded alike; if the greater one has the wider spacing, the least
word of its length is a multiple of both and keeps them apart (`kept_mono`).

`Binary64.ofWord` puts the number together from its parts. Whether the word has to be moved up or is
too long and has to be rounded, its significand denotes what is kept (`Rounded`). One that was rounded
up to a place too many carries into the exponent and starts again, which leaves its value as it was
(`Parts.magnitude_assembled`). So the number for a word is a whole number (`ofWord_exact`), and is
written with no thousandths (`fixed_ofWord`).
-/

namespace MetricCourier.Binary64

open Rounding

variable {n m : UInt64}

/-- How far the double precision numbers around a word are apart: one as long as it has no more than
fifty-three binary places, and twice as far for each place more. -/
def spacing (n : UInt64) : ℕ := 2 ^ (n.toNat.size - 53)

/-- The whole number that is kept of a word. -/
def kept (n : UInt64) : ℕ := spacing n * nearestEven n.toNat (spacing n)

/-- Among the multiples of the spacing this one is nearest to the word. -/
structure Keeps (n : UInt64) (d : ℕ) : Prop where
  multiple : spacing n ∣ d
  /-- No multiple is nearer. -/
  near : ∀ j : ℤ, |(d : ℤ) - n.toNat| ≤ |j * spacing n - n.toNat|
  /-- If another one is equally near this one is an even multiple. -/
  even : ∀ j : ℤ, j * spacing n ≠ d → |j * spacing n - n.toNat| = |(d : ℤ) - n.toNat| →
    2 * spacing n ∣ d

theorem spacing_pos (n : UInt64) : 0 < spacing n := Nat.two_pow_pos _

theorem spacing_cast_pos (n : UInt64) : (0 : ℚ) < spacing n := by exact_mod_cast spacing_pos n

/-! ### Rounding to the spacing -/

/-- Counted in spacings, what is kept is the nearest whole number. -/
theorem nearest_kept (n : UInt64) :
    Nearest ((n.toNat : ℚ) / spacing n) (nearestEven n.toNat (spacing n)) :=
  nearest_nearestEven _ (spacing_pos n)

theorem keeps_kept (n : UInt64) : Keeps n (kept n) := by
  obtain ⟨hnear, heven⟩ := (nearest_div_iff (spacing_cast_pos n)).mp (nearest_kept n)
  have hkept : (kept n : ℤ) = (nearestEven n.toNat (spacing n) : ℤ) * spacing n := by
    rw [kept, Nat.cast_mul, mul_comm]
  -- `Nearest` counts in spacings; here distances are multiples of them
  refine ⟨Nat.dvd_mul_right _ _, fun j => ?_, fun j hj htie => ?_⟩
  · rw [hkept]
    exact_mod_cast hnear j
  · rw [hkept] at hj htie
    have hne : j ≠ nearestEven n.toNat (spacing n) := fun heq => hj (by rw [heq])
    have hdvd := (heven j hne (by exact_mod_cast htie)).two_dvd
    rw [mul_comm]
    exact Nat.mul_dvd_mul_left _ (by exact_mod_cast hdvd)

/-- Half way between two multiples the even one is kept, be it the lesser or the greater. -/
example : kept 9007199254740993 = 9007199254740992 ∧ kept 9007199254740995 = 9007199254740996 := by
  decide

/-- Rounding does not pass a multiple of the spacing. -/
theorem kept_le {b : ℕ} (hb : spacing n ∣ b) (h : n.toNat ≤ b) : kept n ≤ b := by
  obtain ⟨c, rfl⟩ := hb
  have hle : (n.toNat : ℚ) / spacing n ≤ ((c : ℤ) : ℚ) := by
    rw [div_le_iff₀ (spacing_cast_pos n), mul_comm]
    exact_mod_cast h
  have hmono := (nearest_kept n).mono (nearest_intCast c) hle
  exact Nat.mul_le_mul_left _ (by exact_mod_cast hmono)

theorem le_kept {b : ℕ} (hb : spacing n ∣ b) (h : b ≤ n.toNat) : b ≤ kept n := by
  obtain ⟨c, rfl⟩ := hb
  have hle : ((c : ℤ) : ℚ) ≤ (n.toNat : ℚ) / spacing n := by
    rw [le_div_iff₀ (spacing_cast_pos n), mul_comm]
    exact_mod_cast h
  have hmono := (nearest_intCast c).mono (nearest_kept n) hle
  exact Nat.mul_le_mul_left _ (by exact_mod_cast hmono)

/-- A word that is a multiple of its spacing is kept as it is. -/
theorem kept_of_dvd (h : spacing n ∣ n.toNat) : kept n = n.toNat :=
  le_antisymm (kept_le h le_rfl) (le_kept h le_rfl)

/-- Up to `2 ^ 53` a word is kept as it is. -/
theorem kept_of_le (h : n.toNat ≤ 2 ^ 53) : kept n = n.toNat := by
  apply kept_of_dvd
  obtain hlt | heq := h.lt_or_eq
  · rw [spacing, Nat.sub_eq_zero_of_le (Nat.size_le.mpr hlt)]
    exact one_dvd _
  · -- the first word with a place too many does not need it
    rw [spacing, heq, Nat.size_pow]
    exact Nat.pow_dvd_pow 2 (by decide)

/-- **Rounding words keeps their order.** -/
theorem kept_mono (h : n ≤ m) : kept n ≤ kept m := by
  have hle : n.toNat ≤ m.toNat := h
  have hsize : n.toNat.size ≤ m.toNat.size := Nat.size_le_size hle
  by_cases hspacing : spacing n = spacing m
  · -- one spacing, and so one rounding
    have hquotient : (n.toNat : ℚ) / spacing n ≤ (m.toNat : ℚ) / spacing m := by
      rw [hspacing]
      exact div_le_div_of_nonneg_right (by exact_mod_cast hle) (spacing_cast_pos m).le
    have hmono := (nearest_kept n).mono (nearest_kept m) hquotient
    rw [kept, kept]
    rw [hspacing] at hmono ⊢
    exact Nat.mul_le_mul_left _ (by exact_mod_cast hmono)
  · -- the least word of as many places as the greater one lies between them
    have hplaces : n.toNat.size - 53 ≠ m.toNat.size - 53 := fun heq =>
      hspacing (congrArg (2 ^ ·) heq)
    calc kept n ≤ 2 ^ (m.toNat.size - 1) :=
          kept_le (Nat.pow_dvd_pow 2 (by omega)) (Nat.size_le.mp (by omega)).le
      _ ≤ kept m :=
          le_kept (Nat.pow_dvd_pow 2 (by omega)) (Nat.lt_size.mp (by omega))

/-- Rounding moves a word by at most half its spacing. -/
theorem abs_kept_sub_le (n : UInt64) : 2 * |(kept n : ℤ) - n.toNat| ≤ spacing n := by
  obtain ⟨hup, hdown⟩ := nearestEven_near n.toNat (spacing_pos n)
  change 2 * n.toNat ≤ 2 * kept n + _ at hup
  change 2 * kept n ≤ _ at hdown
  rw [abs_eq_max_neg]
  omega

/-- A word has at most eleven places too many. -/
theorem spacing_le (n : UInt64) : spacing n ≤ 2048 := by
  have hsize : n.toNat.size ≤ 64 := Nat.size_le.mpr n.toNat_lt
  have hpow : 2 ^ (n.toNat.size - 53) ≤ 2 ^ 11 := Nat.pow_le_pow_right (by decide) (by omega)
  exact hpow

/-! ### Putting a number together -/

/-- The number with this exponent and this significand. The leading one is not written, and where the
significand takes a place more it carries into the exponent. -/
def assembled (exponent significand : ℕ) : Binary64 :=
  ⟨UInt64.ofNat (exponent * leadingOne + (significand - leadingOne))⟩

/-- The parts are those of a normal number, the significand perhaps rounded up to a place more. -/
structure Parts (exponent significand : ℕ) : Prop where
  pos : 0 < exponent
  lt : exponent < 2046
  leading : leadingOne ≤ significand
  carry : significand ≤ 2 * leadingOne

namespace Parts

variable {e s : ℕ} (h : Parts e s)
include h

theorem toNat_assembled : (assembled e s).bits.toNat = e * leadingOne + (s - leadingOne) := by
  obtain ⟨hpos, hlt, hleading, hcarry⟩ := h
  apply UInt64.toNat_ofNat_of_lt'
  unfold leadingOne UInt64.size at *
  omega

/-- There is room for the significand, or it starts again with the next exponent. -/
theorem fields_assembled :
    (assembled e s).exponent = e ∧ leadingOne + (assembled e s).fraction = s ∨
      (assembled e s).exponent = e + 1 ∧ (assembled e s).fraction = 0 ∧ s = 2 * leadingOne := by
  have hbits := h.toNat_assembled
  obtain ⟨hpos, hlt, hleading, hcarry⟩ := h
  rw [exponent, fraction, hbits]
  unfold leadingOne at *
  -- either the sum stays below the next power of two, or it is that power
  omega

theorem negative_assembled : (assembled e s).negative = false := by
  have hbits := h.toNat_assembled
  obtain ⟨hpos, hlt, hleading, hcarry⟩ := h
  rw [negative, hbits, decide_eq_false_iff_not]
  unfold leadingOne at *
  omega

theorem isFinite_assembled : (assembled e s).isFinite = true := by
  have hlt := h.lt
  rw [isFinite, decide_eq_true_iff]
  obtain ⟨hexponent, -⟩ | ⟨hexponent, -, -⟩ := h.fields_assembled <;> omega

/-- The value of a significand that carries is the same as if there were room for it. -/
theorem magnitude_assembled : (assembled e s).magnitude = s * (2 : ℚ) ^ ((e : ℤ) - 1075) := by
  obtain ⟨hexponent, hsignificand⟩ | ⟨hexponent, hfraction, hsignificand⟩ := h.fields_assembled
  · rw [magnitude, significand, scale, hexponent, if_neg h.pos.ne', hsignificand,
      Nat.max_eq_right h.pos]
  · -- twice the leading one at this exponent is the leading one at the next
    rw [magnitude, significand, scale, hexponent, hfraction, if_neg e.succ_ne_zero, hsignificand,
      Nat.max_eq_right e.succ_pos, Nat.cast_add_one, add_sub_right_comm, zpow_add_one₀ two_ne_zero]
    push_cast
    ring

end Parts

/-! ### The number for a word -/

/-- The number for a word has this significand, and it says what is kept of the word. -/
structure Rounded (n : UInt64) (significand : ℕ) : Prop where
  ofWord_eq : ofWord n = assembled (n.toNat.log2 + 1023) significand
  leading : leadingOne ≤ significand
  carry : significand ≤ 2 * leadingOne
  value : significand * (2 : ℚ) ^ ((n.toNat.log2 : ℤ) - 52) = kept n

/-- A word that has room is moved up until its leading one is in place. -/
theorem rounded_of_room (h : n.toNat ≠ 0) (hroom : n.toNat.log2 ≤ 52) :
    Rounded n (n.toNat <<< (52 - n.toNat.log2)) := by
  -- the leading one of the word is moved by as many places as are left
  have hone : leadingOne = 2 ^ n.toNat.log2 * 2 ^ (52 - n.toNat.log2) := by
    rw [← Nat.pow_add, Nat.add_sub_cancel' hroom]
    rfl
  -- nothing is lost, since the word is that small
  have hsmall : n.toNat ≤ 2 ^ 53 :=
    Nat.lt_log2_self.le.trans (Nat.pow_le_pow_right (by decide) (by omega))
  refine ⟨?_, ?_, ?_, ?_⟩
  · rw [ofWord, if_neg fun hn => h (congrArg UInt64.toNat hn)]
    simp only [if_pos hroom]
    rfl
  · rw [Nat.shiftLeft_eq, hone]
    exact Nat.mul_le_mul_right _ (Nat.log2_self_le h)
  · rw [Nat.shiftLeft_eq, hone, ← Nat.mul_assoc, ← Nat.pow_succ']
    exact Nat.mul_le_mul_right _ Nat.lt_log2_self.le
  · have hexponent : (n.toNat.log2 : ℤ) - 52 = -((52 - n.toNat.log2 : ℕ) : ℤ) := by omega
    rw [kept_of_le hsmall, Nat.shiftLeft_eq, hexponent, zpow_neg, zpow_natCast, Nat.cast_mul,
      Nat.cast_pow, Nat.cast_ofNat]
    exact mul_inv_cancel_right₀ (by positivity) _

/-- A word that has none is rounded to its spacing. -/
theorem rounded_of_overlong (h : n.toNat ≠ 0) (hover : ¬ n.toNat.log2 ≤ 52) :
    Rounded n (nearestEven n.toNat (spacing n)) := by
  -- the spacing is as many places as the word has too many
  have hspacing : spacing n = 2 ^ (n.toNat.log2 - 52) := by
    have hsize : n.toNat.size = n.toNat.log2 + 1 :=
      le_antisymm (Nat.size_le.mpr Nat.lt_log2_self) (Nat.lt_size.mpr (Nat.log2_self_le h))
    rw [spacing, hsize]
    rfl
  have hone : spacing n * leadingOne = 2 ^ n.toNat.log2 := by
    rw [hspacing, show leadingOne = 2 ^ 52 from rfl, ← Nat.pow_add,
      Nat.sub_add_cancel (Nat.le_of_not_le hover)]
  refine ⟨?_, ?_, ?_, ?_⟩
  · rw [ofWord, if_neg fun hn => h (congrArg UInt64.toNat hn), hspacing, ← Nat.one_shiftLeft]
    simp only [if_neg hover]
    rfl
  · -- the powers of two around the word are multiples of its spacing
    refine Nat.le_of_mul_le_mul_left ?_ (spacing_pos n)
    exact le_kept (Nat.dvd_mul_right _ _) (hone.trans_le (Nat.log2_self_le h))
  · refine Nat.le_of_mul_le_mul_left ?_ (spacing_pos n)
    refine kept_le (Nat.dvd_mul_right _ _) ?_
    rw [Nat.mul_left_comm, hone, ← Nat.pow_succ']
    exact Nat.lt_log2_self.le
  · have hexponent : (n.toNat.log2 : ℤ) - 52 = ((n.toNat.log2 - 52 : ℕ) : ℤ) := by omega
    rw [hexponent, zpow_natCast, kept, hspacing, mul_comm]
    push_cast
    rfl

/-- **The number for a word is what is kept of it.** -/
theorem ofWord_exact (n : UInt64) :
    (ofWord n).negative = false ∧ (ofWord n).isFinite = true ∧ (ofWord n).magnitude = kept n := by
  -- zero has no leading one, and no parts to be put together
  by_cases hzero : n.toNat = 0
  · have hn : n = 0 := UInt64.toNat_inj.mp hzero
    have hmagnitude : (ofWord 0).magnitude = 0 := by
      rw [magnitude, (significand_eq_zero_iff _).mpr (by decide), Nat.cast_zero, zero_mul]
    rw [hn, hmagnitude, kept_of_le (by decide)]
    exact ⟨by decide, by decide, rfl⟩
  · obtain ⟨s, hrounded⟩ : ∃ s, Rounded n s := by
      by_cases hroom : n.toNat.log2 ≤ 52
      · exact ⟨_, rounded_of_room hzero hroom⟩
      · exact ⟨_, rounded_of_overlong hzero hroom⟩
    -- a word has at most sixty-four places, so its exponent is a normal one
    have hparts : Parts (n.toNat.log2 + 1023) s := by
      have htop : n.toNat.log2 < 64 := (Nat.log2_lt hzero).mpr n.toNat_lt
      exact ⟨by omega, by omega, hrounded.leading, hrounded.carry⟩
    have hexponent : ((n.toNat.log2 + 1023 : ℕ) : ℤ) - 1075 = n.toNat.log2 - 52 := by omega
    rw [hrounded.ofWord_eq, ← hrounded.value, ← hexponent]
    exact ⟨hparts.negative_assembled, hparts.isFinite_assembled, hparts.magnitude_assembled⟩

/-! ### What is written for a word -/

/-- A whole number is written with zeros for its thousandths. -/
theorem fixed_of_whole {x : Binary64} {d : ℕ} (hsign : x.negative = false)
    (hwhole : x.magnitude = d) : x.fixed = Decimal.natural d ++ ".000" := by
  -- a thousand times a whole number is whole, and the nearest to itself
  have hthousandths : x.thousandths = 1000 * d := by
    have hnearest := x.nearest_thousandths
    have hexact : Nearest (1000 * x.magnitude) ((1000 * d : ℕ) : ℤ) := by
      rw [hwhole]
      exact_mod_cast nearest_intCast ((1000 * d : ℕ) : ℤ)
    exact_mod_cast hnearest.unique hexact
  have hzeros : String.ofList (Decimal.padded 3 0) = "000" := by
    rw [Decimal.padded, Decimal.digits]
    rfl
  rw [fixed, hsign, hthousandths, thousandthsText, Nat.mul_div_cancel_left d (by decide),
    Nat.mul_mod_right, hzeros, String.append_assoc]
  exact String.empty_append

theorem fixed_ofWord (n : UInt64) : (ofWord n).fixed = Decimal.natural (kept n) ++ ".000" := by
  obtain ⟨hsign, -, hwhole⟩ := ofWord_exact n
  exact fixed_of_whole hsign hwhole

end MetricCourier.Binary64
