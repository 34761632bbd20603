import MetricCourier.Encoding.Basic
import MetricCourier.Proofs.Encoding.Clauses
import MetricCourier.Proofs.Number.Exact

/-!
# Floats in fixed point

Whatever double precision number a metric carries, as its value or as its sample rate, its line has
it in fixed point with three decimals, correctly rounded. What that means is said here without a
word on how it is computed: a `Numeral` is the text of such a number taken apart, with the number
that its digits denote, and `Numeral.Rounds` says that among all multiples of one thousandth this
one is nearest to the exact value, with an even last digit if another one is equally near, and that
the sign is that of the float, also where nothing else is left of it.

Counted in thousandths this is `Rounding.Nearest` (`Numeral.rounds_iff`). So a float has one such
number, the order of two floats is not turned around (`Numeral.Rounds.mono`), and two floats are
written alike exactly if one numeral is both (`Binary64.fixed_eq_iff`).

A sample rate is not always written. That none is for a rate that is zero or less or not a number is
`Binary64.writtenRate_eq_none_iff`.
-/

namespace MetricCourier

/-- A number as it is written in fixed point with three decimals. -/
structure Numeral where
  /-- Is there a minus sign? -/
  negative : Bool
  /-- The digits before the point. -/
  whole : List Char
  /-- The digits after it. -/
  places : List Char
  whole_ne_nil : whole ≠ []
  isDigit_whole : ∀ c ∈ whole, Decimal.isDigit c = true
  /-- A zero comes first only if it is the only digit before the point. -/
  whole_of_zero : whole.head? = some '0' → whole = ['0']
  length_places : places.length = 3
  isDigit_places : ∀ c ∈ places, Decimal.isDigit c = true

namespace Numeral

/-- The text of a numeral. -/
def text (n : Numeral) : String :=
  (if n.negative then "-" else "") ++ String.ofList n.whole ++ "." ++ String.ofList n.places

/-- The number that a numeral denotes. -/
def number (n : Numeral) : ℚ :=
  (if n.negative then -1 else 1) * (Decimal.value n.whole + Decimal.value n.places / 1000)

/-- The last digit of a numeral. -/
def lastDigit (n : Numeral) : ℕ := Decimal.value n.places % 10

/-- The numeral is the float correctly rounded. -/
structure Rounds (n : Numeral) (x : Binary64) : Prop where
  /-- There is a minus sign exactly if the sign bit is set. -/
  sign : n.negative = x.negative
  /-- No multiple of one thousandth is nearer. -/
  near : ∀ k : ℤ, |n.number - x.value| ≤ |(k : ℚ) / 1000 - x.value|
  /-- If another one is equally near the last digit is even. -/
  even : ∀ k : ℤ, (k : ℚ) / 1000 ≠ n.number →
    |(k : ℚ) / 1000 - x.value| = |n.number - x.value| → Even n.lastDigit

/-! ### One text, one numeral -/

/-- The digits before the point begin with a digit, so a minus sign is the sign. -/
theorem head?_text (n : Numeral) : n.text.toList.head? = some '-' ↔ n.negative = true := by
  obtain ⟨c, cs, hwhole⟩ := List.exists_cons_of_ne_nil n.whole_ne_nil
  have hc : c ≠ '-' := by
    rintro rfl
    have hdigit := n.isDigit_whole '-' (hwhole ▸ List.mem_cons_self)
    cases hdigit
  cases h : n.negative <;> simp [text, h, hwhole, hc]

/-- A text is that of one numeral. -/
theorem text_injective {n k : Numeral} (h : n.text = k.text) : n = k := by
  have hsign : n.negative = k.negative := by
    rw [Bool.eq_iff_iff, ← head?_text, ← head?_text, h]
  have hpoint : ∀ k : Numeral, '.' ∉ (String.ofList k.whole).toList := by
    intro k hmem
    rw [String.toList_ofList] at hmem
    cases k.isDigit_whole '.' hmem
  -- behind the same sign the texts are cut at the point
  rw [text, text, hsign, String.append_assoc, String.append_assoc, String.append_assoc,
    String.append_assoc, String.append_right_inj] at h
  obtain ⟨hwhole, hrest⟩ :=
    cut_at_mark (hpoint n) (hpoint k) (endsAt_append rfl) (endsAt_append rfl) h
  have hplaces := (String.append_right_inj _).mp hrest
  cases n
  cases k
  cases hsign
  cases String.ofList_injective hwhole
  cases String.ofList_injective hplaces
  rfl

open Rounding

/-! ### Counted in thousandths -/

/-- The number in thousandths. -/
def thousandths (n : Numeral) : ℤ :=
  (if n.negative then -1 else 1) * (1000 * Decimal.value n.whole + Decimal.value n.places : ℕ)

theorem number_eq (n : Numeral) : n.number = n.thousandths / 1000 := by
  unfold number thousandths
  push_cast
  split <;> ring

theorem even_lastDigit_iff (n : Numeral) : Even n.lastDigit ↔ Even n.thousandths := by
  -- ten and a thousand are even, so the last digit decides
  have heven : Even n.lastDigit ↔
      Even (1000 * Decimal.value n.whole + Decimal.value n.places) := by
    rw [lastDigit, Nat.even_iff, Nat.even_iff]
    omega
  rw [heven, thousandths]
  split
  · rw [neg_one_mul, even_neg, Int.even_coe_nat]
  · rw [one_mul, Int.even_coe_nat]

/-- A numeral is correctly rounded if its thousandths are. -/
theorem rounds_iff {n : Numeral} {x : Binary64} :
    n.Rounds x ↔ n.negative = x.negative ∧ Nearest (1000 * x.value) n.thousandths := by
  have hcount : 1000 * x.value = x.value / (1 / 1000) := by ring
  rw [hcount, nearest_div_iff (by norm_num)]
  -- the unit is one thousandth
  simp only [mul_one_div, ← number_eq]
  have hne : ∀ k : ℤ, k ≠ n.thousandths ↔ (k : ℚ) / 1000 ≠ n.number := by
    intro k
    rw [number_eq, ne_eq, ne_eq, div_left_inj' (by norm_num), Int.cast_inj]
  -- field by field: the signs are the same in both, and the rest is counted in thousandths
  constructor
  · intro h
    exact ⟨h.sign, h.near, fun k hk htie =>
      n.even_lastDigit_iff.mp (h.even k ((hne k).mp hk) htie)⟩
  · rintro ⟨hsign, hnear, heven⟩
    exact ⟨hsign, hnear, fun k hk htie =>
      n.even_lastDigit_iff.mpr (heven k ((hne k).mpr hk) htie)⟩

/-- **The order of two floats is not turned around.** -/
theorem Rounds.mono {m n : Numeral} {x y : Binary64} (hm : m.Rounds x) (hn : n.Rounds y)
    (h : x.value ≤ y.value) : m.number ≤ n.number := by
  have hthousandths : m.thousandths ≤ n.thousandths :=
    (rounds_iff.mp hm).2.mono (rounds_iff.mp hn).2 (by linarith)
  rw [number_eq, number_eq]
  have hcast : (m.thousandths : ℚ) ≤ n.thousandths := by exact_mod_cast hthousandths
  linarith

/-! ### What is written for a float -/

/-- The numeral for so many thousandths with a sign. -/
def ofThousandths (negative : Bool) (t : ℕ) : Numeral where
  negative
  whole := Decimal.digits (t / 1000)
  places := Decimal.padded 3 (t % 1000)
  whole_ne_nil := Decimal.digits_ne_nil _
  isDigit_whole _ := Decimal.isDigit_of_mem_digits
  whole_of_zero h := by
    rw [Decimal.eq_zero_of_head_digits h, Decimal.digits]
    rfl
  length_places := Decimal.length_padded (by decide) (Nat.mod_lt _ (by decide))
  isDigit_places _ := Decimal.isDigit_of_mem_padded

theorem text_ofThousandths (negative : Bool) (t : ℕ) :
    (ofThousandths negative t).text =
      (if negative then "-" else "") ++ Binary64.thousandthsText t := by
  rw [Binary64.thousandthsText, Decimal.natural, ← String.append_assoc, ← String.append_assoc]
  rfl

theorem thousandths_ofThousandths (negative : Bool) (t : ℕ) :
    (ofThousandths negative t).thousandths = (if negative then -1 else 1) * (t : ℤ) := by
  unfold thousandths ofThousandths
  simp only [Decimal.value_digits, Decimal.value_padded, Nat.div_add_mod]

/-- **Fixed point is correctly rounded**, and cannot be read otherwise. -/
theorem exists_rounds (x : Binary64) :
    ∃ n : Numeral, n.Rounds x ∧ ∀ k : Numeral, k.text = x.fixed ↔ k = n := by
  have htext := text_ofThousandths x.negative x.thousandths
  refine ⟨ofThousandths x.negative x.thousandths, rounds_iff.mpr ⟨rfl, ?_⟩,
    fun k => ⟨fun hk => text_injective (hk.trans htext.symm), fun hk => hk ▸ htext⟩⟩
  have hnearest := x.nearest_thousandths
  -- the magnitude is rounded first, and the sign put before it; ties go to even either way
  rw [thousandths_ofThousandths, Binary64.value]
  split
  · rw [neg_one_mul, mul_neg]
    exact hnearest.neg
  · rwa [one_mul]

end Numeral

/-! ### Floats that are written alike -/

namespace Numeral

/-- A numeral that is the float correctly rounded has as many thousandths as are written. -/
theorem Rounds.thousandths_eq {n : Numeral} {x : Binary64} (h : n.Rounds x) :
    n.thousandths = (if x.negative then -1 else 1) * (x.thousandths : ℤ) := by
  obtain ⟨k, hk, htext⟩ := exists_rounds x
  -- the numeral that is written is correctly rounded as well, and there is only one
  have hwritten : ofThousandths x.negative x.thousandths = k :=
    (htext _).mp (text_ofThousandths x.negative x.thousandths)
  rw [← thousandths_ofThousandths, hwritten]
  exact (rounds_iff.mp h).2.unique (rounds_iff.mp hk).2

end Numeral

namespace Binary64

variable {r r' : Binary64}

/-- Two floats come to the same number when they are rounded to thousandths, sign included. -/
def RoundsAlike (x y : Binary64) : Prop := ∃ n : Numeral, n.Rounds x ∧ n.Rounds y

/-- **Floats are written alike exactly if they come to the same number.** -/
theorem fixed_eq_iff {x y : Binary64} : x.fixed = y.fixed ↔ x.RoundsAlike y := by
  constructor
  · -- the one numeral that stands for the one float stands for the other
    intro h
    obtain ⟨n, hn, htext⟩ := Numeral.exists_rounds x
    obtain ⟨k, hk, hktext⟩ := Numeral.exists_rounds y
    have hsame : n = k := (hktext n).mp (((htext n).mpr rfl).trans h)
    exact ⟨n, hn, hsame ▸ hk⟩
  · rintro ⟨n, hx, hy⟩
    have hsign : x.negative = y.negative := hx.sign.symm.trans hy.sign
    have hcount := hx.thousandths_eq.symm.trans hy.thousandths_eq
    -- the sign is the same, so the magnitudes are
    have hmagnitude : x.thousandths = y.thousandths := by
      rw [hsign] at hcount
      split at hcount <;> omega
    rw [fixed, fixed, hsign, hmagnitude]

/-! ### Rates that are written -/

/-- As a sample rate the number says that nothing was left out: it is none, or zero or less and
finite. -/
def Unsampled (r : Binary64) : Prop := r.isNaN = true ∨ r.isFinite = true ∧ r.value ≤ 0

instance (r : Binary64) : Decidable r.Unsampled :=
  inferInstanceAs (Decidable (r.isNaN = true ∨ r.isFinite = true ∧ r.value ≤ 0))

theorem Unsampled.isInfinite (h : r.Unsampled) : r.isInfinite = false := by
  obtain hnan | ⟨hfinite, -⟩ := h
  · cases hinfinite : r.isInfinite with
    | false => rfl
    | true =>
      -- the exponents of both are the same, the fractions are not
      simp_all [Binary64.isInfinite, isNaN]
  · rw [isFinite_eq, Bool.and_eq_true] at hfinite
    simpa using hfinite.1

theorem writtenRate_eq_none_iff (h : r.isInfinite = false) :
    writtenRate r = none ↔ r.Unsampled := by
  have hwritten : writtenRate r = none ↔ ¬ r.isPositive = true := by simp [writtenRate]
  rw [hwritten, Unsampled]
  -- only a rate that is a number can be compared with zero
  cases hnan : r.isNaN with
  | true => simp [isPositive, hnan]
  | false =>
    have hfinite : r.isFinite = true := by simp [isFinite_eq, h, hnan]
    simp [isPositive_iff hfinite, hfinite]

/-- Two sample rates say the same: both say that nothing was left out, or neither does and they come
to the same number. -/
def SaysSame (r r' : Binary64) : Prop :=
  r.Unsampled ∧ r'.Unsampled ∨ ¬ r.Unsampled ∧ ¬ r'.Unsampled ∧ r.RoundsAlike r'

/-- What is written of a rate is what it says. -/
theorem writtenRate_eq_iff (h : r.isInfinite = false) (h' : r'.isInfinite = false) :
    writtenRate r = writtenRate r' ↔ r.SaysSame r' := by
  have hnone := writtenRate_eq_none_iff h
  have hnone' := writtenRate_eq_none_iff h'
  -- a rate that is written is written in fixed point
  have hsome : ∀ x : Binary64, writtenRate x ≠ none → writtenRate x = some x.fixed := by
    intro x hx
    rw [writtenRate] at hx ⊢
    split
    · rfl
    · next hpositive => exact absurd (if_neg hpositive) hx
  -- either rate may be left out
  by_cases hu : r.Unsampled <;> by_cases hu' : r'.Unsampled
  · simp [SaysSame, hu, hu', hnone.mpr hu, hnone'.mpr hu']
  · simp [SaysSame, hu, hu', hnone.mpr hu, eq_comm, hnone']
  · simp [SaysSame, hu, hu', hnone'.mpr hu', hnone]
  · rw [hsome r (hnone.not.mpr hu), hsome r' (hnone'.not.mpr hu'), Option.some.injEq, fixed_eq_iff]
    simp [SaysSame, hu, hu']

end Binary64

/-! ### What a line says of its floats -/

namespace Metric

/-- The float that a metric observes. -/
def level? : Metric → Option Binary64
  | gauge _ value _ | histogram _ value _ => some value
  | _ => none

/-- The sample rate of a metric that can be sampled. -/
def sampleRate? : Metric → Option Binary64
  | count _ _ options | timing _ _ options | histogram _ _ options => some options.sampleRate
  | _ => none

variable {m : Metric}

theorem value_of_level? {v : Binary64} (h : m.level? = some v) : m.plain.value = v.fixed := by
  cases m with
  | gauge name value tags | histogram name value options => cases h; rfl
  | _ => cases h

theorem rate_of_sampleRate? {r : Binary64} (h : m.sampleRate? = some r) :
    m.plain.rate = writtenRate r := by
  cases m with
  | count name delta options | timing name ms options | histogram name value options =>
    cases h
    rfl
  | _ => cases h

/-- A metric that has a line is not sampled at an infinite rate. -/
theorem isInfinite_of_encode {line : Line} {r : Binary64} (h : m.encode = .ok line)
    (hr : m.sampleRate? = some r) : r.isInfinite = false := by
  -- a line means that nothing was found wrong, the rate included
  have hnone : m.flaw? = none := by
    rw [encode] at h
    split at h
    · cases h
    · assumption
  cases m with
  | count name delta options | timing name ms options | histogram name value options =>
    cases hr
    by_contra hinfinite
    simp [flaw?, Flaw.when, hinfinite] at hnone
  | _ => cases hr

/-- A metric with a name and with floats that can be written has a line. -/
theorem encode_of_floats (hname : m.plain.name ≠ "")
    (hfloat : m.level? ≠ none ∨ m.sampleRate? ≠ none)
    (hlevel : ∀ v, m.level? = some v → v.isFinite = true)
    (hrate : ∀ r, m.sampleRate? = some r → r.isInfinite = false) :
    m.encode = .ok ⟨m.plain.render⟩ := by
  -- each metric checks its name first and then its floats; a set has neither a level nor a rate
  have hnone : m.flaw? = none := by
    have hempty : m.plain.name.isEmpty = false := by simpa using hname
    cases m with
    | count name delta options | timing name ms options =>
      change name.isEmpty = false at hempty
      simp [flaw?, Flaw.when, hempty, hrate _ rfl]
    | gauge name value tags =>
      change name.isEmpty = false at hempty
      simp [flaw?, Flaw.when, hempty, hlevel _ rfl]
    | histogram name value options =>
      change name.isEmpty = false at hempty
      simp [flaw?, Flaw.when, hempty, hlevel _ rfl, hrate _ rfl]
    | unique name member tags => simp [level?, sampleRate?] at hfloat
  rw [encode, hnone]

/-- **Floats are written correctly rounded.** A gauge or a histogram with a name and a finite value,
and every metric with a name and a sample rate that is not infinite, has a line; its value, if that
is a float, and its sample rate, if that is positive, stand there as numerals that are the floats
correctly rounded. Of two such numerals the one for the lesser float is not greater. -/
theorem floats_correctly_rounded (hname : m.plain.name ≠ "")
    (hfloat : m.level? ≠ none ∨ m.sampleRate? ≠ none)
    (hlevel : ∀ v, m.level? = some v → v.isFinite = true)
    (hrate : ∀ r, m.sampleRate? = some r → r.isInfinite = false) :
    (∃ line, m.encode = .ok line ∧
      line.text = m.plain.name ++ ":" ++ m.plain.value ++ "|" ++ m.plain.code ++
        rateClause m.plain.rate ++ tagsClause m.plain.tags) ∧
    (∀ v, m.level? = some v →
      ∃ n : Numeral, n.Rounds v ∧ ∀ k : Numeral, k.text = m.plain.value ↔ k = n) ∧
    (∀ r, m.sampleRate? = some r → r.isFinite = true → 0 < r.value →
      ∃ n : Numeral, n.Rounds r ∧ ∀ k : Numeral, some k.text = m.plain.rate ↔ k = n) ∧
    ∀ (v w : Binary64) (n k : Numeral), n.Rounds v → k.Rounds w → v.value ≤ w.value →
      n.number ≤ k.number := by
  refine ⟨⟨_, encode_of_floats hname hfloat hlevel hrate, rfl⟩, ?_, ?_, ?_⟩
  · intro v hv
    rw [value_of_level? hv]
    exact Numeral.exists_rounds v
  · intro r hr hfinite hpos
    -- only a positive rate is written at all
    have hwritten : writtenRate r = some r.fixed :=
      if_pos ((Binary64.isPositive_iff hfinite).mpr hpos)
    simp only [rate_of_sampleRate? hr, hwritten, Option.some.injEq]
    exact Numeral.exists_rounds r
  · intro v w n k hn hk hle
    exact hn.mono hk hle

/-- A histogram with a negative value half way between two thousandths, sampled at a rate half way
between two as well. -/
def halfways : Metric :=
  .histogram "load" ⟨0xBFB0000000000000⟩ { sampleRate := ⟨0x3FC8000000000000⟩ }

/-- Both floats of such a histogram are rounded to an even last digit, the one down and the other
up. -/
theorem halfways_rounded :
    halfways.encode.toOption = some ⟨"load:-0.062|h|@0.188"⟩ ∧
      ∃ n k : Numeral, n.text = "-0.062" ∧ n.Rounds ⟨0xBFB0000000000000⟩ ∧
        k.text = "0.188" ∧ k.Rounds ⟨0x3FC8000000000000⟩ ∧ n.number ≤ k.number := by
  have hvalue : halfways.plain.value = "-0.062" := by decide +kernel
  have hwritten : halfways.plain.rate = some "0.188" := by decide +kernel
  -- the numerals are taken from the general theorem, and only the texts are computed
  obtain ⟨⟨line, hline, htext⟩, hlevels, hrates, horder⟩ :=
    floats_correctly_rounded (m := halfways) (by decide) (Or.inl nofun)
      (by rintro v ⟨⟩; decide) (by rintro r ⟨⟩; decide)
  obtain ⟨n, hn, hntext⟩ := hlevels _ rfl
  obtain ⟨k, hk, hktext⟩ := hrates _ rfl (by decide) (by decide +kernel)
  have hk' : some k.text = halfways.plain.rate := (hktext k).mpr rfl
  rw [hwritten] at hk'
  refine ⟨?_, n, k, ((hntext n).mpr rfl).trans hvalue, hn, Option.some.inj hk', hk,
    horder _ _ n k hn hk (by decide +kernel)⟩
  rw [hvalue, hwritten] at htext
  rw [hline, Except.toOption, Option.some.injEq]
  exact congrArg Line.mk htext

end Metric

end MetricCourier
