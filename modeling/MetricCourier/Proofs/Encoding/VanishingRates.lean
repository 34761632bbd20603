import MetricCourier.Proofs.Encoding.PlainLines

/-!
# Sample rates that vanish

A sample rate of zero says that nothing was left out, and no such rate is written. But whether a
rate is written is decided on the float, and what is written is the float rounded to thousandths. A
positive rate of at most half a thousandth falls between the two: it is written, as `0.000`, which
is the rate zero. `Metric.rate_vanishes_iff` says that this is the only way for it to happen, and
`Metric.faintly_written_zero` that it does.

There is no tie to be looked at, whatever the last digit is: of zero and one thousandth the former
is the even one, and so it is nearest up to the middle and not beyond (`Rounding.Nearest.pos_iff`).
-/

namespace MetricCourier

/-- The numeral of a float is greater than zero if the float is more than half a thousandth. -/
theorem Numeral.Rounds.number_pos_iff {n : Numeral} {x : Binary64} (h : n.Rounds x) :
    0 < n.number ↔ 1 / 2000 < x.value := by
  -- zero is the even neighbour, so from one half on the thousandths are positive
  have hthousandths : 0 < n.number ↔ 0 < n.thousandths := by
    rw [number_eq, div_pos_iff_of_pos_right (by norm_num), Int.cast_pos]
  rw [hthousandths, (rounds_iff.mp h).2.pos_iff]
  constructor <;> intro hlt <;> linarith

/-- Without a sign a numeral is at least zero. -/
theorem Numeral.number_nonneg {n : Numeral} (h : n.negative = false) : 0 ≤ n.number := by
  rw [number, h]
  simp only [Bool.false_eq_true, if_false, one_mul]
  positivity

namespace Metric

variable {m : Metric} {t : Instant} {line : Line} {r : Binary64}

/-- **A sample rate that is written vanishes exactly if it is at most half a thousandth.** A metric
that is sampled and has a line has no rate on it if the rate is no number, zero or negative. Every
other rate stands there as one numeral, which is zero or more, and is more than zero exactly if the
rate is more than half a thousandth. -/
theorem rate_vanishes_iff (h : (Observation.metric m).encode t = .ok line)
    (hr : m.sampleRate? = some r) :
    (m.plain.rate = none ↔ r.Unsampled) ∧
    ∀ x, m.plain.rate = some x →
      line.text = m.plain.name ++ ":" ++ m.plain.value ++ "|" ++ m.plain.code ++ ("|@" ++ x) ++
        tagsClause m.plain.tags ∧
      ∃ n : Numeral, (∀ k : Numeral, k.text = x ↔ k = n) ∧ 0 ≤ n.number ∧
        (0 < n.number ↔ 1 / 2000 < r.value) := by
  have hinfinite := isInfinite_of_encode h hr
  have hrate := rate_of_sampleRate? hr
  refine ⟨by rw [hrate, Binary64.writtenRate_eq_none_iff hinfinite], fun x hx => ⟨?_, ?_⟩⟩
  · -- the clause of the rate is what follows the code
    rw [text_of_encode h, Plain.render, hx]
    rfl
  · -- a rate on the line is the float in fixed point
    rw [hrate, writtenRate] at hx
    split at hx
    · next hpositive =>
      cases hx
      obtain ⟨n, hn, htext⟩ := Numeral.exists_rounds r
      -- the numeral has the sign of the float, and that has none
      have hsign : n.negative = false := by
        have hpos := hpositive
        rw [Binary64.isPositive, Bool.and_eq_true, Bool.and_eq_true] at hpos
        rw [hn.sign]
        simpa using hpos.1.1
      exact ⟨n, htext, Numeral.number_nonneg hsign, hn.number_pos_iff⟩
    · cases hx

/-- A count sampled at the given rate. -/
def hitsAt (bits : UInt64) : Metric := .count "hits" 1 { sampleRate := ⟨bits⟩ }

/-- At a rate of 0.0006 a rate above zero stands on the line, and at 0.0001 there is one that is
not. -/
theorem hitsAt_vanishes :
    (∃ x, (hitsAt 0x3F43A92A30553261).plain.rate = some x ∧
      ∃ n : Numeral, n.text = x ∧ 0 < n.number) ∧
    ∃ x, (hitsAt 0x3F1A36E2EB1C432D).plain.rate = some x ∧
      ∃ n : Numeral, n.text = x ∧ ¬ 0 < n.number := by
  have hline : (Observation.metric (hitsAt 0x3F43A92A30553261)).encode ⟨0⟩ =
      .ok ⟨"hits:1|c|@0.001"⟩ :=
    Observation.encode_eq_ok_iff.mpr (by decide +kernel)
  have hfaint : (Observation.metric (hitsAt 0x3F1A36E2EB1C432D)).encode ⟨0⟩ =
      .ok ⟨"hits:1|c|@0.000"⟩ :=
    Observation.encode_eq_ok_iff.mpr (by decide +kernel)
  have hx : (hitsAt 0x3F43A92A30553261).plain.rate = some "0.001" := by decide +kernel
  have hx' : (hitsAt 0x3F1A36E2EB1C432D).plain.rate = some "0.000" := by decide +kernel
  obtain ⟨-, n, hn, -, hpos⟩ := (rate_vanishes_iff hline rfl).2 _ hx
  obtain ⟨-, k, hk, -, hvanishes⟩ := (rate_vanishes_iff hfaint rfl).2 _ hx'
  -- both numerals are decided by the bound alone
  refine ⟨⟨_, hx, n, (hn n).mpr rfl, hpos.mpr ?_⟩, _, hx', k, (hk k).mpr rfl, fun h => ?_⟩
  · decide +kernel
  · exact absurd (hvanishes.mp h) (by decide +kernel)

/-- A rate of 0.0001, which is greater than zero, stands on the line as the rate zero. -/
theorem faintly_written_zero :
    ∃ line n, (Observation.metric (hitsAt 0x3F1A36E2EB1C432D)).encode ⟨0⟩ = .ok line ∧
      line.text = "hits:1|c" ++ ("|@" ++ Numeral.text n) ∧ n.text = "0.000" ∧ n.number = 0 := by
  refine ⟨⟨"hits:1|c|@0.000"⟩, .ofThousandths false 0,
    Observation.encode_eq_ok_iff.mpr (by decide +kernel), by decide +kernel, by decide +kernel, ?_⟩
  rw [Numeral.number_eq, Numeral.thousandths_ofThousandths]
  norm_num

end Metric

end MetricCourier
