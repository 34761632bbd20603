import MetricCourier.Proofs.Client.Canonical
import MetricCourier.Proofs.Number.Words

/-!
# Levels given as words

A gauge and a histogram can be given a word for their value. On the line stands a whole number all the
same, since the double precision number that is taken for the word is one. It is the word itself up to
`2 ^ 53`, and above that the nearest multiple of the spacing that such numbers have there; a greater
word never leads to a lesser number.
-/

namespace MetricCourier

/-- Read as a number, the text for a word says what is kept of it. -/
theorem Numeral.exists_kept (n : UInt64) :
    ∃ k : Numeral, (∀ k' : Numeral, k'.text = (Binary64.ofWord n).fixed ↔ k' = k) ∧
      k.number = Binary64.kept n := by
  obtain ⟨k, hrounds, htext⟩ := exists_rounds (Binary64.ofWord n)
  have hvalue : (Binary64.ofWord n).value = Binary64.kept n := by
    obtain ⟨hsign, -, hmagnitude⟩ := Binary64.ofWord_exact n
    rw [Binary64.value, hsign, hmagnitude]
    rfl
  -- what is kept is a whole number of thousandths, and no other one is as near to it
  have hnear := hrounds.near (1000 * Binary64.kept n)
  have hexact : (((1000 * Binary64.kept n : ℤ) : ℚ)) / 1000 = Binary64.kept n := by
    push_cast
    ring
  rw [hvalue, hexact, sub_self, abs_zero, abs_nonpos_iff, sub_eq_zero] at hnear
  exact ⟨k, htext, hnear⟩

namespace Request

/-- The value of a request to a gauge or to a histogram. -/
def level? : Request → Option LevelValue
  | gauge _ value | gaugeWithTags _ value _ | histogram _ value | histogramWithTags _ value _
  | histogramWithRate _ value _ | histogramWithOptions _ value _ => some value
  | _ => none

variable {request : Request}

/-- The value of a level is converted and observed. -/
theorem observation_of_level? {value : LevelValue} (h : request.level? = some value) :
    ∃ m, request.observation = .ok (.metric m) ∧ m.level? = some value.toNumber := by
  -- the methods that take a level convert it and observe nothing else
  cases request with
  | gauge _ _ | gaugeWithTags _ _ _ | histogram _ _ | histogramWithTags _ _ _
  | histogramWithRate _ _ _ | histogramWithOptions _ _ _ =>
    cases h
    exact ⟨_, rfl, rfl⟩
  | _ => cases h

end Request

namespace Client

open Binary64

variable {σ η : Type} (c : Client σ η)

/-- **A word keeps its magnitude as a level.** Whatever method a gauge or a histogram is given a word
by, what the client submits has a whole number for its value, with zeros for its thousandths, and it has
a line if its key is not empty and its sample rate not infinite. The number is the word up to `2 ^ 53`
and is never more than 1024 off; it is the nearest multiple of the spacing, an even one where two are
equally near. A greater word is not written as a lesser number. -/
theorem words_keep_magnitude :
    (∀ n, Keeps n (kept n) ∧ (n.toNat ≤ 2 ^ 53 → kept n = n.toNat) ∧
      |(kept n : ℤ) - n.toNat| ≤ 1024) ∧
    (∀ n m, n ≤ m → kept n ≤ kept m) ∧
    kept 18446744073709551615 = 18446744073709551616 ∧
    ∀ n request, request.level? = some (.word n) →
      ∃ m, request.observation = .ok (.metric m) ∧
        (∀ now w, c.perform now request w = c.submit now (.metric m) w) ∧
        m.plain.value = Decimal.natural (kept n) ++ ".000" ∧
        (∃ k : Numeral, (∀ k' : Numeral, k'.text = m.plain.value ↔ k' = k) ∧ k.number = kept n) ∧
        (∀ now line, (Observation.metric m).encode now = .ok line →
          line.text = m.plain.name ++ ":" ++ (Decimal.natural (kept n) ++ ".000") ++ "|" ++
            m.plain.code ++ rateClause m.plain.rate ++ tagsClause m.plain.tags) ∧
        (m.plain.name ≠ "" → (∀ r, m.sampleRate? = some r → r.isInfinite = false) →
          ∀ now, ∃ line, (Observation.metric m).encode now = .ok line) := by
  refine ⟨fun n => ⟨keeps_kept n, kept_of_le, ?_⟩, fun n m => kept_mono, by decide, ?_⟩
  · -- the error is half a spacing at most, and no spacing is above 2048
    have hhalf := abs_kept_sub_le n
    have hspacing := spacing_le n
    omega
  · intro n request h
    obtain ⟨m, hobservation, hlevel⟩ := Request.observation_of_level? h
    -- the value that is written is that of the word as a float
    have hvalue : m.plain.value = (ofWord n).fixed := Metric.value_of_level? hlevel
    refine ⟨m, hobservation, fun now w => c.perform_of_observation w hobservation,
      hvalue.trans (fixed_ofWord n), ?_, ?_, ?_⟩
    · rw [hvalue]
      exact Numeral.exists_kept n
    · intro now line hline
      rw [Metric.text_of_encode hline, Plain.render, hvalue, fixed_ofWord]
    · intro hname hrate now
      refine ⟨_, Metric.encode_of_floats hname (.inl ?_) ?_ hrate⟩
      · rw [hlevel]
        exact Option.some_ne_none _
      · intro v hv
        rw [hlevel] at hv
        cases hv
        exact (ofWord_exact n).2.1

/-- The greatest word of all. -/
def fullDepth : Request :=
  .histogramWithRate "depth" (.word 18446744073709551615) ⟨0x3FE0000000000000⟩

/-- The last word that is certain to be kept, the next one, which is half way to the one after it,
and the greatest, which carries. -/
theorem fullDepth_written :
    kept 9007199254740992 = 9007199254740992 ∧
    kept 9007199254740992 ≤ kept 9007199254740993 ∧
    ∃ m line, fullDepth.observation = .ok (.metric m) ∧
      (Observation.metric m).encode ⟨0⟩ = .ok line ∧
      line.text = "depth:18446744073709551616.000|h|@0.500" := by
  obtain ⟨hwords, horder, hgreatest, hlines⟩ := words_keep_magnitude (ofSink Sink.discard)
  obtain ⟨m, hobservation, -, -, -, htext, hline⟩ := hlines _ fullDepth rfl
  have hm : m = .histogram "depth" (ofWord 18446744073709551615)
      { sampleRate := ⟨0x3FE0000000000000⟩ } := by
    cases hobservation
    rfl
  -- the metric is known now, so what is demanded of its name and rate can be checked
  subst hm
  obtain ⟨line, hencode⟩ := hline (by decide) (by rintro r ⟨⟩; decide) ⟨0⟩
  refine ⟨(hwords _).2.1 (by decide), horder _ _ (by decide), _, line, hobservation, hencode, ?_⟩
  rw [htext _ _ hencode, hgreatest]
  decide +kernel

end Client

end MetricCourier
