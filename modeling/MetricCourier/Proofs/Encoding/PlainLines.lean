import MetricCourier.Proofs.Encoding.FixedPoint

/-!
# What the line of a metric says

A metric's line names it, gives its value and kind, and may add a sample rate and tags. Nothing is
escaped, so a name with a colon or a set member with a bar could be taken for something else; apart
from these a line says one thing only (`plain_unambiguous`), also where the tags look like a rate, a
kind or another line.

The name ends at the colon, the value and the letters of the kind end at a bar, and the rate is a
clause that may be left out before the tags; a numeral holds neither mark. So the parts can be read
off the line (`Plain.render_injective`). The parts say which of the five kinds of metric it is, by
its letters, and a numeral says its number; of a float they say what it comes to in thousandths, and
of a rate that only if it is not one of those that say nothing (`plain_eq_iff`).
-/

namespace MetricCourier

/-! ### The parts of a plain line -/

namespace Plain

/-- The parts that are cut off at a mark do not hold it. -/
structure Markless (p : Plain) : Prop where
  name : ':' ∉ p.name.toList
  value : '|' ∉ p.value.toList
  code : '|' ∉ p.code.toList
  rate : ∀ r ∈ p.rate, '|' ∉ r.toList

variable {p p' : Plain}

/-- The rate is a clause that may be left out, and the tags follow it. -/
theorem render_eq (p : Plain) :
    p.render = p.name ++ (":" ++ (p.value ++ ("|" ++ (p.code ++
      Clause.series [⟨"|@", p.rate⟩] (tagsClause p.tags))))) := by
  have hrate : rateClause p.rate = Clause.render ⟨"|@", p.rate⟩ := by
    cases p.rate <;> rfl
  simp only [render, hrate, String.append_assoc]
  rfl

/-- What a line says can be read off it. -/
theorem render_injective (hp : p.Markless) (hp' : p'.Markless) (h : p.render = p'.render) :
    p = p' := by
  rw [render_eq, render_eq] at h
  have hopenings : Openings ["|@", "|#"] := ⟨by decide, by decide⟩
  -- what follows the kind opens with a bar, whether or not there is a rate
  have hsuffix : ∀ q : Plain,
      Opened ["|@", "|#"] (Clause.series [⟨"|@", q.rate⟩] (tagsClause q.tags)) :=
    fun q => (opened_tagsClause q.tags).append
  have hbarless : ∀ q : Plain, q.Markless → ∀ c ∈ [Clause.mk "|@" q.rate], c.Barless := by
    intro q hq c hc
    rw [List.mem_singleton.1 hc]
    exact hq.rate
  -- name, value and letters are cut off one after the other
  obtain ⟨hname, hcolon⟩ := cut_at_mark hp.name hp'.name (endsAt_append rfl) (endsAt_append rfl) h
  obtain ⟨hvalue, hbar⟩ := cut_at_mark hp.value hp'.value (endsAt_append rfl) (endsAt_append rfl)
    ((String.append_right_inj _).1 hcolon)
  obtain ⟨hcode, hclauses⟩ := cut_at_mark hp.code hp'.code ((hsuffix p).endsAt hopenings.bar)
    ((hsuffix p').endsAt hopenings.bar) ((String.append_right_inj _).1 hbar)
  have hsame : [Clause.mk "|@" p.rate].map Clause.opening =
      [Clause.mk "|@" p'.rate].map Clause.opening := rfl
  -- what is left are the clauses, of the same letters on both sides
  obtain ⟨hrate, htags⟩ := Clause.series_injective hopenings hsame (hbarless p hp)
    (hbarless p' hp') (opened_tagsClause _) (opened_tagsClause _) hclauses
  simp only [List.cons.injEq, Clause.mk.injEq, true_and, and_true] at hrate
  obtain ⟨name, value, code, rate, tags⟩ := p
  obtain ⟨name', value', code', rate', tags'⟩ := p'
  congr 1
  exact tagsClause_injective htags

end Plain

/-! ### What two metrics have to agree on -/

namespace Metric

def name : Metric → String
  | count name _ _ | gauge name _ _ | timing name _ _ | histogram name _ _ | unique name _ _ => name

/-- The member of a set; other metrics have none. -/
def member? : Metric → Option String
  | unique _ member _ => some member
  | _ => none

/-- The name holds no colon, and the member of a set no bar; the tags may hold both. -/
structure Markless (m : Metric) : Prop where
  name : ':' ∉ m.name.toList
  member : ∀ s ∈ m.member?, '|' ∉ s.toList

/-- Two metrics of one kind say the same: they have the same name and the same number or member, or
floats that come to the same number in thousandths; where metrics of the kind can be sampled, both
were sampled at rates that come to the same number, or both say that nothing was left out; and they
have the same tags, where empty tags are none. -/
inductive Agrees : Metric → Metric → Prop
  | count {name : String} {delta : Int64} {options options' : Options}
      (hrate : options.sampleRate.SaysSame options'.sampleRate)
      (htags : options.tags.getD "" = options'.tags.getD "") :
      Agrees (.count name delta options) (.count name delta options')
  | gauge {name : String} {value value' : Binary64} {tags tags' : Option String}
      (hvalue : value.RoundsAlike value') (htags : tags.getD "" = tags'.getD "") :
      Agrees (.gauge name value tags) (.gauge name value' tags')
  | timing {name : String} {milliseconds : UInt64} {options options' : Options}
      (hrate : options.sampleRate.SaysSame options'.sampleRate)
      (htags : options.tags.getD "" = options'.tags.getD "") :
      Agrees (.timing name milliseconds options) (.timing name milliseconds options')
  | histogram {name : String} {value value' : Binary64} {options options' : Options}
      (hvalue : value.RoundsAlike value')
      (hrate : options.sampleRate.SaysSame options'.sampleRate)
      (htags : options.tags.getD "" = options'.tags.getD "") :
      Agrees (.histogram name value options) (.histogram name value' options')
  | unique {name member : String} {tags tags' : Option String}
      (htags : tags.getD "" = tags'.getD "") :
      Agrees (.unique name member tags) (.unique name member tags')

variable {m m' : Metric}

/-- What is written of a metric is what it has to agree on, as long as it is not sampled at an
infinite rate. -/
theorem plain_eq_iff (h : ∀ r, m.sampleRate? = some r → r.isInfinite = false)
    (h' : ∀ r, m'.sampleRate? = some r → r.isInfinite = false) :
    m.plain = m'.plain ↔ m.Agrees m' := by
  constructor
  · intro hplain
    -- metrics of different kinds are told apart by their letters
    cases m with
    | count name delta options =>
      cases m' with
      | count name' delta' options' =>
        simp only [plain, Plain.mk.injEq, true_and, writtenTags_eq_iff,
          Binary64.writtenRate_eq_iff (h _ rfl) (h' _ rfl)] at hplain
        obtain ⟨rfl, hdelta, hrate, htags⟩ := hplain
        obtain rfl := Int64.toInt_inj.1 (Decimal.integer_injective hdelta)
        exact .count hrate htags
      | _ => simp [plain] at hplain
    | gauge name value tags =>
      cases m' with
      | gauge name' value' tags' =>
        simp only [plain, Plain.mk.injEq, true_and, writtenTags_eq_iff,
          Binary64.fixed_eq_iff] at hplain
        obtain ⟨rfl, hvalue, htags⟩ := hplain
        exact .gauge hvalue htags
      | _ => simp [plain] at hplain
    | timing name milliseconds options =>
      cases m' with
      | timing name' milliseconds' options' =>
        simp only [plain, Plain.mk.injEq, true_and, writtenTags_eq_iff,
          Binary64.writtenRate_eq_iff (h _ rfl) (h' _ rfl)] at hplain
        obtain ⟨rfl, hms, hrate, htags⟩ := hplain
        obtain rfl := UInt64.toNat_inj.1 (Decimal.natural_injective hms)
        exact .timing hrate htags
      | _ => simp [plain] at hplain
    | histogram name value options =>
      cases m' with
      | histogram name' value' options' =>
        simp only [plain, Plain.mk.injEq, true_and, writtenTags_eq_iff, Binary64.fixed_eq_iff,
          Binary64.writtenRate_eq_iff (h _ rfl) (h' _ rfl)] at hplain
        obtain ⟨rfl, hvalue, hrate, htags⟩ := hplain
        exact .histogram hvalue hrate htags
      | _ => simp [plain] at hplain
    | unique name member tags =>
      cases m' with
      | unique name' member' tags' =>
        simp only [plain, Plain.mk.injEq, true_and, writtenTags_eq_iff] at hplain
        obtain ⟨rfl, rfl, htags⟩ := hplain
        exact .unique htags
      | _ => simp [plain] at hplain
  · -- parts that agree are written alike
    intro hagree
    cases hagree with
    | count hrate htags | timing hrate htags =>
      simp [plain, (Binary64.writtenRate_eq_iff (h _ rfl) (h' _ rfl)).2 hrate,
        writtenTags_eq_iff.2 htags]
    | gauge hvalue htags =>
      simp [plain, Binary64.fixed_eq_iff.2 hvalue, writtenTags_eq_iff.2 htags]
    | histogram hvalue hrate htags =>
      simp [plain, Binary64.fixed_eq_iff.2 hvalue,
        (Binary64.writtenRate_eq_iff (h _ rfl) (h' _ rfl)).2 hrate, writtenTags_eq_iff.2 htags]
    | unique htags => simp [plain, writtenTags_eq_iff.2 htags]

/-- Neither a numeral nor the letters of a kind hold a mark. -/
theorem Markless.plain (h : m.Markless) : m.plain.Markless := by
  have hfixed : ∀ x : Binary64, '|' ∉ x.fixed.toList :=
    Binary64.notMem_fixed rfl (by decide) (by decide)
  have hrate : ∀ x : Binary64, ∀ r ∈ writtenRate x, '|' ∉ r.toList := by
    intro x r hr
    unfold writtenRate at hr
    split at hr
    · cases hr
      exact hfixed x
    · cases hr
  -- the member of a set is the only value that is not a number
  cases m with
  | count name delta options =>
    exact ⟨h.name, Decimal.notMem_integer rfl (by decide) _, (by decide : '|' ∉ "c".toList),
      hrate _⟩
  | gauge name value tags =>
    exact ⟨h.name, hfixed _, (by decide : '|' ∉ "g".toList), fun _ hr => nomatch hr⟩
  | timing name milliseconds options =>
    exact ⟨h.name, Decimal.notMem_natural rfl _, (by decide : '|' ∉ "ms".toList), hrate _⟩
  | histogram name value options =>
    exact ⟨h.name, hfixed _, (by decide : '|' ∉ "h".toList), hrate _⟩
  | unique name member tags =>
    exact ⟨h.name, h.member member rfl, (by decide : '|' ∉ "s".toList), fun _ hr => nomatch hr⟩

variable {t t' : Instant} {line line' : Line}

theorem text_of_encode (h : (Observation.metric m).encode t = .ok line) :
    line.text = m.plain.render := by
  change m.encode = .ok line at h
  unfold encode at h
  split at h
  · cases h
  · cases h
    rfl

/-- **The plain format is unambiguous.** Two metrics whose names hold no colon and whose members
hold no bar are encoded alike, at whatever times, exactly if they say the same. -/
theorem plain_unambiguous (h : (Observation.metric m).encode t = .ok line)
    (h' : (Observation.metric m').encode t' = .ok line') (hm : m.Markless) (hm' : m'.Markless) :
    line = line' ↔ m.Agrees m' := by
  rw [← plain_eq_iff (fun _ => isInfinite_of_encode h) (fun _ => isInfinite_of_encode h')]
  -- the lines are the same if the parts are, and the parts can be read off the lines
  constructor
  · intro hline
    apply Plain.render_injective hm.plain hm'.plain
    rw [← text_of_encode h, ← text_of_encode h', hline]
  · intro hplain
    have htext : line.text = line'.text := by
      rw [text_of_encode h, text_of_encode h', hplain]
    exact congrArg Line.mk htext

/-- A count whose tags look like the sample rate and the tags of another. -/
def lookalike : Metric := .count "hits" 1 { tags := some "a:b|@0.500" }

/-- A count sampled at the given rate. -/
def sampledAt (bits : UInt64) : Metric :=
  .count "hits" 1 { sampleRate := ⟨bits⟩, tags := some "a:b" }

/-- The count that it looks like was sampled at a rate of one half; the two are told apart by what
comes after the bar. A count sampled at a rate of a quarter is told apart from that, and one at the
next rate above one half is not. -/
theorem lookalike_ne_sampled :
    ∃ line line' line'', (Observation.metric lookalike).encode ⟨0⟩ = .ok line ∧
      (Observation.metric (sampledAt 0x3FE0000000000000)).encode ⟨7⟩ = .ok line' ∧
      (Observation.metric (sampledAt 0x3FD0000000000000)).encode ⟨7⟩ = .ok line'' ∧
      line'.text = "hits:1|c|@0.500|#a:b" ∧ line ≠ line' ∧ line' ≠ line'' ∧
      (sampledAt 0x3FE0000000000000).Agrees (sampledAt 0x3FE0000000000001) := by
  have hline : (Observation.metric lookalike).encode ⟨0⟩ = .ok ⟨"hits:1|c|#a:b|@0.500"⟩ :=
    Observation.encode_eq_ok_iff.2 (by decide +kernel)
  have hhalf : (Observation.metric (sampledAt 0x3FE0000000000000)).encode ⟨7⟩ =
      .ok ⟨"hits:1|c|@0.500|#a:b"⟩ := Observation.encode_eq_ok_iff.2 (by decide +kernel)
  have hquarter : (Observation.metric (sampledAt 0x3FD0000000000000)).encode ⟨7⟩ =
      .ok ⟨"hits:1|c|@0.250|#a:b"⟩ := Observation.encode_eq_ok_iff.2 (by decide +kernel)
  have habove : (Observation.metric (sampledAt 0x3FE0000000000001)).encode ⟨7⟩ =
      .ok ⟨"hits:1|c|@0.500|#a:b"⟩ := Observation.encode_eq_ok_iff.2 (by decide +kernel)
  have hmarks : lookalike.Markless := ⟨by decide, by decide⟩
  have hmarks' : ∀ bits, (sampledAt bits).Markless :=
    fun _ => ⟨(by decide : ':' ∉ "hits".toList), fun _ hs => nomatch hs⟩
  refine ⟨_, _, _, hline, hhalf, hquarter, rfl, fun heq => ?_, fun heq => ?_,
    (plain_unambiguous hhalf habove (hmarks' _) (hmarks' _)).1 rfl⟩
  · -- they would have to agree on their tags
    cases (plain_unambiguous hline hhalf hmarks (hmarks' _)).1 heq with
    | count _ htags => revert htags; decide
  · -- they would have to come to one number, and a quarter comes to another
    cases (plain_unambiguous hhalf hquarter (hmarks' _) (hmarks' _)).1 heq with
    | count hrate _ =>
      obtain ⟨hnone, -⟩ | ⟨-, -, hround⟩ := hrate
      · revert hnone
        decide +kernel
      · revert hround
        rw [← Binary64.fixed_eq_iff]
        decide +kernel

end Metric

end MetricCourier
