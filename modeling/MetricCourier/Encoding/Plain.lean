import MetricCourier.Line
import MetricCourier.Number.Fixed
import MetricCourier.Observation.Basic

/-!
# The plain format of metrics

A metric is written `name:value|code`, then `|@rate` if it was sampled, then `|#tags` if it has
any. `Plain` is what such a line says, with the value and the rate as their texts, and
`Plain.render` is the line; `Metric.plain` says what the line of a metric says.

A rate is written only when it is greater than zero, tags only when they are not empty.
-/

namespace MetricCourier

/-- What the line of a metric says. -/
structure Plain where
  name : String
  /-- The text of the value. -/
  value : String
  /-- The letters for the kind of metric. -/
  code : String
  /-- The text of the sample rate, where one is written. -/
  rate : Option String
  /-- The tags, where they are written. -/
  tags : Option String
  deriving DecidableEq

/-- The tags that are written: empty tags are none. -/
def writtenTags (tags : Option String) : Option String := tags.filter fun t => !t.isEmpty

/-- The clause that ends a line with its tags. -/
def tagsClause : Option String → String
  | none => ""
  | some tags => "|#" ++ tags

/-- The sample rate that is written: only one greater than zero. -/
def writtenRate (rate : Binary64) : Option String :=
  if rate.isPositive then some rate.fixed else none

/-- The clause that says how a metric was sampled. -/
def rateClause : Option String → String
  | none => ""
  | some rate => "|@" ++ rate

/-- The text of a metric's line. -/
def Plain.render (p : Plain) : String :=
  p.name ++ ":" ++ p.value ++ "|" ++ p.code ++ rateClause p.rate ++ tagsClause p.tags

namespace Metric

/-- What the line of a metric says. -/
def plain : Metric → Plain
  | count name delta options =>
    ⟨name, Decimal.integer delta.toInt, "c", writtenRate options.sampleRate,
      writtenTags options.tags⟩
  | gauge name value tags => ⟨name, value.fixed, "g", none, writtenTags tags⟩
  | timing name milliseconds options =>
    ⟨name, Decimal.natural milliseconds.toNat, "ms", writtenRate options.sampleRate,
      writtenTags options.tags⟩
  | histogram name value options =>
    ⟨name, value.fixed, "h", writtenRate options.sampleRate, writtenTags options.tags⟩
  | unique name member tags => ⟨name, member, "s", none, writtenTags tags⟩

/-- The letters for the five kinds of metric. -/
theorem code_mem (m : Metric) : m.plain.code ∈ ["c", "g", "ms", "h", "s"] := by
  cases m <;> simp [plain]

/-- A rate that is written is in fixed point. -/
theorem exists_rate_eq (m : Metric) :
    m.plain.rate = none ∨ ∃ x : Binary64, m.plain.rate = some x.fixed := by
  have hwritten : ∀ x : Binary64,
      writtenRate x = none ∨ ∃ y : Binary64, writtenRate x = some y.fixed := by
    intro x
    unfold writtenRate
    split
    · exact .inr ⟨x, rfl⟩
    · exact .inl rfl
  cases m with
  | count _ _ _ | timing _ _ _ | histogram _ _ _ => exact hwritten _
  | gauge _ _ _ | unique _ _ _ => exact .inl rfl

end Metric

end MetricCourier
