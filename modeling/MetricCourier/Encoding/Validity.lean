import MetricCourier.Fault
import MetricCourier.Observation.Basic

/-!
# What makes an observation unfit to be encoded

An observation is refused for one of seven flaws. Six of them show in its fields and are looked
for in a fixed order, name before value before rate, title before text; the seventh, an event
that is too long, shows only when the line is written. A sample rate that is zero, negative or
not a number is no flaw, since no such rate is written.
-/

namespace MetricCourier

/-- Why an observation cannot be encoded. -/
inductive Flaw
  | emptyName
  | valueNotFinite
  | rateNotFinite
  | emptyMember
  | emptyTitle
  | emptyText
  | eventTooLong
  deriving DecidableEq

/-- The words for a flaw. -/
def Flaw.message : Flaw → String
  | .emptyName => "metric name must not be empty"
  | .valueNotFinite => "metric value must be finite"
  | .rateNotFinite => "sample rate must be finite"
  | .emptyMember => "set member must not be empty"
  | .emptyTitle => "event title must not be empty"
  | .emptyText => "event text must not be empty"
  | .eventTooLong => "maximum event length exceeded"

/-- A flaw as a fault of the library. -/
def Flaw.fault (f : Flaw) : Fault := .described .invalidObservation f.message

/-- The flaw if the condition holds. -/
def Flaw.when (f : Flaw) (unfit : Bool) : Option Flaw := if unfit then some f else none

/-- The first flaw in the fields of a metric. -/
def Metric.flaw? : Metric → Option Flaw
  | .count name _ options | .timing name _ options =>
    Flaw.emptyName.when name.isEmpty <|>
      Flaw.rateNotFinite.when options.sampleRate.isInfinite
  | .gauge name value _ =>
    Flaw.emptyName.when name.isEmpty <|> Flaw.valueNotFinite.when (!value.isFinite)
  | .histogram name value options =>
    Flaw.emptyName.when name.isEmpty <|> Flaw.valueNotFinite.when (!value.isFinite) <|>
      Flaw.rateNotFinite.when options.sampleRate.isInfinite
  | .unique name member _ =>
    Flaw.emptyName.when name.isEmpty <|> Flaw.emptyMember.when member.isEmpty

/-- The first flaw in the fields of an event; its length is not looked at. -/
def Event.flaw? (e : Event) : Option Flaw :=
  Flaw.emptyTitle.when e.title.isEmpty <|> Flaw.emptyText.when e.text.isEmpty

end MetricCourier
