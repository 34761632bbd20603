import MetricCourier.Encoding.Framed
import MetricCourier.Encoding.Validity

/-!
# Encoding

`Observation.encode` turns an observation into its line or names the first flaw that keeps it from
having one. Only an event stamped with the time of its encoding depends on the clock, and only an
event can be too long.
-/

namespace MetricCourier

/-- The line of a metric, or its first flaw. -/
def Metric.encode (m : Metric) : Except Flaw Line :=
  match m.flaw? with
  | some flaw => .error flaw
  | none => .ok ⟨m.plain.render⟩

/-- The line of an event encoded at the given second, or its first flaw. -/
def Event.encode (now : UInt64) (e : Event) : Except Flaw Line :=
  match e.flaw? with
  | some flaw => .error flaw
  | none =>
    let line : Line := ⟨(e.framed now).render⟩
    if line.byteLength > maxEventLength then .error .eventTooLong else .ok line

/-- The line of an observation encoded at the given time, or its first flaw. -/
def Observation.encode (now : Instant) : Observation → Except Flaw Line
  | .metric m => m.encode
  | .event e => e.encode now.seconds

/-- An encoding has succeeded with a line if evaluating it yields the line; unlike the former, the
latter can be decided. -/
theorem Observation.encode_eq_ok_iff {o : Observation} {now : Instant} {line : Line} :
    o.encode now = .ok line ↔ (o.encode now).toOption = some line := by
  cases o.encode now <;> simp [Except.toOption]

end MetricCourier
