import MetricCourier.Encoding.Validity

/-!
# The values that clients take

A counter takes whole numbers with a sign. A timer takes milliseconds or a span of time, of which
the whole milliseconds count; a span of more milliseconds than a word holds is refused. Gauges
and histograms take double precision numbers or words, of which the nearest double precision number
is taken.
-/

namespace MetricCourier

/-- A span of time. -/
structure Span where
  seconds : UInt64
  nanoseconds : Nat
  deriving DecidableEq, Inhabited

/-- The whole milliseconds of a span. -/
def Span.milliseconds (s : Span) : Nat :=
  (s.seconds.toNat * 1000000000 + s.nanoseconds) / 1000000

/-- A value that a timer takes. -/
inductive TimerValue
  | milliseconds (n : UInt64)
  | span (s : Span)
  deriving DecidableEq

/-- The fault for a value that no word holds. -/
def overflowFault : Fault := .described .invalidObservation "u64 overflow"

/-- The milliseconds of a timer's value. -/
def TimerValue.toWord : TimerValue → Except Fault UInt64
  | milliseconds n => .ok n
  | span s =>
    if s.milliseconds < UInt64.size then .ok (UInt64.ofNat s.milliseconds)
    else .error overflowFault

/-- A value that a gauge or a histogram takes. -/
inductive LevelValue
  | number (x : Binary64)
  | word (n : UInt64)
  deriving DecidableEq

/-- The double precision number for a gauge's or a histogram's value. -/
def LevelValue.toNumber : LevelValue → Binary64
  | number x => x
  | word n => .ofWord n

end MetricCourier
