import MetricCourier.Number.Binary64
import MetricCourier.Observation.Event

/-!
# Observations

A program observes metrics and events. A metric is one of five kinds: a counter's change, a
gauge's value, a duration in milliseconds, a histogram's value, or a member of a set. Counters,
timings and histograms may be sampled and carry a sample rate; a rate that is not positive means
that nothing was left out. Tags are a string of the caller's own format.

Names, members and tags are taken as they are: nothing here escapes the characters that the format
reserves.
-/

namespace MetricCourier

/-- The optional parts shared by counters, timings and histograms. -/
structure Options where
  /-- The share of observations that is reported; zero says that all are. -/
  sampleRate : Binary64 := .zero
  tags : Option String := none
  deriving DecidableEq, Inhabited

/-- One observed value under a name. -/
inductive Metric
  | count (name : String) (delta : Int64) (options : Options)
  | gauge (name : String) (value : Binary64) (tags : Option String)
  | timing (name : String) (milliseconds : UInt64) (options : Options)
  | histogram (name : String) (value : Binary64) (options : Options)
  | unique (name : String) (member : String) (tags : Option String)
  deriving DecidableEq

/-- What a program has observed. -/
inductive Observation
  | metric (metric : Metric)
  | event (event : Event)
  deriving DecidableEq

/-- A point in time, in nanoseconds after the epoch; a point before it is negative. -/
structure Instant where
  nanoseconds : Int
  deriving DecidableEq, Inhabited

/-- The whole seconds from the epoch to a point in time, zero for one before the epoch. -/
def Instant.seconds (t : Instant) : UInt64 :=
  UInt64.ofNat (t.nanoseconds.toNat / 1000000000)

end MetricCourier
