import MetricCourier.Delivery.Builder

/-!
# Schedules

What happens to a pipeline from outside, one thing after the other: a line is submitted, the call of
the sink that is in flight ends, the worker is asked to stop. The sink is slow, so that a call ends
only when the schedule says so, and ends as it says (`Sink.prompted`); where no call is in flight
there is none to end. Between two occurrences the worker works until it can only wait, so an idle
worker has the next line in hand before anything else happens.

At the end of a schedule the pipeline can be shut down, with a sink that is slow no longer
(`Pipeline.conclude`).
-/

namespace MetricCourier

/-- The sink that is told how its calls end. With nothing left that it was told it writes the
line. -/
def Sink.prompted : Sink (List (Call Reply)) where
  emit
    | line, [] => (.returned (.wrote line.bytes), [])
    | _, call :: rest => (call, rest)

/-- Something that happens to a pipeline from outside. -/
inductive Occurrence
  /-- A line is submitted. -/
  | submission (line : Line)
  /-- The call of the sink that is in flight ends, if there is one. -/
  | completion (call : Call Reply)
  /-- The worker is asked to stop. -/
  | stop

namespace Pipeline

/-- What an occurrence leads to, with the worker settled again. -/
def take (p : Pipeline (List (Call Reply))) : Occurrence → Pipeline (List (Call Reply))
  | .submission line => (p.submit line).settle .prompted
  | .completion call => { p with sink := [call] }.release .prompted 1
  | .stop => p.stop.settle .prompted

/-- What a schedule leads to. -/
def follow (p : Pipeline (List (Call Reply))) (schedule : List Occurrence) :
    Pipeline (List (Call Reply)) :=
  schedule.foldl take p

/-- Shuts the pipeline down, with the calls of the sink ending by themselves and in the given ways,
and tells whether the worker is done. -/
def conclude (outcomes : List (Call Reply)) (p : Pipeline (List (Call Reply))) :
    Bool × Pipeline (List (Call Reply)) :=
  { p with sink := outcomes }.unlock.shutdown .prompted

end Pipeline

/-- The pipeline on a slow sink with which a schedule starts: its worker waits for a line. -/
def Builder.opening (b : Builder) : Pipeline (List (Call Reply)) :=
  (b.start [] none []).hold.settle .prompted

end MetricCourier
