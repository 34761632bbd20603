import MetricCourier.Sink.Basic

/-!
# Sinks that follow a script

To see how a program copes with a failing sink, a sink is made to fail by script: each call of it
takes the next cue, which is to answer something, to unwind, or to pass the line to an inner sink;
past the end of the script every line is passed on. Answers are counted as traffic by the length
of their line; a call that unwinds is not counted. Flushing follows a script of its own.

The sink remembers its calls, so that it can be asked what was sent and what became of it.
-/

namespace MetricCourier

/-- What a scripted sink is to do on one call. -/
inductive Cue
  /-- Pass the line to the inner sink. -/
  | pass
  /-- Answer by oneself. -/
  | answer (reply : Reply)
  /-- Unwind. -/
  | unwind

/-- A sink that follows a script, around an inner sink. -/
structure Scripted (σ : Type) where
  inner : σ
  /-- The cues for the calls to come. -/
  cues : List Cue := []
  /-- For the flushes to come, the fault to answer with or to pass the flush on. -/
  flushCues : List (Option IoFault) := []
  traffic : Traffic := {}
  /-- The lines that were sent and how each call ended, the newest first. -/
  calls : List (Line × Call Reply) := []
  /-- How often the sink was flushed. -/
  flushes : Nat := 0

namespace Scripted

variable {σ : Type}

/-- Does what the next cue says, without counting it. -/
def perform (inner : Sink σ) (line : Line) (s : Scripted σ) : Call Reply × Scripted σ :=
  match s.cues.head?.getD .pass with
  | .pass =>
    let (call, next) := inner.emit line s.inner
    (call, { s with inner := next })
  | .answer reply => (.returned reply, s)
  | .unwind => (.unwound, s)

/-- Sends a line as the next cue says, and counts and remembers what became of it. -/
def emit (inner : Sink σ) (line : Line) (s : Scripted σ) : Call Reply × Scripted σ :=
  let (call, next) := perform inner line s
  let traffic :=
    match call with
    | .returned reply => next.traffic.record reply line.bytes
    | .unwound => next.traffic
  (call, { next with cues := s.cues.tail, traffic, calls := (line, call) :: s.calls })

/-- Flushes as the next cue for flushes says. -/
def flush (inner : Sink σ) (s : Scripted σ) : Except IoFault Unit × Scripted σ :=
  let flushed := { s with flushCues := s.flushCues.tail, flushes := s.flushes + 1 }
  match s.flushCues.head?.join with
  | some fault => (.error fault, flushed)
  | none =>
    let (result, next) := inner.flush s.inner
    (result, { flushed with inner := next })

/-- The sink that follows its script around an inner sink. -/
def sink (inner : Sink σ) : Sink (Scripted σ) where
  emit := emit inner
  flush := flush inner
  traffic s := s.traffic

/-- The calls since they were last asked for, the oldest first. -/
def takeCalls (s : Scripted σ) : List (Line × Call Reply) × Scripted σ :=
  (s.calls.reverse, { s with calls := [] })

end Scripted

end MetricCourier
