import MetricCourier.Line
import MetricCourier.Sink.Traffic

/-!
# Sinks

A sink takes lines and sends them somewhere. It is given by what its calls do to its state: for
each line it answers with the bytes written or with a fault, and a call may also unwind, in which
case nobody gets an answer.

A sink may treat a line that is handed over for good (`emitLine`) differently from one that is only
shown to it (`emit`), may have something to flush, and may count its traffic. Where nothing else is
said, both ways of emitting are one, flushing does nothing and the counts are zero.
-/

namespace MetricCourier

/-- How a call ended: it returned something, or it unwound its caller. -/
inductive Call (α : Type)
  | returned (value : α)
  | unwound
  deriving DecidableEq

namespace Call

/-- The bytes that the call wrote, if it returned and did not fail. -/
def written? : Call Reply → Option UInt64
  | returned (.wrote bytes) => some bytes
  | _ => none

/-- Did the call return a fault? -/
def isFailure : Call Reply → Bool
  | returned (.failed _) => true
  | _ => false

/-- Did the call unwind? -/
def isUnwound : Call Reply → Bool
  | unwound => true
  | _ => false

end Call

/-- A sink with states in `σ`. -/
structure Sink (σ : Type) where
  /-- Sends a line that stays the caller's. -/
  emit : Line → σ → Call Reply × σ
  /-- Sends a line that is handed over. -/
  emitLine : Line → σ → Call Reply × σ := emit
  /-- Sends whatever was put aside. -/
  flush : σ → Except IoFault Unit × σ := fun s => (.ok (), s)
  /-- What went through and what did not. -/
  traffic : σ → Traffic := fun _ => {}

/-- The bytes of a line, as a sink counts them. -/
def Line.bytes (line : Line) : UInt64 := UInt64.ofNat line.byteLength

namespace Sink

/-- The sink that discards every line and has written nothing of it. -/
def discard : Sink Unit where
  emit _ s := (.returned (.wrote 0), s)

/-- The sink that discards every line and says it has written all of it. -/
def measure : Sink Unit where
  emit line s := (.returned (.wrote line.bytes), s)

end Sink

end MetricCourier
