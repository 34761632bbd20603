import MetricCourier.Encoding.Basic
import MetricCourier.Sink.Basic

/-!
# Clients

A client encodes observations and sends their lines through a sink. An observation that cannot be
encoded is the caller's fault and is returned to the caller; nothing is sent. A line that the sink
does not take is nobody's fault who could do anything about it there and then: it goes to the
client's fault handler, and the caller is told that all is well.

A handler is given by what it does to a state of its own, and `World` is that state beside the
sink's. If the sink unwinds, the client's call does too.
-/

namespace MetricCourier

/-- A client of a sink with states in `σ`, whose fault handler has states in `η`. -/
structure Client (σ η : Type) where
  sink : Sink σ
  /-- What the fault handler does. -/
  handle : Fault → η → η

/-- The states of a client's sink and of its fault handler. -/
structure World (σ η : Type) where
  sink : σ
  handler : η

namespace Client

variable {σ η : Type}

/-- A client whose faults nobody handles. -/
def ofSink (sink : Sink σ) : Client σ Unit := { sink, handle := fun _ _ => () }

/-- A client whose handler records the faults, the newest first. -/
def recording (sink : Sink σ) : Client σ (List Fault) := { sink, handle := List.cons }

/-- Gives a fault to the handler. -/
def consume (c : Client σ η) (fault : Fault) (w : World σ η) : World σ η :=
  { w with handler := c.handle fault w.handler }

/-- Encodes an observation at the given time and sends its line. -/
def submit (c : Client σ η) (now : Instant) (observation : Observation) (w : World σ η) :
    Call (Except Fault Unit) × World σ η :=
  match observation.encode now with
  | .error flaw => (.returned (.error flaw.fault), w)
  | .ok line =>
    let (call, sink) := c.sink.emitLine line w.sink
    let w := { w with sink }
    match call with
    | .returned (.wrote _) => (.returned (.ok ()), w)
    | .returned (.failed fault) => (.returned (.ok ()), c.consume (.ofIo fault) w)
    | .unwound => (.unwound, w)

/-- Flushes the sink; a fault is returned and not handled. -/
def flush (c : Client σ η) (w : World σ η) : Except Fault Unit × World σ η :=
  let (result, sink) := c.sink.flush w.sink
  (result.mapError Fault.ofIo, { w with sink })

/-- A description of a client, which tells nothing about its parts. -/
def description (_ : Client σ η) : String := "StatsdClient \x7b sink: ..., errors: ... \x7d"

end Client

end MetricCourier
