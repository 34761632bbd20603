import MetricCourier.Delivery.Context
import MetricCourier.Delivery.Worker

/-!
# Pipelines

A pipeline is a delivery station together with what its worker works with: the wrapped sink and
the instrumentation context. Producers submit lines to it and read its counters; it can be asked
to stop, and to wait until it has. It is a sink itself, so that clients can send through it.

## Letting the worker work

`Pipeline.next?` is the next access of the worker, with the answers of the sink and the context
filled in; a worker that finds a line and the stop message waiting takes the line. The sink may
be slow: a `Gate` says how many of its calls can end, and a worker whose call cannot end waits.
`Pipeline.settle` lets the worker work until it can only wait. It comes to that point because each
access makes the station's rank smaller (`rank_of_next?`), so the rank is fuel enough
(`next?_settle`).
-/

namespace MetricCourier

/-- How many calls of the sink can end. -/
inductive Gate
  /-- Any number. -/
  | unlocked
  /-- So many, and no more for the time being. -/
  | admits (permits : Nat)
  deriving DecidableEq, Inhabited

/-- Lets one call end, if the gate allows it. -/
def Gate.pass? : Gate → Option Gate
  | unlocked => some unlocked
  | admits 0 => none
  | admits (n + 1) => some (admits n)

/-- A delivery station with the sink and the context of its worker. -/
structure Pipeline (σ : Type) where
  station : Station
  sink : σ
  context : Context := .none
  gate : Gate := .unlocked
  /-- Where the lines are sent, if the pipeline has a socket of its own. -/
  destination : Option SocketAddress := none

/-- How many lines a queue holds if nothing else is said. -/
def defaultCapacity : Nat := 120000

/-- The name of the worker's thread if nothing else is said. -/
def defaultThreadName : String := "statsd-submitter"

namespace Pipeline

variable {σ : Type}

/-! ### The worker -/

/-- The next access of the worker, unless it can only wait. -/
def next? (wrapped : Sink σ) (p : Pipeline σ) : Option (Pipeline σ) :=
  match p.station.phase with
  | .starting =>
    let (answer, context) := p.context.enter
    (p.station.move (.enter answer)).map fun station => { p with station, context }
  | .waiting =>
    (p.station.move .receiveLine <|> p.station.move .receiveStop).map fun station =>
      { p with station }
  | .sending _ line =>
    p.gate.pass?.bind fun gate =>
      let (call, sink) := wrapped.emit line p.sink
      (p.station.move (.finish call)).map fun station => { p with station, sink, gate }
  | _ => (p.station.move .proceed).map fun station => { p with station }

/-- Lets the worker make up to so many accesses. -/
def run (wrapped : Sink σ) : Nat → Pipeline σ → Pipeline σ
  | 0, p => p
  | fuel + 1, p =>
    match p.next? wrapped with
    | none => p
    | some q => run wrapped fuel q

/-- Lets the worker work until it can only wait. -/
def settle (wrapped : Sink σ) (p : Pipeline σ) : Pipeline σ := p.run wrapped p.station.rank

/-- Lets no further call of the sink end. -/
def hold (p : Pipeline σ) : Pipeline σ := { p with gate := .admits 0 }

/-- Lets any number of calls of the sink end. -/
def unlock (p : Pipeline σ) : Pipeline σ := { p with gate := .unlocked }

/-- Lets up to so many calls of the sink end, and then none; permits that are left when the worker
has settled are lost. -/
def release (wrapped : Sink σ) (permits : Nat) (p : Pipeline σ) : Pipeline σ :=
  ({ p with gate := .admits permits }.settle wrapped).hold

/-! ### Producers -/

/-- Submits a line and tells whether it was accepted. -/
def trySubmit (line : Line) (p : Pipeline σ) : Except Fault Unit × Pipeline σ :=
  let (result, station) := p.station.submit line
  (result.mapError Refusal.fault, { p with station })

/-- Submits a line and does not tell; one that was not accepted shows in the counters only. -/
def submit (line : Line) (p : Pipeline σ) : Pipeline σ := (p.trySubmit line).2

/-- What the pipeline answers as a sink: it has written all of a line that was accepted. -/
def emit (line : Line) (p : Pipeline σ) : Call Reply × Pipeline σ :=
  match p.trySubmit line with
  | (.ok (), next) => (.returned (.wrote line.bytes), next)
  | (.error fault, next) => (.returned (.failed fault.toIo), next)

/-- The pipeline as a sink: its traffic is that of the wrapped sink, and it has no flush of its own. -/
def asSink (wrapped : Sink σ) : Sink (Pipeline σ) where
  emit := emit
  traffic p := wrapped.traffic p.sink

/-! ### Stopping -/

/-- Asks the worker to stop once it has sent what is queued. -/
def stop (p : Pipeline σ) : Pipeline σ := { p with station := p.station.stop }

/-- Is the worker done? -/
def isStopped (p : Pipeline σ) : Bool := p.station.stopped

/-- Waits until the worker is done or can only wait, and tells whether it is done. -/
def wait (wrapped : Sink σ) (p : Pipeline σ) : Bool × Pipeline σ :=
  if p.isStopped then (true, p)
  else
    let settled := p.settle wrapped
    match settled.station.receiveDone with
    | some station => (true, { settled with station })
    | none => (settled.isStopped, settled)

/-- Asks the worker to stop, waits for it, and tells whether it is done. -/
def shutdown (wrapped : Sink σ) (p : Pipeline σ) : Bool × Pipeline σ := p.stop.wait wrapped

/-! ### Reports -/

/-- The counters. -/
def stats (p : Pipeline σ) : Stats := p.station.stats

/-- The traffic of the wrapped sink. -/
def sinkTraffic (wrapped : Sink σ) (p : Pipeline σ) : Traffic := wrapped.traffic p.sink

/-- The fields of the counters with their values. -/
def statsText (s : Stats) : String :=
  "PipelineStats \x7b submitted: " ++ Decimal.natural s.submitted.toNat ++
    ", dropped: " ++ Decimal.natural s.dropped.toNat ++
    ", drained: " ++ Decimal.natural s.drained.toNat ++
    ", failed: " ++ Decimal.natural s.failed.toNat ++
    ", panics: " ++ Decimal.natural s.restarts.toNat ++
    ", queued: " ++ Decimal.natural s.queued.toNat ++ " \x7d"

/-- A description of the pipeline: its destination and its counters. -/
def description (p : Pipeline σ) : String :=
  "DeliveryPipeline \x7b destination: " ++ SocketAddress.optionText p.destination ++
    ", stats: " ++ statsText p.stats ++ " \x7d"

end Pipeline

end MetricCourier
