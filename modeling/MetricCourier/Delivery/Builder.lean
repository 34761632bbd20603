import MetricCourier.Delivery.Pipeline
import MetricCourier.Net.Datagram

/-!
# Building a pipeline

A builder gathers what a pipeline is to be like. A pipeline is built either around a sink of the
caller's own, and then any destination is ignored, or around a socket of its own for the
destination; where no destination was named either, it is found from the environment. A queue
without room for a single line is refused before anything else is looked at.
-/

namespace MetricCourier

/-- What a pipeline is to be like. -/
structure Builder where
  capacity : Nat := defaultCapacity
  /-- Has a sink of the caller's own been named? -/
  hasSink : Bool := false
  destination : Option SocketAddress := none
  context : Context := .none
  threadName : String := defaultThreadName

/-- What a socket of the pipeline's own depends on. -/
structure Environment where
  network : Network
  lookup : Lookup
  /-- The host and port found in the environment. -/
  settings : Settings := {}

namespace Builder

/-- The fault for a queue without room. -/
def noCapacity : Fault :=
  .described .invalidConfiguration "queue capacity must be greater than zero"

/-- Starts a pipeline around a sink; the records are what was logged on the way. -/
def start {σ : Type} (b : Builder) (sink : σ) (destination : Option SocketAddress)
    (records : List LogRecord) : Pipeline σ :=
  let station := records.foldl (fun s record => s.log record) (Station.new b.threadName b.capacity)
  { station := station.log (.started b.threadName b.capacity destination)
    sink
    context := b.context
    destination }

/-- Builds a pipeline around a sink of the caller's own. -/
def buildAround {σ : Type} (b : Builder) (sink : σ) : Except Fault (Pipeline σ) :=
  if b.capacity = 0 then .error noCapacity else .ok (b.start sink none [])

/-- Builds a pipeline with a socket of its own. -/
def build (b : Builder) (env : Environment) : Except Fault (Pipeline Sender) :=
  if b.capacity = 0 then .error noCapacity
  else
    let (address, records) :=
      match b.destination with
      | some address => (address, [])
      | none => Destination.resolve env.lookup env.settings
    match Sender.bind env.network address with
    | .error fault => .error fault
    | .ok sender => .ok (b.start sender (some address) records)

/-- A description of what has been gathered. -/
def description (b : Builder) : String :=
  "DeliveryPipelineBuilder \x7b capacity: " ++ Decimal.natural b.capacity ++
    ", sink: " ++ (if b.hasSink then "Some(\"...\")" else "None") ++
    ", destination: " ++
      (match b.destination with
      | none => "None"
      | some address => "Some(Destination \x7b addr: " ++ address.text ++ " \x7d)") ++
    ", thread_name: " ++ Quoted.quote b.threadName ++ " \x7d"

end Builder

namespace Pipeline

/-- A pipeline that sends to the destination named by the given settings. -/
def ofSettings (env : Environment) (settings : Settings) : Except Fault (Pipeline Sender) :=
  let (address, records) := Destination.resolve env.lookup settings
  match Sender.bind env.network address with
  | .error fault => .error fault
  | .ok sender => .ok (({} : Builder).start sender (some address) records)

/-- A pipeline that sends to the destination named in the environment. -/
def ofEnvironment (env : Environment) : Except Fault (Pipeline Sender) :=
  ofSettings env env.settings

end Pipeline

end MetricCourier
