import MetricCourier.Delivery.Station

/-!
# The worker

A worker starts by entering its instrumentation context. Then it serves: it looks at the stop flag,
waits for a line or for the stop message, and delivers the line. Once it is stopped it closes the
queue, delivers what is still in it, says that it is done and leaves the context. Delivering a line
is counting it, handing it to the sink, and, if the sink fails, counting and logging that too. If
the call of the sink unwinds, so does the worker: it leaves the context, and a new worker is started
in its place, which finds the flags as they are.

Each phase of a worker ends with one access to what is shared, so any two of them can have accesses
of producers between them. `Station.move` is the worker's next access. It is a function of the
station and of what the worker learns from outside (`Move`): what the context answers, which of two
messages it receives, how the call of the sink ends.

`Station.rank` bounds how many accesses a worker can make before it can only wait.
-/

namespace MetricCourier.Station

/-! ### What the worker does -/

/-- Leaves the context if it has to be left. -/
def leaveContext (s : Station) : Station :=
  if s.inContext then { s with inContext := false }.note .left else s

/-- Takes the next line out of the queue, to deliver it in the given loop. -/
def takeLine (loop : Loop) (s : Station) : Option Station :=
  s.lines.tryReceive.map fun (line, lines) => { s with lines, phase := .taken loop line }

/-- Takes the stop message. -/
def takeStop (s : Station) : Option Station :=
  s.stopMessage.tryReceive.map fun (_, stopMessage) => { s with stopMessage, phase := .closing }

/-- What the worker learns from outside with its next access. -/
inductive Move
  /-- The context was entered and gave this answer. -/
  | enter (answer : Bool)
  /-- A line was received by the waiting worker. -/
  | receiveLine
  /-- The stop message was received by the waiting worker. -/
  | receiveStop
  /-- The call of the sink ended like this. -/
  | finish (call : Call Reply)
  /-- Nothing: the access depends on the station alone. -/
  | proceed

/-- The access of a worker that depends on the station alone, where its phase has one and the
lock allows it. -/
def proceed (s : Station) : Option Station :=
  match s.phase with
  -- serving, and delivering in either loop
  | .checking => some { s with phase := if s.stopping then .closing else .waiting }
  | .taken loop line => some { s with drained := s.drained + 1, phase := .counted loop line }
  | .counted loop line => some ({ s with phase := .sending loop line }.note (.handed line))
  | .failing loop line fault =>
    some { s with failed := s.failed + 1, phase := .reporting loop line fault }
  | .reporting loop line fault => some ({ s with phase := loop.next }.log (.lineUnsent line fault))
  -- closing the queue and draining it
  | .closing =>
    if s.readers = 0 ∧ s.writer = false then some { s with writer := true, phase := .locked }
    else none
  | .locked => some { s with closed := true, writer := false, phase := .draining }
  | .draining => s.takeLine .draining <|> some { s with phase := .announcing }
  -- saying that it is done
  | .announcing => some ({ s with phase := .marking }.log .workerStopped)
  | .marking => some { s with stopped := true, phase := .signalling }
  | .signalling =>
    match s.doneMessage.trySend () with
    | .ok doneMessage => some ({ s with doneMessage, phase := .leaving }.note .doneSent)
    | .error _ => some { s with phase := .leaving }
  | .leaving => some { s.leaveContext with phase := .finished }
  -- unwinding, and making way for another worker
  | .unwinding => some { s.leaveContext with phase := .unwound }
  | .unwound => some { s with restarts := s.restarts + 1, phase := .restarting }
  | .restarting => some ({ s with phase := .starting }.log (.restarting s.threadName))
  -- these learn something from outside, or are over
  | .starting | .waiting | .sending _ _ | .finished => none

/-- The end of the sink's call for the line that the worker is sending. -/
def finish (call : Call Reply) (s : Station) : Option Station :=
  match s.phase with
  | .sending loop line =>
    -- the journal has each call that ended, also one that unwound
    let s := s.note (.ended line call)
    match call with
    | .returned (.wrote _) => some { s with phase := loop.next }
    | .returned (.failed fault) => some { s with phase := .failing loop line fault }
    | .unwound => some { s with phase := .unwinding }
  | _ => none

/-- Entering the context, which gives the answer, for a worker that is starting. -/
def enter (answer : Bool) (s : Station) : Option Station :=
  if s.phase = .starting then
    some ({ s with inContext := answer, phase := .checking }.note (.entered answer))
  else none

/-- Receiving a line, for a worker that is waiting. -/
def receiveLine (s : Station) : Option Station :=
  if s.phase = .waiting then s.takeLine .serving else none

/-- Receiving the stop message, for a worker that is waiting. -/
def receiveStop (s : Station) : Option Station :=
  if s.phase = .waiting then s.takeStop else none

/-- The next access of the worker, if it is one that goes with the given move. -/
def move (s : Station) : Move → Option Station
  | .enter answer => s.enter answer
  | .receiveLine => s.receiveLine
  | .receiveStop => s.receiveStop
  | .finish call => s.finish call
  | .proceed => s.proceed

/-! ### How much is left to do

Whatever the sink does, each access brings the worker closer to the point where it can only wait.
A phase weighs more than those it leads to without taking a line, and a line in the queue weighs as
much as the heaviest phase, that of a worker that has just taken it. -/

/-- The weight of a phase. -/
def weight : Phase → Nat
  | .taken _ _ => 16
  | .counted _ _ => 15
  | .sending _ _ => 14
  | .unwinding => 13
  | .failing _ _ _ | .unwound => 12
  | .reporting _ _ _ | .restarting => 11
  | .starting => 10
  | .checking => 9
  | .waiting => 8
  | .closing => 7
  | .locked => 6
  | .draining => 5
  | .announcing => 4
  | .marking => 3
  | .signalling => 2
  | .leaving => 1
  | .finished => 0

/-- How many accesses the worker can still make, at most, before it can only wait. -/
def rank (s : Station) : Nat := 16 * s.lines.waiting.size + weight s.phase

end MetricCourier.Station
