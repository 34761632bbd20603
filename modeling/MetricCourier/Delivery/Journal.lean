import MetricCourier.Log
import MetricCourier.Sink.Basic

/-!
# The journal of a delivery

What happens while lines are delivered is written down: which lines were accepted and which were
refused, which were handed to the sink and what came of it, when the worker entered and left its
context, when it was told to stop and told that it was done, and what was logged. Nothing is decided
by the journal; it is there to be read, by whoever shows the log and by whoever states what a
delivery guarantees.
-/

namespace MetricCourier

/-- Why a line was not accepted. -/
inductive Refusal
  | stopped
  | full
  | disconnected
  deriving DecidableEq

/-- The fault that a refusal is reported as. -/
def Refusal.fault : Refusal → Fault
  | .stopped => .described .deliveryFailure "delivery pipeline is stopped"
  | .full => .described .queueOverflow "delivery queue is full"
  | .disconnected => .described .deliveryFailure "delivery queue is disconnected"

/-- Something that happened in a delivery. -/
inductive Entry
  /-- A line was put into the queue. -/
  | accepted (line : Line)
  /-- A line was turned away. -/
  | refused (line : Line) (why : Refusal)
  /-- The worker entered the context, which answered whether it has to be left again. -/
  | entered (answer : Bool)
  /-- The worker left the context. -/
  | left
  /-- A line was handed to the sink. -/
  | handed (line : Line)
  /-- The call of the sink for a line ended. -/
  | ended (line : Line) (call : Call Reply)
  /-- The message to stop was sent. -/
  | stopSent
  /-- The message that the worker is done was sent. -/
  | doneSent
  | logged (record : LogRecord)
  deriving DecidableEq

namespace Entry

/-- The line that was accepted, if one was. -/
def accepted? : Entry → Option Line
  | accepted line => some line
  | _ => none

/-- The line that was handed to the sink, if one was. -/
def handed? : Entry → Option Line
  | handed line => some line
  | _ => none

/-- The line for which a call of the sink ended, and how, if one did. -/
def ended? : Entry → Option (Line × Call Reply)
  | ended line call => some (line, call)
  | _ => none

/-- What was logged, if something was. -/
def record? : Entry → Option LogRecord
  | logged record => some record
  | _ => none

/-- Was the context entered, whatever it answered? -/
def isEnter : Entry → Bool
  | entered _ => true
  | _ => false

/-- Was the context left? -/
def isLeave : Entry → Bool
  | left => true
  | _ => false

variable {α : Type}

/-- What a journal with the newest entry first tells of one kind, the oldest first. -/
def readings (kind : Entry → Option α) (journal : List Entry) : List α :=
  journal.reverse.filterMap kind

@[simp] theorem readings_nil (kind : Entry → Option α) : readings kind [] = [] := rfl

/-- A new entry is the last reading, if it is of the kind. -/
@[simp] theorem readings_cons (kind : Entry → Option α) (entry : Entry) (journal : List Entry) :
    readings kind (entry :: journal) = readings kind journal ++ (kind entry).toList := by
  rw [readings, readings, List.reverse_cons, List.filterMap_append]
  cases h : kind entry <;> simp [h]

end Entry

end MetricCourier
