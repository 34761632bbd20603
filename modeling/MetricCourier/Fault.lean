/-!
# Faults

Two kinds of fault meet where lines leave the program. A sink answers with an *input/output
fault* (`IoFault`), because it may be any kind of device. A client and a pipeline answer with a
*fault* (`Fault`): a kind and a description of the library's own, or an input/output fault passed
on.

A described fault has to survive the trip through a sink: a full queue is reported by the pipeline
as a fault, handed through the sink's interface as an input/output fault, and must come out at the
client's handler with its kind. So `Fault.toIo` puts a described fault inside an input/output
fault, and `Fault.ofIo` looks for one there. Only the direct payload is looked at: a described
fault that was wrapped twice is an input/output fault for good.

Text and cause pass through every wrapping unchanged (`text_wrap`, `cause_wrap`), whichever
way a fault is converted.
-/

namespace MetricCourier

/-- The kinds of fault that the library tells apart. -/
inductive FaultKind
  /-- An observation that cannot be encoded. -/
  | invalidObservation
  /-- The delivery queue was full and the line was dropped. -/
  | queueOverflow
  /-- The line could not be handed on. -/
  | deliveryFailure
  /-- A setting that cannot be used. -/
  | invalidConfiguration
  /-- Any other fault of a device. -/
  | io
  deriving DecidableEq, Inhabited

/-- The words for a kind of fault. -/
def FaultKind.text : FaultKind → String
  | .invalidObservation => "invalid observation"
  | .queueOverflow => "queue overflow"
  | .deliveryFailure => "delivery failure"
  | .invalidConfiguration => "invalid configuration"
  | .io => "i/o error"

/-- The kinds of input/output fault. Those that sinks and the network report have names here; there
are others, and nothing is decided by a kind. -/
inductive IoKind
  | other
  | brokenPipe
  | connectionRefused
  | timedOut
  | wouldBlock
  | permissionDenied
  | notFound
  | invalidInput
  | networkUnreachable
  | addressNotAvailable
  /-- Any other kind, known by its words. -/
  | uncategorized {words : String}
  deriving DecidableEq, Inhabited

/-- The kind of a fault of the operating system that has no kind of its own. -/
def IoKind.unnamed : IoKind := @uncategorized "uncategorized error"

/-- The words for an input/output fault that has a kind and nothing else. -/
def IoKind.text : IoKind → String
  | .other => "other error"
  | .brokenPipe => "broken pipe"
  | .connectionRefused => "connection refused"
  | .timedOut => "timed out"
  | .wouldBlock => "operation would block"
  | .permissionDenied => "permission denied"
  | .notFound => "entity not found"
  | .invalidInput => "invalid input parameter"
  | .networkUnreachable => "network unreachable"
  | .addressNotAvailable => "address not available"
  | @IoKind.uncategorized words => words

/-- An input/output fault: its kind, and what it carries. -/
inductive IoFault
  /-- A kind and nothing else. -/
  | bare (kind : IoKind)
  /-- A kind and a text. -/
  | message (kind : IoKind) (text : String)
  /-- A kind, a text, and the fault that caused it. -/
  | caused (kind : IoKind) (text : String) (cause : IoFault)
  /-- A kind around a described fault of the library. -/
  | carrying (kind : IoKind) (inner : FaultKind) (text : String)
  /-- A kind around another input/output fault, itself or passed on as a fault: nothing that can be
  asked of the whole tells the two apart. -/
  | around (kind : IoKind) (inner : IoFault)
  deriving DecidableEq, Inhabited

/-- A kind alone stands for the fault that has nothing else. -/
instance : Coe IoKind IoFault := ⟨.bare⟩

/-- A fault of the library: described by a kind and a text, or an input/output fault passed on. -/
inductive Fault
  | described (kind : FaultKind) (text : String)
  | io (fault : IoFault)
  deriving DecidableEq, Inhabited

namespace IoFault

/-- The kind of the outermost fault. -/
def kind : IoFault → IoKind
  | bare k | message k _ | caused k _ _ | carrying k _ _ | around k _ => k

/-- The words for the fault: those of what it carries, or of its kind when it carries nothing. -/
def text : IoFault → String
  | bare k => k.text
  | message _ t | caused _ t _ | carrying _ _ t => t
  | around _ inner => inner.text

/-- The words for the cause of the fault, if it has one; a wrapping has the cause of what it
wraps. -/
def cause : IoFault → Option String
  | bare _ | message _ _ | carrying _ _ _ => none
  | caused _ _ c => some c.text
  | around _ inner => inner.cause

end IoFault

namespace Fault

/-- The kind of a fault; every input/output fault passed on is of the one kind `io`. -/
def kind : Fault → FaultKind
  | described k _ => k
  | io _ => .io

/-- The words for the fault. -/
def text : Fault → String
  | described _ t => t
  | io f => f.text

/-- The words for the cause of the fault, if it has one. -/
def cause : Fault → Option String
  | described _ _ => none
  | io f => f.cause

/-- The fault as an input/output fault of the given kind. -/
def wrap (k : IoKind) : Fault → IoFault
  | described inner t => .carrying k inner t
  | io f => .around k f

/-- The fault as a sink reports it: an input/output fault as it is, a described one inside a fault
of the kind `other`. -/
def toIo : Fault → IoFault
  | described k t => .carrying .other k t
  | io f => f

/-- The fault that an input/output fault stands for: the described fault it carries directly, if
it does, and itself otherwise. -/
def ofIo : IoFault → Fault
  | .carrying _ k t => described k t
  | f => io f

/-- A described fault comes back out of an input/output fault, and so does any fault that is not
one around a described one. -/
theorem ofIo_toIo {f : Fault} (h : ∀ k inner t, f ≠ io (.carrying k inner t)) :
    ofIo f.toIo = f := by
  -- only a fault around a described one would be opened
  cases f with
  | described k t => rfl
  | io g =>
    cases g with
    | carrying k inner t => exact absurd rfl (h k inner t)
    | _ => rfl

/-- Wrapping a fault keeps its text. -/
theorem text_wrap (k : IoKind) (f : Fault) : (f.wrap k).text = f.text := by
  cases f <;> rfl

/-- Wrapping a fault keeps its cause. -/
theorem cause_wrap (k : IoKind) (f : Fault) : (f.wrap k).cause = f.cause := by
  cases f <;> rfl

end Fault

end MetricCourier
