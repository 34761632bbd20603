/-!
# Events

An event has a title and a text; everything else about it may be left out. `Event.titled` is the
event with nothing else, stamped with the time of its encoding.
-/

namespace MetricCourier

/-- When an event happened. -/
inductive Stamp
  /-- Not said: the server takes the time of arrival. -/
  | omitted
  /-- The time at which the event is encoded. -/
  | whenEncoded
  /-- So many seconds after the epoch. -/
  | moment (seconds : UInt64)
  deriving DecidableEq

/-- An event that says nothing about its time is stamped when it is encoded. -/
instance : Inhabited Stamp := ⟨.whenEncoded⟩

/-- The stamp for a number of seconds: a negative number omits it, zero is the time of encoding,
and any other number is that moment. -/
def Stamp.ofSeconds (seconds : Int64) : Stamp :=
  if seconds < 0 then omitted
  else if seconds = 0 then whenEncoded
  else moment seconds.toUInt64

/-- How urgent an event is; an unnamed priority is the normal one. -/
inductive Priority
  | normal
  | low
  deriving DecidableEq, Inhabited

/-- The word that a line has for a priority. -/
def Priority.word : Priority → String
  | .normal => "normal"
  | .low => "low"

/-- What sort of event it is; an unnamed sort is information. -/
inductive AlertType
  | info
  | warning
  | error
  | success
  deriving DecidableEq, Inhabited

/-- The word that a line has for a sort of event. -/
def AlertType.word : AlertType → String
  | .info => "info"
  | .warning => "warning"
  | .error => "error"
  | .success => "success"

/-- Something that happened, for the event stream of a server. -/
structure Event where
  title : String
  text : String
  stamp : Stamp := default
  host : Option String := none
  /-- The key under which events are gathered. -/
  group : Option String := none
  sourceType : Option String := none
  priority : Option Priority := none
  alertType : Option AlertType := none
  tags : Option String := none
  deriving DecidableEq, Inhabited

/-- The event with a title and a text, stamped when it is encoded. -/
def Event.titled (title text : String) : Event := { title, text }

end MetricCourier
