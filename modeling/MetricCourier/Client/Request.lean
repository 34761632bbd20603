import MetricCourier.Client.Methods

/-!
# Requests

A request is a call of one of a client's methods, with its arguments. As data the calls of a program
can be looked at as a whole: each request comes down to one observation, or to the fault of the
conversion of its value, and that is all that the client makes of it (`Client.perform_eq`). A
program that also flushes takes `Client.Turn`s.
-/

namespace MetricCourier

/-- A call of a method that observes something. -/
inductive Request
  | submit (observation : Observation)
  | count (key : String) (delta : Int64)
  | countWithTags (key : String) (delta : Int64) (tags : String)
  | countWithRate (key : String) (delta : Int64) (rate : Binary64)
  | countWithOptions (key : String) (delta : Int64) (options : Options)
  | increment (key : String)
  | incrementWithTags (key tags : String)
  | incrementWithRate (key : String) (rate : Binary64)
  | incrementWithOptions (key : String) (options : Options)
  | decrement (key : String)
  | decrementWithTags (key tags : String)
  | decrementWithRate (key : String) (rate : Binary64)
  | decrementWithOptions (key : String) (options : Options)
  | time (key : String) (value : TimerValue)
  | timeWithTags (key : String) (value : TimerValue) (tags : String)
  | timeWithRate (key : String) (value : TimerValue) (rate : Binary64)
  | timeWithOptions (key : String) (value : TimerValue) (options : Options)
  | gauge (key : String) (value : LevelValue)
  | gaugeWithTags (key : String) (value : LevelValue) (tags : String)
  | histogram (key : String) (value : LevelValue)
  | histogramWithTags (key : String) (value : LevelValue) (tags : String)
  | histogramWithRate (key : String) (value : LevelValue) (rate : Binary64)
  | histogramWithOptions (key : String) (value : LevelValue) (options : Options)
  | unique (key member : String)
  | uniqueWithTags (key member tags : String)
  | event (title text : String)
  | eventWithTags (title text tags : String)
  | customEvent (event : Event)
  deriving DecidableEq

namespace Request

/-- The observation that a request comes down to, or the fault of the conversion of its value. -/
def observation : Request → Except Fault Observation
  | submit observation => .ok observation
  | count key delta => .ok (.metric (.count key delta {}))
  | countWithTags key delta tags => .ok (.metric (.count key delta { tags := some tags }))
  | countWithRate key delta rate => .ok (.metric (.count key delta { sampleRate := rate }))
  | countWithOptions key delta options => .ok (.metric (.count key delta options))
  | increment key => .ok (.metric (.count key 1 {}))
  | incrementWithTags key tags => .ok (.metric (.count key 1 { tags := some tags }))
  | incrementWithRate key rate => .ok (.metric (.count key 1 { sampleRate := rate }))
  | incrementWithOptions key options => .ok (.metric (.count key 1 options))
  | decrement key => .ok (.metric (.count key (-1) {}))
  | decrementWithTags key tags => .ok (.metric (.count key (-1) { tags := some tags }))
  | decrementWithRate key rate => .ok (.metric (.count key (-1) { sampleRate := rate }))
  | decrementWithOptions key options => .ok (.metric (.count key (-1) options))
  | time key value => value.toWord.map fun n => .metric (.timing key n {})
  | timeWithTags key value tags =>
    value.toWord.map fun n => .metric (.timing key n { tags := some tags })
  | timeWithRate key value rate =>
    value.toWord.map fun n => .metric (.timing key n { sampleRate := rate })
  | timeWithOptions key value options =>
    value.toWord.map fun n => .metric (.timing key n options)
  | gauge key value => .ok (.metric (.gauge key value.toNumber none))
  | gaugeWithTags key value tags => .ok (.metric (.gauge key value.toNumber (some tags)))
  | histogram key value => .ok (.metric (.histogram key value.toNumber {}))
  | histogramWithTags key value tags =>
    .ok (.metric (.histogram key value.toNumber { tags := some tags }))
  | histogramWithRate key value rate =>
    .ok (.metric (.histogram key value.toNumber { sampleRate := rate }))
  | histogramWithOptions key value options =>
    .ok (.metric (.histogram key value.toNumber options))
  | unique key member => .ok (.metric (.unique key member none))
  | uniqueWithTags key member tags => .ok (.metric (.unique key member (some tags)))
  | event title text => .ok (.event (.titled title text))
  | eventWithTags title text tags =>
    .ok (.event { Event.titled title text with tags := some tags })
  | customEvent e => .ok (.event e)

/-- The line for a request made at the given time, or the fault for which there is none. -/
def line (now : Instant) (request : Request) : Except Fault Line :=
  match request.observation with
  | .error fault => .error fault
  | .ok observation =>
    match observation.encode now with
    | .error flaw => .error flaw.fault
    | .ok line => .ok line

end Request

namespace Client

variable {σ η : Type} (c : Client σ η)

/-- Calls the method of a request at the given time. -/
def perform (now : Instant) : Request → World σ η → Call (Except Fault Unit) × World σ η
  | .submit observation => c.submit now observation
  | .count key delta => c.count now key delta
  | .countWithTags key delta tags => c.countWithTags now key delta tags
  | .countWithRate key delta rate => c.countWithRate now key delta rate
  | .countWithOptions key delta options => c.countWithOptions now key delta options
  | .increment key => c.increment now key
  | .incrementWithTags key tags => c.incrementWithTags now key tags
  | .incrementWithRate key rate => c.incrementWithRate now key rate
  | .incrementWithOptions key options => c.incrementWithOptions now key options
  | .decrement key => c.decrement now key
  | .decrementWithTags key tags => c.decrementWithTags now key tags
  | .decrementWithRate key rate => c.decrementWithRate now key rate
  | .decrementWithOptions key options => c.decrementWithOptions now key options
  | .time key value => c.time now key value
  | .timeWithTags key value tags => c.timeWithTags now key value tags
  | .timeWithRate key value rate => c.timeWithRate now key value rate
  | .timeWithOptions key value options => c.timeWithOptions now key value options
  | .gauge key value => c.gauge now key value
  | .gaugeWithTags key value tags => c.gaugeWithTags now key value tags
  | .histogram key value => c.histogram now key value
  | .histogramWithTags key value tags => c.histogramWithTags now key value tags
  | .histogramWithRate key value rate => c.histogramWithRate now key value rate
  | .histogramWithOptions key value options => c.histogramWithOptions now key value options
  | .unique key member => c.unique now key member
  | .uniqueWithTags key member tags => c.uniqueWithTags now key member tags
  | .event title text => c.event now title text
  | .eventWithTags title text tags => c.eventWithTags now title text tags
  | .customEvent e => c.customEvent now e

/-- What a program does with a client at one time. -/
inductive Turn
  | request (now : Instant) (request : Request)
  | flush

/-- Takes a turn. -/
def take (turn : Turn) (w : World σ η) : Call (Except Fault Unit) × World σ η :=
  match turn with
  | .request now request => c.perform now request w
  | .flush =>
    let (result, w) := c.flush w
    (.returned result, w)

/-- Takes turns one after the other; the answers are those to the program. -/
def run : List Turn → World σ η → List (Call (Except Fault Unit)) × World σ η
  | [], w => ([], w)
  | turn :: rest, w =>
    let (answer, w) := c.take turn w
    let (answers, w) := run rest w
    (answer :: answers, w)

theorem run_cons (turn : Turn) (rest : List Turn) (w : World σ η) :
    c.run (turn :: rest) w =
      ((c.take turn w).1 :: (c.run rest (c.take turn w).2).1, (c.run rest (c.take turn w).2).2) :=
  rfl

/-- Whatever its method, a request is the submission of its observation. -/
theorem perform_eq (now : Instant) (request : Request) (w : World σ η) :
    c.perform now request w = c.submitConverted now request.observation id w := by
  -- a duration that does not fit is the one thing that a method finds out by itself
  have htime : ∀ (key : String) (value : TimerValue) (options : Options),
      c.timeWithOptions now key value options w = c.submitConverted now
        (value.toWord.map fun n => .metric (.timing key n options)) id w := by
    intro key value options
    unfold timeWithOptions
    cases value.toWord <;> rfl
  cases request with
  | time key value => exact htime key value {}
  | timeWithTags key value tags => exact htime key value (.tagged tags)
  | timeWithRate key value rate => exact htime key value (.sampled rate)
  | timeWithOptions key value options => exact htime key value options
  -- the other methods hand on their observation
  | _ => rfl

end Client

end MetricCourier
