import MetricCourier.Client.Basic
import MetricCourier.Client.Value

/-!
# The methods of a client

Each kind of observation has a method of its own, and most have variants that add tags, a sample
rate, or both. Every method submits one observation; one whose value has to be converted first
returns the fault of the conversion, before anything else is looked at.
-/

namespace MetricCourier

namespace Options

/-- The options with tags and nothing else. -/
def tagged (tags : String) : Options := { tags := some tags }

/-- The options with a sample rate and nothing else. -/
def sampled (rate : Binary64) : Options := { sampleRate := rate }

end Options

namespace Client

variable {σ η : Type} (c : Client σ η) (now : Instant)

/-- Submits the observation made from a converted value, or returns the fault of its
conversion. -/
def submitConverted {α : Type} (value : Except Fault α) (observe : α → Observation)
    (w : World σ η) : Call (Except Fault Unit) × World σ η :=
  match value with
  | .ok a => c.submit now (observe a) w
  | .error fault => (.returned (.error fault), w)

/-! ### Counters -/

/-- Adds to a counter, with options. -/
def countWithOptions (key : String) (delta : Int64) (options : Options) :
    World σ η → Call (Except Fault Unit) × World σ η :=
  c.submit now (.metric (.count key delta options))

/-- Adds to a counter. -/
def count (key : String) (delta : Int64) := c.countWithOptions now key delta {}

/-- Adds to a counter, with tags. -/
def countWithTags (key : String) (delta : Int64) (tags : String) :=
  c.countWithOptions now key delta (.tagged tags)

/-- Adds to a counter, with a sample rate. -/
def countWithRate (key : String) (delta : Int64) (rate : Binary64) :=
  c.countWithOptions now key delta (.sampled rate)

/-- Adds one to a counter. -/
def increment (key : String) := c.count now key 1

/-- Adds one to a counter, with tags. -/
def incrementWithTags (key : String) (tags : String) := c.countWithTags now key 1 tags

/-- Adds one to a counter, with a sample rate. -/
def incrementWithRate (key : String) (rate : Binary64) := c.countWithRate now key 1 rate

/-- Adds one to a counter, with options. -/
def incrementWithOptions (key : String) (options : Options) :=
  c.countWithOptions now key 1 options

/-- Takes one from a counter. -/
def decrement (key : String) := c.count now key (-1)

/-- Takes one from a counter, with tags. -/
def decrementWithTags (key : String) (tags : String) := c.countWithTags now key (-1) tags

/-- Takes one from a counter, with a sample rate. -/
def decrementWithRate (key : String) (rate : Binary64) := c.countWithRate now key (-1) rate

/-- Takes one from a counter, with options. -/
def decrementWithOptions (key : String) (options : Options) :=
  c.countWithOptions now key (-1) options

/-! ### Timings -/

/-- Records a timing, with options. -/
def timeWithOptions (key : String) (value : TimerValue) (options : Options) :
    World σ η → Call (Except Fault Unit) × World σ η :=
  c.submitConverted now value.toWord fun n => .metric (.timing key n options)

/-- Records a timing. -/
def time (key : String) (value : TimerValue) := c.timeWithOptions now key value {}

/-- Records a timing, with tags. -/
def timeWithTags (key : String) (value : TimerValue) (tags : String) :=
  c.timeWithOptions now key value (.tagged tags)

/-- Records a timing, with a sample rate. -/
def timeWithRate (key : String) (value : TimerValue) (rate : Binary64) :=
  c.timeWithOptions now key value (.sampled rate)

/-! ### Gauges -/

/-- Records the value of a gauge. -/
def gauge (key : String) (value : LevelValue) :
    World σ η → Call (Except Fault Unit) × World σ η :=
  c.submit now (.metric (.gauge key value.toNumber none))

/-- Records the value of a gauge, with tags. -/
def gaugeWithTags (key : String) (value : LevelValue) (tags : String) :
    World σ η → Call (Except Fault Unit) × World σ η :=
  c.submit now (.metric (.gauge key value.toNumber (some tags)))

/-! ### Histograms -/

/-- Records a value of a histogram, with options. -/
def histogramWithOptions (key : String) (value : LevelValue) (options : Options) :
    World σ η → Call (Except Fault Unit) × World σ η :=
  c.submit now (.metric (.histogram key value.toNumber options))

/-- Records a value of a histogram. -/
def histogram (key : String) (value : LevelValue) := c.histogramWithOptions now key value {}

/-- Records a value of a histogram, with tags. -/
def histogramWithTags (key : String) (value : LevelValue) (tags : String) :=
  c.histogramWithOptions now key value (.tagged tags)

/-- Records a value of a histogram, with a sample rate. -/
def histogramWithRate (key : String) (value : LevelValue) (rate : Binary64) :=
  c.histogramWithOptions now key value (.sampled rate)

/-! ### Sets -/

/-- Records a member of a set. -/
def unique (key member : String) : World σ η → Call (Except Fault Unit) × World σ η :=
  c.submit now (.metric (.unique key member none))

/-- Records a member of a set, with tags. -/
def uniqueWithTags (key member tags : String) :
    World σ η → Call (Except Fault Unit) × World σ η :=
  c.submit now (.metric (.unique key member (some tags)))

/-! ### Events -/

/-- Sends an event. -/
def customEvent (event : Event) : World σ η → Call (Except Fault Unit) × World σ η :=
  c.submit now (.event event)

/-- Sends an event with a title and a text. -/
def event (title text : String) := c.customEvent now (.titled title text)

/-- Sends an event with a title and a text, with tags. -/
def eventWithTags (title text tags : String) :=
  c.customEvent now { Event.titled title text with tags := some tags }

end Client

end MetricCourier
