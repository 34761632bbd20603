import MetricCourier.Sink.Spy

/-!
# The sinks in stock

The sinks that need no device, as one type, for programs that choose between them when they run.
-/

namespace MetricCourier

/-- A sink that needs no device. -/
inductive Stock
  /-- Discards every line and says it wrote nothing. -/
  | discard
  /-- Discards every line and says it wrote all of it. -/
  | measure
  /-- Puts every line into a channel. -/
  | spy (channel : Spy)

namespace Stock

/-- Does what the chosen sink does. -/
def emit (line : Line) : Stock → Call Reply × Stock
  | discard => ((Sink.discard.emit line ()).1, discard)
  | measure => ((Sink.measure.emit line ()).1, measure)
  | spy channel =>
    let (reply, next) := Spy.sink.emit line channel
    (reply, spy next)

/-- The chosen sink. -/
def sink : Sink Stock := { emit := emit }

/-- Lets go of the receiver of a spy. -/
def dropReceiver : Stock → Stock
  | spy channel => spy channel.disconnect
  | s => s

/-- Takes up to so many lines from the receiver of a spy; there is nothing to take from where the
sink has no receiver or it is gone. -/
def receiveUpTo (n : Nat) : Stock → Option (List Line) × Stock
  | spy channel =>
    if channel.connected then
      let (lines, next) := channel.receiveUpTo n
      (some lines, spy next)
    else (none, spy channel)
  | s => (none, s)

end Stock

end MetricCourier
