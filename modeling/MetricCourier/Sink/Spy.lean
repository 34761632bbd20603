import MetricCourier.Channel.Basic
import MetricCourier.Sink.Basic

/-!
# The spy

A sink for watching what a program sends: each line goes into a channel whose receiver is in the
watcher's hands. The channel may be limited, and the watcher may let go of the receiver; in both
cases the sink reports that it could not deliver the line.
-/

namespace MetricCourier

/-- The spy's channel. -/
abbrev Spy := Channel Line

namespace Spy

/-- The fault reported for a line that the channel did not accept. -/
def sendFault : SendFault → IoFault
  | .full => .message .other "channel full"
  | .disconnected => .message .other "channel disconnected"

/-- Puts the line into the channel. -/
def emit (line : Line) (spy : Spy) : Call Reply × Spy :=
  match spy.trySend line with
  | .ok next => (.returned (.wrote line.bytes), next)
  | .error why => (.returned (.failed (sendFault why)), spy)

/-- The sink that puts every line into the spy's channel. -/
def sink : Sink Spy := { emit := emit }

end Spy

end MetricCourier
