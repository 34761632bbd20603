import MetricCourier.Fault
import MetricCourier.Line
import MetricCourier.Net.Address
import MetricCourier.Text.Quoted

/-!
# What is logged

Everything the library logs is one of a few records. A setting that had to be replaced and a line
that could not be sent are warnings, a worker that had to be restarted is an error, and the ordinary
course of a delivery is told for debugging.
-/

namespace MetricCourier

/-- How grave a log record is. -/
inductive Level
  | debug
  | warn
  | error
  deriving DecidableEq

/-- The port that is used where none is given. -/
def defaultPort : UInt16 := 8125

/-- Something that is logged. -/
inductive LogRecord
  /-- The given port is not one that can be sent to. -/
  | portUnusable (given : String)
  /-- The given host has no address, for the reason that the look-up gave. -/
  | hostUnknown (given : String) (reason : String)
  /-- The look-up of the given host succeeded with no address at all. -/
  | hostWithoutAddress (given : String)
  /-- The destination has been settled. -/
  | destinationResolved (address : SocketAddress)
  /-- A pipeline has started. -/
  | started (threadName : String) (capacity : Nat) (destination : Option SocketAddress)
  /-- A line was lost because the sink failed. -/
  | lineUnsent (line : Line) (fault : IoFault)
  /-- The worker has sent what there was and is done. -/
  | workerStopped
  /-- The worker unwound and a new one takes over. -/
  | restarting (threadName : String)
  deriving DecidableEq

namespace LogRecord

/-- How grave a record is. -/
def level : LogRecord → Level
  | portUnusable _ | hostUnknown _ _ | hostWithoutAddress _ | lineUnsent _ _ => .warn
  | destinationResolved _ | started _ _ _ | workerStopped => .debug
  | restarting _ => .error

/-- The words of a record. -/
def message : LogRecord → String
  | portUnusable given =>
    "invalid statsd port defined: " ++ Quoted.quote given ++ ", using " ++
      Decimal.natural defaultPort.toNat
  | hostUnknown given reason =>
    "invalid statsd host defined: " ++ Quoted.quote given ++ " (" ++ reason ++ "), using loopback"
  | hostWithoutAddress given =>
    "statsd host " ++ Quoted.quote given ++ " resolved to no addresses, using loopback"
  | destinationResolved address => "statsd destination resolved to " ++ address.text
  | started threadName capacity destination =>
    "started " ++ threadName ++ " with queue capacity " ++ Decimal.natural capacity ++
      ", destination " ++ SocketAddress.optionText destination
  | lineUnsent line fault =>
    "unable to send metric line " ++ Quoted.quote line.text ++ ": " ++ fault.text
  | workerStopped => "delivery worker stopped"
  | restarting threadName => "thread " ++ threadName ++ " panicked, restarting it"

end LogRecord

end MetricCourier
