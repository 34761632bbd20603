import MetricCourier.Log
import MetricCourier.Net.Literal
import MetricCourier.Text.Blank

/-!
# Finding the destination

The destination of all lines is settled once, from a configured host and port. This never fails:
a port that cannot be used is replaced by the default one, a host that has no address by the address
of the machine itself, each with a warning, and neither replacement touches the other half.

A host that is an address is never looked up; any other host is looked up by its name, which is
left to a `Lookup`.
-/

namespace MetricCourier

/-- Looks a host name up: its first address, if there is one, or the reason why the look-up
failed. -/
abbrev Lookup := String → Except String (Option IpAddress)

/-- The look-up on a machine without a name service: it knows its own name only, and for any other
it fails for the given reason. -/
def Lookup.localOnly (reason : String) : Lookup := fun host =>
  if host = "localhost" then .ok (some (.v4 .loopback)) else .error reason

/-- The address of a host that is given as a literal or as a name. -/
def Lookup.resolve (lookup : Lookup) (host : String) : Except String (Option IpAddress) :=
  match IpAddress.ofText? host with
  | some address => .ok (some address)
  | none => lookup host

/-- The configured host and port, as they were written. -/
structure Settings where
  host : Option String := none
  port : Option String := none
  deriving DecidableEq, Inhabited

/-- The name under which the host is configured. -/
def hostKey : String := "STATSD_HOST"

/-- The name under which the port is configured. -/
def portKey : String := "STATSD_PORT"

/-- The host that is used where none is given. -/
def defaultHost : String := "localhost"

/-- The settings found in a source of named values. -/
def Settings.ofSource (source : String → Option String) : Settings :=
  { host := source hostKey, port := source portKey }

namespace Destination

/-- The port that a configured text denotes, if it is one that can be sent to: blanks around it do
not matter, and zero is no such port. -/
def usablePort? (given : String) : Option UInt16 :=
  (Port.ofText? (Blank.trim given.toList)).filter (· ≠ 0)

/-- The port to use, and the warning if it had to be replaced. -/
def resolvePort (given : Option String) : UInt16 × List LogRecord :=
  match given with
  | none => (defaultPort, [])
  | some text =>
    match usablePort? text with
    | some port => (port, [])
    | none => (defaultPort, [.portUnusable text])

/-- The address to use, and the warning if it had to be replaced. -/
def resolveHost (lookup : Lookup) (host : String) : IpAddress × List LogRecord :=
  match lookup.resolve host with
  | .ok (some address) => (address, [])
  | .ok none => (.v4 .loopback, [.hostWithoutAddress host])
  | .error reason => (.v4 .loopback, [.hostUnknown host reason])

/-- The destination to use, and what is logged on the way: first about the port, then about the
host, then the result. -/
def resolve (lookup : Lookup) (settings : Settings) : SocketAddress × List LogRecord :=
  let (port, portLog) := resolvePort settings.port
  let (ip, hostLog) := resolveHost lookup (settings.host.getD defaultHost)
  let address := ip.withPort port
  (address, portLog ++ hostLog ++ [.destinationResolved address])

end Destination

end MetricCourier
