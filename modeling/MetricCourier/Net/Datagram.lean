import MetricCourier.Net.Destination
import MetricCourier.Sink.Basic

/-!
# Sending lines as datagrams

Each line travels as one datagram, with nothing added, from a socket of the destination's family.
Whether a datagram can be sent is up to the network of the machine: a `Network` says which addresses
a socket can be bound to and which can be reached. A datagram whose size no datagram can have is
refused before a route is looked for, one that is too large for its family only after.
-/

namespace MetricCourier

/-- What the machine's network allows. -/
structure Network where
  /-- Binds a socket to an address of the machine. -/
  bind : IpAddress → Except IoFault Unit
  /-- Is there a way to the address? -/
  reaches : IpAddress → Bool

/-- The address that stands for any address of the machine, in each family. -/
def Family.unspecified : Family → IpAddress
  | .v4 => .v4 ⟨0, 0, 0, 0⟩
  | .v6 => .v6 ⟨[0, 0, 0, 0, 0, 0, 0, 0], rfl⟩

/-- The most bytes that fit in one datagram of a family, whose headers take the rest. -/
def Family.maxPayload : Family → Nat
  | .v4 => 65507
  | .v6 => 65527

namespace Network

/-- The fault for a datagram that is too large. -/
def tooLong : IoFault := .message .unnamed "Message too long (os error 90)"

/-- The fault for a destination to which there is no way. -/
def unreachable : IoFault := .message .networkUnreachable "Network is unreachable (os error 101)"

/-- The fault for an address that the machine does not have. -/
def noSuchAddress : IoFault :=
  .message .addressNotAvailable "Cannot assign requested address (os error 99)"

/-- The network of a machine that is cut off: sockets can be bound, in the sixth version to no
address in particular only, and nothing can be reached. -/
def isolated : Network where
  bind
    | .v4 _ => .ok ()
    | .v6 a => if .v6 a = Family.unspecified .v6 then .ok () else .error noSuchAddress
  reaches _ := false

/-- Sends so many bytes as one datagram. -/
def transmit (n : Network) (destination : SocketAddress) (length : Nat) : Reply :=
  if 65535 < length then .failed tooLong
  else if !n.reaches destination.ip then .failed unreachable
  else if destination.family.maxPayload < length then .failed tooLong
  else .wrote (UInt64.ofNat length)

end Network

/-- A socket that sends lines to one destination. -/
structure Sender where
  network : Network
  destination : SocketAddress
  traffic : Traffic := {}
  /-- The lines that went out, the newest first. -/
  sent : List Line := []

namespace Sender

/-- A sender on a socket bound to no address in particular, of the destination's family. -/
def bind (network : Network) (destination : SocketAddress) : Except Fault Sender :=
  match network.bind destination.family.unspecified with
  | .ok () => .ok { network, destination }
  | .error fault => .error (.ofIo fault)

/-- Sends a line as one datagram and counts what became of it. -/
def emit (line : Line) (s : Sender) : Call Reply × Sender :=
  let reply := s.network.transmit s.destination line.byteLength
  let sent :=
    match reply with
    | .wrote _ => line :: s.sent
    | .failed _ => s.sent
  (.returned reply, { s with traffic := s.traffic.record reply line.bytes, sent })

/-- The sink that sends every line as one datagram. -/
def sink : Sink Sender where
  emit := emit
  traffic s := s.traffic

end Sender

namespace SocketAddress

/-- The text before the last colon and the text after it. -/
def splitAtLastColon (cs : List Char) : Option (List Char × List Char) :=
  let behind := (cs.reverse.takeWhile (· ≠ ':')).reverse
  match cs.reverse.dropWhile (· ≠ ':') with
  | _ :: before => some (before.reverse, behind)
  | [] => none

/-- The fault for a text that is no socket address. -/
def malformed (text : String) : Fault := .io (.message .invalidInput text)

/-- The fault for a destination that names no address. -/
def noneYielded : Fault := .described .invalidConfiguration "No socket addresses yielded"

/-- The first of the addresses that a destination may have. -/
def firstOf : List SocketAddress → Except Fault SocketAddress
  | a :: _ => .ok a
  | [] => .error noneYielded

/-- The socket address that a text names: a socket address as it is written, or else a host and a
port with the last colon between them. -/
def named (lookup : Lookup) (s : String) : Except Fault SocketAddress :=
  match ofText? s with
  | some a => .ok a
  | none =>
    match splitAtLastColon s.toList with
    | none => .error (malformed "invalid socket address")
    | some (host, digits) =>
      match Port.ofText? digits with
      | none => .error (malformed "invalid port value")
      | some port =>
        match lookup.resolve (String.ofList host) with
        | .ok ip => firstOf (ip.toList.map (·.withPort port))
        | .error reason => .error (.io (.message .unnamed reason))

end SocketAddress

/-- A sender on a socket that is bound already, to the destination that a text names. -/
def Sender.toNamed (network : Network) (lookup : Lookup) (text : String) : Except Fault Sender :=
  (SocketAddress.named lookup text).map fun destination => { network, destination }

end MetricCourier
