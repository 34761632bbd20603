import MetricCourier.Text.Decimal
import MetricCourier.Text.Hexadecimal

/-!
# Addresses and how they are written

Lines are sent to a socket address: an IP address of one of two families, and a port. This module
has the types and the canonical texts.

* An address of the fourth version is four octets in decimal with points between them.
* An address of the sixth version is eight groups of sixteen bits in hexadecimal with colons between
  them. The first of the longest runs of two or more zero groups is left out, which a double colon
  shows. An address that stands for one of the fourth version ends in that one's text.
* A socket address puts the port behind a colon; an address of the sixth version stands in square
  brackets there, with its scope behind a percent sign unless that is zero.
-/

namespace MetricCourier

/-- An IP address of the fourth version, by its octets. -/
structure Ipv4 where
  first : UInt8
  second : UInt8
  third : UInt8
  fourth : UInt8
  deriving DecidableEq, Inhabited

/-- An IP address of the sixth version, by its groups of sixteen bits. -/
structure Ipv6 where
  groups : List UInt16
  length_groups : groups.length = 8
  deriving DecidableEq

/-- An IP address. -/
inductive IpAddress
  | v4 (address : Ipv4)
  | v6 (address : Ipv6)
  deriving DecidableEq

/-- The two families of addresses. -/
inductive Family
  | v4
  | v6
  deriving DecidableEq, Inhabited

/-- Where a datagram is sent: an IP address and a port. -/
inductive SocketAddress
  | v4 (address : Ipv4) (port : UInt16)
  | v6 (address : Ipv6) (port : UInt16) (scope : UInt32)
  deriving DecidableEq

namespace Ipv4

/-- The address of the machine itself. -/
def loopback : Ipv4 := ⟨127, 0, 0, 1⟩

/-- Does the address stay on the machine? -/
def isLoopback (a : Ipv4) : Bool := a.first = 127

/-- The four octets with points between them. -/
def text (a : Ipv4) : String :=
  ".".intercalate ([a.first, a.second, a.third, a.fourth].map fun o => Decimal.natural o.toNat)

end Ipv4

namespace Ipv6

/-- The address of the machine itself. -/
def loopback : Ipv6 := ⟨[0, 0, 0, 0, 0, 0, 0, 1], rfl⟩

/-- Does the address stay on the machine? -/
def isLoopback (a : Ipv6) : Bool := a = loopback

/-- The address of the fourth version that an address stands for, if it does. -/
def mapped? (a : Ipv6) : Option Ipv4 :=
  match a.groups with
  | [0, 0, 0, 0, 0, 0xffff, high, low] =>
    some ⟨(high >>> 8).toUInt8, high.toUInt8, (low >>> 8).toUInt8, low.toUInt8⟩
  | _ => none

/-- The hexadecimal numeral of a group, in lower case and without leading zeros. -/
def groupText (g : UInt16) : String := String.ofList (Hexadecimal.digits g.toNat)

/-- Groups with colons between them. -/
def groupsText (gs : List UInt16) : String := ":".intercalate (gs.map groupText)

/-- The number of zero groups at the start. -/
def leadingZeros (gs : List UInt16) : Nat := (gs.takeWhile (· = 0)).length

/-- Where the first of the longest runs of zero groups starts, and how long it is. -/
def longestZeros (gs : List UInt16) : Nat × Nat :=
  (List.range gs.length).foldl
    (fun best start =>
      let run := leadingZeros (gs.drop start)
      if best.2 < run then (start, run) else best)
    (0, 0)

/-- The canonical text of an address. -/
def text (a : Ipv6) : String :=
  match a.mapped? with
  | some inner => "::ffff:" ++ inner.text
  | none =>
    let (start, run) := longestZeros a.groups
    if 1 < run then
      groupsText (a.groups.take start) ++ "::" ++ groupsText (a.groups.drop (start + run))
    else groupsText a.groups

end Ipv6

namespace IpAddress

/-- The canonical text of an address. -/
def text : IpAddress → String
  | v4 a => a.text
  | v6 a => a.text

/-- Does the address stay on the machine? -/
def isLoopback : IpAddress → Bool
  | v4 a => a.isLoopback
  | v6 a => a.isLoopback

/-- The socket address with the given port; its scope is zero. -/
def withPort (port : UInt16) : IpAddress → SocketAddress
  | v4 a => .v4 a port
  | v6 a => .v6 a port 0

end IpAddress

namespace SocketAddress

/-- The IP address. -/
def ip : SocketAddress → IpAddress
  | v4 a _ => .v4 a
  | v6 a _ _ => .v6 a

/-- The port. -/
def port : SocketAddress → UInt16
  | v4 _ p | v6 _ p _ => p

@[simp] theorem ip_withPort (ip : IpAddress) (port : UInt16) : (ip.withPort port).ip = ip := by
  cases ip <;> rfl

@[simp] theorem port_withPort (ip : IpAddress) (port : UInt16) :
    (ip.withPort port).port = port := by
  cases ip <;> rfl

/-- The family of the IP address. -/
def family : SocketAddress → Family
  | v4 _ _ => .v4
  | v6 _ _ _ => .v6

/-- The canonical text of a socket address. -/
def text : SocketAddress → String
  | v4 a p => a.text ++ ":" ++ Decimal.natural p.toNat
  | v6 a p scope =>
    "[" ++ a.text ++ (if scope = 0 then "" else "%" ++ Decimal.natural scope.toNat) ++ "]:" ++
      Decimal.natural p.toNat

/-- The text of a socket address that may be missing, as descriptions have it. -/
def optionText : Option SocketAddress → String
  | none => "None"
  | some a => "Some(" ++ a.text ++ ")"

end SocketAddress

end MetricCourier
