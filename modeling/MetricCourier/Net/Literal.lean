import MetricCourier.Net.Address

/-!
# Reading addresses

The readers take what they recognise off the front of a text and hand on the rest; a whole text is
an address when nothing is left.

* An octet is one to three decimal digits, at most 255, and has no leading zero.
* A group is one to four hexadecimal digits of either case.
* A double colon, once, stands for one or more zero groups; the last two groups may be
  written as an address of the fourth version, but not before the double colon.
* A port behind an address is decimal digits up to 65535, leading zeros allowed. A port standing
  alone may have a plus sign before it.
-/

namespace MetricCourier

/-- Takes one given character off the front. -/
def skipChar (c : Char) : List Char → Option (List Char)
  | d :: rest => if d = c then some rest else none
  | [] => none

namespace Ipv4

/-- Reads an octet. -/
def readOctet (cs : List Char) : Option (UInt8 × List Char) :=
  let digits := cs.takeWhile Decimal.isDigit
  let n := Decimal.value digits
  if digits = [] ∨ 3 < digits.length ∨ (digits.head? = some '0' ∧ 1 < digits.length) ∨ 255 < n then
    none
  else some (UInt8.ofNat n, cs.dropWhile Decimal.isDigit)

/-- Reads an octet behind a point. -/
def readNext (cs : List Char) : Option (UInt8 × List Char) := skipChar '.' cs >>= readOctet

/-- Reads four octets with points between them. -/
def read (cs : List Char) : Option (Ipv4 × List Char) := do
  let (a, cs) ← readOctet cs
  let (b, cs) ← readNext cs
  let (c, cs) ← readNext cs
  let (d, cs) ← readNext cs
  return (⟨a, b, c, d⟩, cs)

/-- The two groups that an address of the fourth version fills. -/
def groups (a : Ipv4) : List UInt16 :=
  [a.first.toUInt16 <<< 8 ||| a.second.toUInt16, a.third.toUInt16 <<< 8 ||| a.fourth.toUInt16]

end Ipv4

namespace Ipv6

/-- Reads a group. -/
def readGroup (cs : List Char) : Option (UInt16 × List Char) :=
  let digits := cs.takeWhile Hexadecimal.isDigit
  if digits = [] ∨ 4 < digits.length then none
  else some (UInt16.ofNat (Hexadecimal.value digits), cs.dropWhile Hexadecimal.isDigit)

/-- What is left to read after the colon between two groups; there is none before the first. -/
def afterSeparator (atStart : Bool) (cs : List Char) : Option (List Char) :=
  if atStart then some cs else skipChar ':' cs

/-- Reads groups as long as there are some, up to a limit; where two more fit, an address of the
fourth version may stand for them and ends the groups, which the flag says. -/
def readGroups : (limit : Nat) → (atStart : Bool) → List Char → List UInt16 × Bool × List Char
  | 0, _, cs => ([], false, cs)
  | limit + 1, atStart, cs =>
    match afterSeparator atStart cs with
    | none => ([], false, cs)
    | some body =>
      match if 1 ≤ limit then Ipv4.read body else none with
      | some (a, rest) => (a.groups, true, rest)
      | none =>
        match readGroup body with
        | none => ([], false, cs)
        | some (g, rest) =>
          let (gs, mixed, last) := readGroups limit false rest
          (g :: gs, mixed, last)

/-- The address of the given groups, if they are eight. -/
def ofGroups? (gs : List UInt16) : Option Ipv6 :=
  if h : gs.length = 8 then some ⟨gs, h⟩ else none

/-- Reads an address. -/
def read (cs : List Char) : Option (Ipv6 × List Char) := do
  let (head, mixed, cs) := readGroups 8 true cs
  if head.length = 8 then
    let a ← ofGroups? head
    return (a, cs)
  else if mixed then none
  else
    let cs ← skipChar ':' cs
    let cs ← skipChar ':' cs
    let (tail, _, cs) := readGroups (7 - head.length) true cs
    let zeros := List.replicate (8 - head.length - tail.length) 0
    let a ← ofGroups? (head ++ zeros ++ tail)
    return (a, cs)

end Ipv6

/-- What was read, if nothing is left. -/
def whole {α : Type} : Option (α × List Char) → Option α
  | some (a, []) => some a
  | _ => none

namespace IpAddress

/-- The address that a text denotes. -/
def ofText? (s : String) : Option IpAddress :=
  (v4 <$> whole (Ipv4.read s.toList)) <|> (v6 <$> whole (Ipv6.read s.toList))

end IpAddress

namespace Port

/-- The port that digits denote, if it is not above 65535. -/
def ofDigits? (cs : List Char) : Option UInt16 := do
  let n ← Decimal.read? cs
  if n ≤ 65535 then some (UInt16.ofNat n) else none

/-- Reads a colon and a port. -/
def read (cs : List Char) : Option (UInt16 × List Char) := do
  let cs ← skipChar ':' cs
  let port ← ofDigits? (cs.takeWhile Decimal.isDigit)
  return (port, cs.dropWhile Decimal.isDigit)

/-- The port that a text of its own denotes: a plus sign may stand before the digits. -/
def ofText? (cs : List Char) : Option UInt16 :=
  match cs with
  | '+' :: digits => ofDigits? digits
  | digits => ofDigits? digits

end Port

namespace SocketAddress

/-- Reads the scope behind a percent sign; where there is none it is zero. -/
def readScope (cs : List Char) : Option (UInt32 × List Char) :=
  match cs with
  | '%' :: rest => do
    let n ← Decimal.read? (rest.takeWhile Decimal.isDigit)
    if n < UInt32.size then some (UInt32.ofNat n, rest.dropWhile Decimal.isDigit) else none
  | _ => some (0, cs)

/-- Reads a socket address of the fourth version. -/
def readV4 (cs : List Char) : Option (SocketAddress × List Char) := do
  let (a, cs) ← Ipv4.read cs
  let (p, cs) ← Port.read cs
  return (v4 a p, cs)

/-- Reads a socket address of the sixth version. -/
def readV6 (cs : List Char) : Option (SocketAddress × List Char) := do
  let cs ← skipChar '[' cs
  let (a, cs) ← Ipv6.read cs
  let (scope, cs) ← readScope cs
  let cs ← skipChar ']' cs
  let (p, cs) ← Port.read cs
  return (v6 a p scope, cs)

/-- The socket address that a text denotes. -/
def ofText? (s : String) : Option SocketAddress :=
  whole (readV4 s.toList) <|> whole (readV6 s.toList)

end SocketAddress

end MetricCourier
