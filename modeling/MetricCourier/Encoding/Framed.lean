import MetricCourier.Encoding.Plain
import MetricCourier.Text.Decimal

/-!
# The framed format of events

An event is written `_e{n,m}:title|text` with the byte lengths `n` and `m` of title and text in
braces, then its optional clauses in a fixed order, each `|x:value` with a letter of its own, then
`|#tags`. The lengths frame the free texts, so that a title or a text may hold anything.

`Framed` is what such a line says once the time stamp has been resolved against the clock, and
`Framed.render` is the line.
-/

namespace MetricCourier

/-- The most bytes that the line of an event may take. -/
def maxEventLength : Nat := 8 * 1024

/-- What the line of an event says. -/
structure Framed where
  title : String
  text : String
  /-- The seconds after the epoch, where a time is written. -/
  seconds : Option UInt64
  host : Option String
  group : Option String
  sourceType : Option String
  priority : Option Priority
  alertType : Option AlertType
  /-- The tags, where they are written. -/
  tags : Option String
  deriving DecidableEq

/-- The time that is written for a stamp when the clock shows so many seconds. -/
def Stamp.resolve (now : UInt64) : Stamp → Option UInt64
  | omitted => none
  | whenEncoded => some now
  | moment seconds => some seconds

/-- What the line of an event says when it is encoded at the given second. -/
def Event.framed (now : UInt64) (e : Event) : Framed where
  title := e.title
  text := e.text
  seconds := e.stamp.resolve now
  host := e.host
  group := e.group
  sourceType := e.sourceType
  priority := e.priority
  alertType := e.alertType
  tags := writtenTags e.tags

namespace Framed

/-- The frame: the two byte lengths, then the two texts. -/
def header (title text : String) : String :=
  "_e\x7b" ++ Decimal.natural title.utf8ByteSize ++ "," ++ Decimal.natural text.utf8ByteSize ++
    "\x7d:" ++ title ++ "|" ++ text

/-- An optional clause: a letter and a value. -/
def clause (letter : String) : Option String → String
  | none => ""
  | some value => "|" ++ letter ++ ":" ++ value

/-- The text of an event's line. -/
def render (f : Framed) : String :=
  header f.title f.text ++
    clause "d" (f.seconds.map fun s => Decimal.natural s.toNat) ++
    clause "h" f.host ++ clause "k" f.group ++ clause "s" f.sourceType ++
    clause "p" (f.priority.map Priority.word) ++ clause "t" (f.alertType.map AlertType.word) ++
    tagsClause f.tags

end Framed

end MetricCourier
