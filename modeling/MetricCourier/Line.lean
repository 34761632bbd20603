/-!
# Lines

What is delivered is a line: the text of one observation, without a line end. Most lines come
from encoding an observation; a line of the caller's own making is taken as it is. Its length is
counted in the bytes that travel, those of its UTF-8 form.
-/

namespace MetricCourier

/-- One encoded observation, ready to be sent. -/
structure Line where
  /-- The text of the line. -/
  text : String
  deriving DecidableEq, Inhabited

namespace Line

/-- The number of bytes that the line takes when sent. -/
def byteLength (line : Line) : Nat := line.text.utf8ByteSize

/-- Does the line hold nothing at all? -/
def isEmpty (line : Line) : Bool := line.text.isEmpty

end Line

end MetricCourier
