import MetricCourier.Fault

/-!
# Traffic

A sink that talks to a device counts what went through and what did not. The bytes of a
transmission that went through are the device's own count; those of one that failed are the length
of the line that was lost. The four sums are kept in words and wrap around.
-/

namespace MetricCourier

/-- What a sink answers for one line. -/
inductive Reply
  /-- It wrote so many bytes; zero are no fault, since a line may only have been put aside. -/
  | wrote (bytes : UInt64)
  /-- It could not send the line. -/
  | failed (fault : IoFault)
  deriving DecidableEq

/-- Bytes and packets that were sent, and those that were dropped. -/
structure Traffic where
  bytesSent : UInt64 := 0
  packetsSent : UInt64 := 0
  bytesDropped : UInt64 := 0
  packetsDropped : UInt64 := 0
  deriving DecidableEq, Inhabited

/-- Counts the reply for a line of so many bytes. -/
def Traffic.record (reply : Reply) (length : UInt64) (t : Traffic) : Traffic :=
  match reply with
  | .wrote bytes =>
    { t with bytesSent := t.bytesSent + bytes, packetsSent := t.packetsSent + 1 }
  | .failed _ =>
    { t with bytesDropped := t.bytesDropped + length, packetsDropped := t.packetsDropped + 1 }

end MetricCourier
