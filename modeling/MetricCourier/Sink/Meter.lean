import MetricCourier.Sink.Traffic

/-!
# Meters

A meter counts the traffic of a sink. It is held through handles, and a copy of a handle counts on
the same meter: whichever handle a reply is recorded through, all of them report it. So a store of
meters keeps the counters in cells and gives each handle the number of its cell; copying a handle
copies that number and not the counters.
-/

namespace MetricCourier

/-- Meters and the handles that hold them. -/
structure Meters where
  /-- The counters of each meter. -/
  cells : List Traffic
  /-- For each handle the number of its meter. -/
  handles : List Nat

namespace Meters

/-- One new meter, held by one handle. -/
def fresh : Meters := ⟨[{}], [0]⟩

/-- The counters that a handle reports; nothing has been counted for a handle that is not there. -/
def report (handle : Nat) (m : Meters) : Traffic :=
  (m.handles[handle]?.bind fun cell => m.cells[cell]?).getD {}

/-- Copies a handle; the copy is the newest handle. -/
def copy (handle : Nat) (m : Meters) : Meters :=
  match m.handles[handle]? with
  | some cell => { m with handles := m.handles ++ [cell] }
  | none => m

/-- The number of the newest handle. -/
def newest (m : Meters) : Nat := m.handles.length - 1

/-- Records the reply for a line of so many bytes through a handle and passes the reply on. -/
def update (handle : Nat) (reply : Reply) (length : UInt64) (m : Meters) : Reply × Meters :=
  match m.handles[handle]? with
  | some cell => (reply, { m with cells := m.cells.modify cell (·.record reply length) })
  | none => (reply, m)

end Meters

end MetricCourier
