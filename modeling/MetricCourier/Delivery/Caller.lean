import MetricCourier.Delivery.Station

/-!
# Calls from other threads, access by access

What a caller of a station does is not done at once: each look at a flag, each operation on the
lock, on a channel or on a counter is an access of its own, with those of other threads in
between. This module has the three kinds of call in that detail, each as a type of phases and a
function to the next one.

* A `Submission` takes the read side of the lock, looks at the flags, puts its line into the
  queue and counts it, or counts that it was turned away, and lets go of the lock.
* A `StopCall` raises the stop flag and, if it was the first to do so, sends the stop message; a
  caller that wants to wait then looks whether the worker is done, waits for its message for
  some time, and looks again.
* A `StatsCall` reads the counters one after the other.

Calls that nobody disturbs are the operations of a station: `Station.submit` (`submission_alone`),
`Station.stop` (`stopCall_alone`) and `Station.stats` (`statsCall_alone`).
-/

namespace MetricCourier

/-- How far the submission of a line has got. -/
inductive Submission
  /-- It will take the read side of the lock. -/
  | arriving (line : Line)
  /-- It will look at the flags. -/
  | checking (line : Line)
  /-- It will put the line into the queue. -/
  | posting (line : Line)
  /-- Its line is in the queue and will be counted. -/
  | counting (line : Line)
  /-- Its line was turned away, which will be counted. -/
  | refusing (line : Line) (why : Refusal)
  /-- It will let go of the lock and then return. -/
  | departing (line : Line) (refusal : Option Refusal)
  /-- It has returned for this line: nothing, or why the line was not accepted. -/
  | returned (line : Line) (refusal : Option Refusal)
  deriving DecidableEq

/-- The next access of a submission; while the worker holds the write side of the lock the read side
cannot be taken. -/
def Submission.move (s : Station) : Submission → Option (Submission × Station)
  | arriving line =>
    if s.writer then none else some (checking line, { s with readers := s.readers + 1 })
  -- from here to `departing` the worker cannot close the queue
  | checking line => some (if s.refuses then refusing line .stopped else posting line, s)
  | posting line =>
    match s.post line with
    | .ok posted => some (counting line, posted)
    | .error why => some (refusing line why, s)
  | counting line => some (departing line none, s.countAccepted)
  | refusing line why => some (departing line (some why), s.countRefused line why)
  | departing line refusal => some (returned line refusal, { s with readers := s.readers - 1 })
  | returned _ _ => none

/-- Does the submission hold the read side of the lock? -/
def Submission.holdsLock : Submission → Bool
  | arriving _ | returned _ _ => false
  | _ => true

/-- How far a call to stop the worker has got; the flag says whether the caller wants to wait. -/
inductive StopCall
  /-- It will raise the stop flag. -/
  | raising (waits : Bool)
  /-- It was the first to raise the flag and will send the stop message. -/
  | sending (waits : Bool)
  /-- It will look whether the worker is done. -/
  | looking
  /-- It waits for the message that the worker is done. -/
  | blocked
  /-- Its time is up, and it will look once more whether the worker is done. -/
  | lookingAgain
  /-- It has returned: whether the worker was done, if it waited. -/
  | returned (done : Option Bool)
  deriving DecidableEq

namespace StopCall

/-- What follows once the worker has been asked to stop. -/
def asked (waits : Bool) : StopCall := if waits then looking else returned none

/-- The next access of a call to stop the worker; one that is blocked has none until the message
is there. -/
def move (s : Station) : StopCall → Option (StopCall × Station)
  -- looking at the flag and raising it are one access, so only one call finds it down
  | raising waits => some (if s.stopping then asked waits else sending waits, s.raiseStop)
  | sending waits => some (asked waits, s.sendStop)
  | looking => some (if s.stopped then returned (some true) else blocked, s)
  | blocked => s.receiveDone.map fun received => (returned (some true), received)
  | lookingAgain => some (returned (some s.stopped), s)
  | returned _ => none

/-- The end of a blocked call's time. -/
def timeOut : StopCall → Option StopCall
  | blocked => some lookingAgain
  | _ => none

end StopCall

/-- How far a reading of the counters has got, with what was read so far. -/
inductive StatsCall
  | starting
  | readRestarts (restarts : Nat)
  | readSubmitted (restarts submitted : Nat)
  | readDrained (restarts submitted drained : Nat)
  | readDropped (restarts submitted drained dropped : Nat)
  | returned (stats : Stats)
  deriving DecidableEq

/-- The next access of a reading; the last one reads the failures. -/
def StatsCall.move (s : Station) : StatsCall → Option StatsCall
  | starting => some (readRestarts s.restarts)
  | readRestarts restarts => some (readSubmitted restarts s.submitted)
  | readSubmitted restarts submitted => some (readDrained restarts submitted s.drained)
  | readDrained restarts submitted drained =>
    some (readDropped restarts submitted drained s.dropped)
  | readDropped restarts submitted drained dropped =>
    some (returned (Station.statsOf submitted dropped drained s.failed restarts))
  | returned _ => none

/-! ### Calls that nobody disturbs -/

/-- Makes up to so many accesses of a submission, one directly after the other. -/
def Submission.alone : Nat → Submission → Station → Submission × Station
  | 0, c, s => (c, s)
  | n + 1, c, s =>
    match c.move s with
    | none => (c, s)
    | some (d, t) => alone n d t

/-- Makes up to so many accesses of a call to stop the worker, one directly after the other. -/
def StopCall.alone : Nat → StopCall → Station → StopCall × Station
  | 0, c, s => (c, s)
  | n + 1, c, s =>
    match c.move s with
    | none => (c, s)
    | some (d, t) => alone n d t

/-- Makes up to so many accesses of a reading, one directly after the other. -/
def StatsCall.alone (s : Station) : Nat → StatsCall → StatsCall
  | 0, c => c
  | n + 1, c =>
    match c.move s with
    | none => c
    | some d => alone s n d

/-- The refusal in the answer to a submission, if there is one. -/
def refusalOf : Except Refusal Unit → Option Refusal
  | .ok () => none
  | .error why => some why

/-- A submission that nobody disturbs does what submitting at once does. -/
theorem Submission.submission_alone {s : Station} (line : Line) (h : s.writer = false) :
    (arriving line).alone 5 s =
      (returned line (refusalOf (s.submit line).1), (s.submit line).2) := by
  -- the flags do not depend on who holds the lock
  have hr' : ∀ n, Station.refuses { s with readers := n, writer := false } = s.refuses :=
    fun _ => rfl
  unfold Station.submit
  cases hr : s.refuses with
  | true => simp [alone, move, h, hr', hr, refusalOf, Station.countRefused, Station.note]
  | false =>
    -- past the flags it depends on the queue
    cases ht : s.lines.trySend line with
    | ok lines =>
      simp [alone, move, h, hr', hr, refusalOf, Station.post, ht, Station.countAccepted,
        Station.note]
    | error why =>
      cases why <;>
        simp [alone, move, h, hr', hr, refusalOf, Station.post, ht, Station.countRefused,
          Station.note]

/-- A call to stop the worker that nobody disturbs does what stopping at once does. -/
theorem StopCall.stopCall_alone (s : Station) :
    (raising false).alone 2 s = (returned none, s.stop) := by
  cases h : s.stopping with
  | true =>
    -- raising a flag that is up changes nothing
    have hs : s.raiseStop = s := by
      cases s
      simp_all [Station.raiseStop]
    simp [alone, move, h, asked, Station.stop, hs]
  | false => simp [alone, move, h, asked, Station.stop]

/-- A reading that nobody disturbs reports the counters as they are. -/
theorem StatsCall.statsCall_alone (s : Station) : alone s 5 starting = returned s.stats := rfl

end MetricCourier
