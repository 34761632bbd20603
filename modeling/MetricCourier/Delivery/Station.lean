import MetricCourier.Channel.Basic
import MetricCourier.Delivery.Journal

/-!
# The delivery station

Lines are delivered behind the back of their producers: a producer puts its line into a bounded
queue and goes on, and a single worker takes the lines out and hands them to the sink, one at a
time. A `Station` is everything the producers and the worker share: the queue, the flags and
messages with which the worker is stopped, the counters, and how far the worker has got (`Phase`).

This module has what producers do to a station, how its worker is asked to stop, and what is
reported. Each operation comes twice: in the single accesses that it is made of, between which other
threads may do something, and as a whole for the case that none does (`Station.submit`,
`Station.stop`, `Station.stats`).

A producer holds the read side of a lock from before it looks at the flags until it has counted its
line, and the worker needs the write side to close the queue. So a line that is accepted is in the
queue before the worker starts the last draining of it, and no line is accepted later.

A worker whose call of the sink unwinds is replaced by a new thread (`Phase.restarting`). It is
assumed that this thread can be created. Where the operating system refuses it, that is logged and
the delivery given up for good, with the queue left open; no such run is a run of a station here.

The counters are kept as exact totals and reported as words.
-/

namespace MetricCourier

/-- The two loops in which a worker delivers lines. -/
inductive Loop
  /-- Until it is stopped. -/
  | serving
  /-- After the queue is closed, until the queue is empty. -/
  | draining
  deriving DecidableEq

/-- How far the worker has got: what its next access will be. -/
inductive Phase
  /-- It is a new thread and will enter the context. -/
  | starting
  /-- It will look at the stop flag. -/
  | checking
  /-- It waits for a line or for the stop message. -/
  | waiting
  /-- It has taken a line and will count it. -/
  | taken (loop : Loop) (line : Line)
  /-- It has counted the line and will hand it to the sink. -/
  | counted (loop : Loop) (line : Line)
  /-- It waits for the call of the sink to end. -/
  | sending (loop : Loop) (line : Line)
  /-- The sink failed, and it will count that. -/
  | failing (loop : Loop) (line : Line) (fault : IoFault)
  /-- It has counted the failure and will log it. -/
  | reporting (loop : Loop) (line : Line) (fault : IoFault)
  /-- It waits for the write side of the lock. -/
  | closing
  /-- It holds the write side, and will close the queue and let go. -/
  | locked
  /-- It will look for another line in the closed queue. -/
  | draining
  /-- It will log that it is done. -/
  | announcing
  /-- It will set the flag that it is done. -/
  | marking
  /-- It will send the message that it is done. -/
  | signalling
  /-- It will leave the context. -/
  | leaving
  /-- It is over. -/
  | finished
  /-- The sink unwound, and it will leave the context. -/
  | unwinding
  /-- It has unwound, which will be counted. -/
  | unwound
  /-- Its unwinding has been counted, and its restart will be logged. -/
  | restarting
  deriving DecidableEq

/-- What a worker does once it is through with a line. -/
def Loop.next : Loop → Phase
  | serving => .checking
  | draining => .draining

/-- Everything that producers and the worker share. -/
structure Station where
  threadName : String
  /-- The queue, with its limit. -/
  lines : Channel Line
  /-- The message that wakes a waiting worker to stop. -/
  stopMessage : Channel Unit := .new (some 1)
  /-- The message that the worker is done. -/
  doneMessage : Channel Unit := .new (some 1)
  /-- Has the worker been asked to stop? -/
  stopping : Bool := false
  /-- Has the worker closed the queue? -/
  closed : Bool := false
  /-- Is the worker done? -/
  stopped : Bool := false
  /-- The number of producers on the read side of the lock. -/
  readers : Nat := 0
  /-- Does a worker hold the write side of the lock? -/
  writer : Bool := false
  /-- The lines that were accepted. -/
  submitted : Nat := 0
  /-- The lines that were turned away. -/
  dropped : Nat := 0
  /-- The lines that the worker took to deliver. -/
  drained : Nat := 0
  /-- The lines for which the sink failed. -/
  failed : Nat := 0
  /-- The calls of the sink that unwound. -/
  restarts : Nat := 0
  /-- Does the worker have to leave the context? -/
  inContext : Bool := false
  phase : Phase := .starting
  /-- What happened so far, the newest first. -/
  journal : List Entry := []

/-- The counters of a station as they are reported. -/
structure Stats where
  submitted : UInt64
  dropped : UInt64
  drained : UInt64
  failed : UInt64
  restarts : UInt64
  /-- The lines that wait, as far as two counters that were read one after the other can tell. -/
  queued : UInt64
  deriving DecidableEq

namespace Station

/-- A station with an empty queue of the given capacity, whose worker has yet to start. -/
def new (threadName : String) (capacity : Nat) : Station :=
  { threadName, lines := .new (some capacity) }

/-- Writes an entry into the journal. -/
def note (entry : Entry) (s : Station) : Station := { s with journal := entry :: s.journal }

/-- Logs a record. -/
def log (record : LogRecord) (s : Station) : Station := s.note (.logged record)

/-- Everything that happened so far, in order. -/
def history (s : Station) : List Entry := s.journal.reverse

/-! ### What producers do -/

/-- Is the station past accepting lines? -/
def refuses (s : Station) : Bool := s.closed || s.stopping

/-- Puts a line into the queue without waiting. -/
def post (line : Line) (s : Station) : Except Refusal Station :=
  match s.lines.trySend line with
  | .ok lines => .ok ({ s with lines }.note (.accepted line))
  | .error .full => .error .full
  | .error .disconnected => .error .disconnected

/-- Counts a line that was accepted. -/
def countAccepted (s : Station) : Station := { s with submitted := s.submitted + 1 }

/-- Counts a line that was turned away. -/
def countRefused (line : Line) (why : Refusal) (s : Station) : Station :=
  { s with dropped := s.dropped + 1 }.note (.refused line why)

/-- Submits a line, with nobody else doing anything meanwhile. -/
def submit (line : Line) (s : Station) : Except Refusal Unit × Station :=
  if s.refuses then (.error .stopped, s.countRefused line .stopped)
  else
    -- a line counts as accepted only once it is in the queue
    match s.post line with
    | .ok posted => (.ok (), posted.countAccepted)
    | .error why => (.error why, s.countRefused line why)

/-! ### How a worker is stopped -/

/-- Raises the stop flag. -/
def raiseStop (s : Station) : Station := { s with stopping := true }

/-- Sends the stop message; if one is waiting already, that one does. -/
def sendStop (s : Station) : Station :=
  match s.stopMessage.trySend () with
  | .ok stopMessage => { s with stopMessage }.note .stopSent
  -- never seen where the flag decides who sends
  | .error _ => s

/-- Asks the worker to stop, with nobody else doing anything meanwhile: whoever raises the flag
also sends the message. -/
def stop (s : Station) : Station := if s.stopping then s else s.raiseStop.sendStop

/-- Takes the message that the worker is done, if it is there. -/
def receiveDone (s : Station) : Option Station :=
  s.doneMessage.tryReceive.map fun (_, doneMessage) => { s with doneMessage }

/-! ### What is reported -/

/-- The report of counters that were read with the given values; fewer lines submitted than
drained are reported as none waiting. -/
def statsOf (submitted dropped drained failed restarts : Nat) : Stats :=
  let submitted := UInt64.ofNat submitted
  let drained := UInt64.ofNat drained
  { submitted
    dropped := UInt64.ofNat dropped
    drained
    failed := UInt64.ofNat failed
    restarts := UInt64.ofNat restarts
    -- a line may be accepted and drained between the two readings
    queued := if drained ≤ submitted then submitted - drained else 0 }

/-- The counters, with nobody doing anything while they are read. -/
def stats (s : Station) : Stats := statsOf s.submitted s.dropped s.drained s.failed s.restarts

/-- Counters that fit in a word are reported as they are, and as waiting is reported what was
submitted and not drained; the difference never wraps around. -/
theorem toNat_statsOf {submitted drained : Nat} (hsubmitted : submitted < UInt64.size)
    (hdrained : drained < UInt64.size) (dropped failed restarts : Nat) :
    (statsOf submitted dropped drained failed restarts).submitted.toNat = submitted ∧
      (statsOf submitted dropped drained failed restarts).drained.toNat = drained ∧
      (statsOf submitted dropped drained failed restarts).queued.toNat = submitted - drained := by
  have hsubmitted' : (UInt64.ofNat submitted).toNat = submitted :=
    UInt64.toNat_ofNat_of_lt' hsubmitted
  have hdrained' : (UInt64.ofNat drained).toNat = drained := UInt64.toNat_ofNat_of_lt' hdrained
  refine ⟨hsubmitted', hdrained', ?_⟩
  change (if UInt64.ofNat drained ≤ UInt64.ofNat submitted then
    UInt64.ofNat submitted - UInt64.ofNat drained else 0).toNat = _
  split
  · next hle => rw [UInt64.toNat_sub_of_le _ _ hle, hsubmitted', hdrained']
  · next hlt =>
    rw [UInt64.le_iff_toNat_le, hsubmitted', hdrained'] at hlt
    exact (Nat.sub_eq_zero_of_le (Nat.le_of_not_le hlt)).symm

end Station

end MetricCourier
