import MetricCourier.Proofs.Delivery.Access

/-!
# The journal against the worker

What the journal of a station says about lines, against where the lines are and what the worker has
counted. `Station.Ledger` has one clause for each of the worker's books:

* the lines that were accepted are those handed to the sink, then the one that the worker has taken
  and not yet passed on, then those that wait (`order`);
* the lines handed to the sink are those for which the sink's call has ended, then the one with
  which it is being called (`outcome`);
* the counters of drained lines, of failures and of restarts, and the warnings and errors in the
  log, are what these calls amount to, up to the one that the worker is still busy with.

Each clause is shown to be kept by every access of the worker on its own (`order_of_access` and so
on); they are put together in `Ledger.access`. What producers do is in the last section: of all
their accesses only the posting of a line shows in the worker's books.
-/

namespace MetricCourier

/-! ### What a phase says about the line at hand -/

namespace Phase

/-- The line that the worker has taken and not yet passed on. -/
def held : Phase → Option Line
  | taken _ line | counted _ line => some line
  | _ => none

/-- The line with which the sink is being called. -/
def inFlight : Phase → Option Line
  | sending _ line => some line
  | _ => none

/-- Has a line been counted as drained that is not handed over yet? -/
def isCounted : Phase → Bool
  | counted _ _ => true
  | _ => false

/-- Has a call of the sink failed that is not counted yet? -/
def isFailing : Phase → Bool
  | failing _ _ _ => true
  | _ => false

/-- Has the worker unwound without having been counted yet? -/
def isUnwinding : Phase → Bool
  | unwinding | unwound => true
  | _ => false

/-- The warning that the worker has yet to log. -/
def pendingWarning : Phase → Option LogRecord
  | failing _ line fault | reporting _ line fault => some (.lineUnsent line fault)
  | _ => none

/-- Has the worker unwound without its restart having been logged yet? -/
def isRestarting : Phase → Bool
  | unwinding | unwound | restarting => true
  | _ => false

end Phase

/-! ### What is logged of the calls of the sink -/

/-- The warning that is due for a line whose call ended like this. -/
def Call.warning? (line : Line) : Call Reply → Option LogRecord
  | returned (.failed fault) => some (.lineUnsent line fault)
  | _ => none

/-- Is this the warning for a line that could not be sent? -/
def LogRecord.isUnsent : LogRecord → Bool
  | lineUnsent _ _ => true
  | _ => false

/-- Is this the error for a worker that had to be restarted? -/
def LogRecord.isRestart : LogRecord → Bool
  | restarting _ => true
  | _ => false

namespace Station

/-! ### The readings of the journal -/

/-- The lines that were accepted, in order. -/
def accepted (s : Station) : List Line := Entry.readings Entry.accepted? s.journal

/-- The lines that were handed to the sink, in order. -/
def handed (s : Station) : List Line := Entry.readings Entry.handed? s.journal

/-- The lines for which the sink's call has ended, each with how it did, in order. -/
def ended (s : Station) : List (Line × Call Reply) := Entry.readings Entry.ended? s.journal

/-- What was logged, in order. -/
def records (s : Station) : List LogRecord := Entry.readings Entry.record? s.journal

/-- The lines that wait in the queue, in order. -/
def waiting (s : Station) : List Line := s.lines.waiting.toList

/-- The books of a worker are in order. -/
structure Ledger (s : Station) : Prop where
  /-- What was accepted was handed over, is held or waits, in this order. -/
  order : s.accepted = s.handed ++ s.phase.held.toList ++ s.waiting
  /-- What was handed over has ended or is in flight, in this order. -/
  outcome : s.handed = s.ended.map Prod.fst ++ s.phase.inFlight.toList
  /-- The lines handed over are counted as drained, before they are. -/
  drained : s.drained = s.handed.length + s.phase.isCounted.toNat
  /-- The calls that failed are counted, after they have. -/
  failed : s.failed + s.phase.isFailing.toNat = s.ended.countP (·.2.isFailure)
  /-- The calls that unwound are counted, after they have. -/
  restarts : s.restarts + s.phase.isUnwinding.toNat = s.ended.countP (·.2.isUnwound)
  /-- For each call that failed there is a warning that names its line and its fault. -/
  warnings : s.records.filter LogRecord.isUnsent ++ s.phase.pendingWarning.toList =
    s.ended.filterMap fun e => e.2.warning? e.1
  /-- For each call that unwound there is an error. -/
  errors : s.records.countP LogRecord.isRestart + s.phase.isRestarting.toNat =
    s.ended.countP (·.2.isUnwound)

variable {s t : Station} {m : Move}

theorem Ledger.new (threadName : String) (capacity : Nat) :
    (Station.new threadName capacity).Ledger := by
  constructor <;> rfl

/-! ### The worker keeps its books -/

/-- The order of lines is kept: a taken line was the first of those that wait, and a line that is
handed over was the one held. -/
theorem order_of_access (hI : s.accepted = s.handed ++ s.phase.held.toList ++ s.waiting)
    (h : Access m s t) : t.accepted = t.handed ++ t.phase.held.toList ++ t.waiting := by
  unfold accepted handed waiting at *
  cases h with
  | receiveLine hp hl | drain hp hl =>
    -- the first of those that wait becomes the one that is held
    have hfirst := Channel.toList_of_tryReceive hl
    simpa [hp, hfirst, Phase.held] using hI
  | @endWritten _ loop _ _ hp | @report _ loop _ _ hp =>
    -- the phase after a line depends on the loop, and has no line in either
    cases loop <;> simpa [hp, note, log, Phase.held, Loop.next, Entry.accepted?, Entry.handed?]
      using hI
  | _ => simp [note, log, Phase.held, Entry.accepted?, Entry.handed?, *]

/-- The call that ends is the one for the line in flight. -/
theorem outcome_of_access (hI : s.handed = s.ended.map Prod.fst ++ s.phase.inFlight.toList)
    (h : Access m s t) : t.handed = t.ended.map Prod.fst ++ t.phase.inFlight.toList := by
  unfold handed ended at *
  cases h with
  | @endWritten _ loop _ _ hp | @report _ loop _ _ hp =>
    -- the call is over, and the next phase has none in flight in either loop
    cases loop <;> simpa [hp, note, log, Phase.inFlight, Loop.next, Entry.ended?, Entry.handed?]
      using hI
  | _ => simp [note, log, Phase.inFlight, Entry.ended?, Entry.handed?, *]

/-- A line is counted as drained one access before it is handed over. -/
theorem drained_of_access (hI : s.drained = s.handed.length + s.phase.isCounted.toNat)
    (h : Access m s t) : t.drained = t.handed.length + t.phase.isCounted.toNat := by
  unfold handed at *
  cases h with
  | @endWritten _ loop _ _ hp | @report _ loop _ _ hp =>
    -- counting and handing over lie behind, so only the loop is left to settle
    cases loop <;> simpa [hp, note, log, Phase.isCounted, Loop.next, Entry.handed?] using hI
  | _ => simp [note, log, Phase.isCounted, Entry.handed?, *]

/-- A failure is counted one access after it. -/
theorem failed_of_access
    (hI : s.failed + s.phase.isFailing.toNat = s.ended.countP (·.2.isFailure))
    (h : Access m s t) :
    t.failed + t.phase.isFailing.toNat = t.ended.countP (·.2.isFailure) := by
  unfold ended at *
  cases h with
  -- only `endFailed` and the access after it touch either side
  | @endWritten _ loop _ _ hp | @report _ loop _ _ hp =>
    cases loop <;> simpa [hp, note, log, Phase.isFailing, Loop.next, Entry.ended?,
      Call.isFailure] using hI
  | _ => simpa [note, log, Phase.isFailing, Entry.ended?, Call.isFailure, *] using hI

/-- A call that unwound is counted two accesses after it. -/
theorem restarts_of_access
    (hI : s.restarts + s.phase.isUnwinding.toNat = s.ended.countP (·.2.isUnwound))
    (h : Access m s t) :
    t.restarts + t.phase.isUnwinding.toNat = t.ended.countP (·.2.isUnwound) := by
  unfold ended at *
  cases h with
  -- only `endUnwound` and the two accesses after it touch either side
  | @endWritten _ loop _ _ hp | @report _ loop _ _ hp =>
    cases loop <;> simpa [hp, note, log, Phase.isUnwinding, Loop.next, Entry.ended?,
      Call.isUnwound] using hI
  | _ => simpa [note, log, Phase.isUnwinding, Entry.ended?, Call.isUnwound, *] using hI

/-- A failure is logged two accesses after it, with its line and its fault. -/
theorem warnings_of_access
    (hI : s.records.filter LogRecord.isUnsent ++ s.phase.pendingWarning.toList =
      s.ended.filterMap fun e => e.2.warning? e.1)
    (h : Access m s t) :
    t.records.filter LogRecord.isUnsent ++ t.phase.pendingWarning.toList =
      t.ended.filterMap fun e => e.2.warning? e.1 := by
  unfold records ended at *
  cases h with
  | @endWritten _ loop _ _ hp | @report _ loop _ _ hp =>
    -- `report` logs the warning that was due, so that none is left
    cases loop <;> simpa [hp, note, log, Phase.pendingWarning, Loop.next, Entry.record?,
      Entry.ended?, Call.warning?, LogRecord.isUnsent, List.filter_cons] using hI
  | endFailed fault hp =>
    -- the warning is due from now on, and `report` will log it
    simpa [hp, note, Phase.pendingWarning, Entry.record?, Entry.ended?, Call.warning?] using hI
  | _ =>
    simpa [note, log, Phase.pendingWarning, Entry.record?, Entry.ended?, Call.warning?,
      LogRecord.isUnsent, *] using hI

/-- A restart is logged once the call that unwound has been counted. -/
theorem errors_of_access
    (hI : s.records.countP LogRecord.isRestart + s.phase.isRestarting.toNat =
      s.ended.countP (·.2.isUnwound))
    (h : Access m s t) :
    t.records.countP LogRecord.isRestart + t.phase.isRestarting.toNat =
      t.ended.countP (·.2.isUnwound) := by
  unfold records ended at *
  cases h with
  | @endWritten _ loop _ _ hp | @report _ loop _ _ hp =>
    -- no call that ends like this unwinds, and no error is logged
    cases loop <;> simpa [hp, note, log, Phase.isRestarting, Loop.next, Entry.record?,
      Entry.ended?, Call.isUnwound, LogRecord.isRestart] using hI
  | _ =>
    simpa [note, log, Phase.isRestarting, Entry.record?, Entry.ended?, Call.isUnwound,
      LogRecord.isRestart, *] using hI

/-- **Every access of the worker keeps its books in order.** -/
theorem Ledger.access (hI : s.Ledger) (h : Access m s t) : t.Ledger where
  order := order_of_access hI.order h
  outcome := outcome_of_access hI.outcome h
  drained := drained_of_access hI.drained h
  failed := failed_of_access hI.failed h
  restarts := restarts_of_access hI.restarts h
  warnings := warnings_of_access hI.warnings h
  errors := errors_of_access hI.errors h

/-! ### The calls of the sink that have ended -/

/-- How the call of the sink ends, if one ends with the access. -/
def Move.completion? : Move → Option (Call Reply)
  | finish call => some call
  | _ => none

/-- A call of the sink that ends was the one for the line in flight. -/
theorem ended_of_finish {call : Call Reply} (hm : m.completion? = some call)
    (h : Access m s t) :
    ∃ loop line, s.phase = .sending loop line ∧ t.ended = s.ended ++ [(line, call)] := by
  cases h with
  | @endWritten _ loop line _ hp | @endFailed _ loop line _ hp | @endUnwound _ loop line hp =>
    cases hm
    exact ⟨loop, line, hp, by simp [ended, note, Entry.ended?]⟩
  | _ => cases hm

/-- No other access of the worker ends a call of the sink. -/
theorem ended_of_access (hm : m.completion? = none) (h : Access m s t) : t.ended = s.ended := by
  cases h with
  | endWritten _ _ | endFailed _ _ | endUnwound _ => cases hm
  | _ => simp [ended, note, log, Entry.ended?]

/-! ### What producers do to the books -/

/-- What a call does to the worker's books: it leaves them alone, except that a line may be
accepted, which then waits behind all others. -/
structure Posts (lines : List Line) (s t : Station) : Prop where
  accepted : t.accepted = s.accepted ++ lines
  waiting : t.waiting = s.waiting ++ lines
  handed : t.handed = s.handed
  ended : t.ended = s.ended
  records : t.records = s.records
  phase : t.phase = s.phase
  drained : t.drained = s.drained
  failed : t.failed = s.failed
  restarts : t.restarts = s.restarts

/-- A line that is accepted takes its place in the order. -/
theorem Ledger.posts {lines : List Line} (hI : s.Ledger) (h : Posts lines s t) : t.Ledger where
  order := by
    -- the new line comes behind all that wait, and so behind all that were accepted
    rw [h.accepted, h.handed, h.phase, h.waiting, hI.order, List.append_assoc]
  outcome := by rw [h.handed, h.ended, h.phase, hI.outcome]
  drained := by rw [h.drained, h.handed, h.phase, hI.drained]
  failed := by rw [h.failed, h.ended, h.phase, hI.failed]
  restarts := by rw [h.restarts, h.ended, h.phase, hI.restarts]
  warnings := by rw [h.records, h.ended, h.phase, hI.warnings]
  errors := by rw [h.records, h.ended, h.phase, hI.errors]

end Station

/-- The line that a submission has put into the queue. -/
def Submission.admitted? : Submission → Option Line
  | counting line | departing line none | returned line none => some line
  | _ => none

/-- A submission either puts its line into the queue, to count it next, or posts nothing. -/
theorem Submission.Access.posts {s t : Station} {c d : Submission} (h : Access s c t d) :
    (∃ line, c = .posting line ∧ d = .counting line ∧ Station.Posts [line] s t) ∨
      ((Caller.submission d).isCounting = false ∧ d.admitted? = c.admitted? ∧
        Station.Posts [] s t) := by
  cases h with
  | post hl =>
    -- the one access that a reading of the journal shows, and only as an accepted line
    refine Or.inl ⟨_, rfl, rfl, ?_, ?_, ?_, ?_, ?_, rfl, rfl, rfl, rfl⟩
    · simp [Station.accepted, Station.note, Entry.accepted?]
    · exact Channel.toList_of_trySend hl
    · simp [Station.handed, Station.note, Entry.handed?]
    · simp [Station.ended, Station.note, Entry.ended?]
    · simp [Station.records, Station.note, Entry.record?]
  | countRefusal why =>
    refine Or.inr ⟨rfl, rfl, ?_, ?_, ?_, ?_, ?_, rfl, rfl, rfl, rfl⟩
    · simp [Station.accepted, Station.countRefused, Station.note, Entry.accepted?]
    · simp [Station.waiting, Station.countRefused, Station.note]
    · simp [Station.handed, Station.countRefused, Station.note, Entry.handed?]
    · simp [Station.ended, Station.countRefused, Station.note, Entry.ended?]
    · simp [Station.records, Station.countRefused, Station.note, Entry.record?]
  | depart refusal =>
    refine Or.inr ⟨rfl, by cases refusal <;> rfl, ?_, ?_, rfl, rfl, rfl, rfl, rfl, rfl, rfl⟩
    · exact (List.append_nil _).symm
    · exact (List.append_nil _).symm
  | _ =>
    exact Or.inr ⟨rfl, rfl, (List.append_nil _).symm, (List.append_nil _).symm, rfl, rfl, rfl,
      rfl, rfl, rfl, rfl⟩

theorem Submission.Access.ledger {s t : Station} {c d : Submission} (h : Access s c t d)
    (hI : s.Ledger) : t.Ledger := by
  -- with a line or without one
  obtain ⟨_, -, -, hposts⟩ | ⟨-, -, hposts⟩ := h.posts
  · exact hI.posts hposts
  · exact hI.posts hposts

/-- A call to stop the worker posts no line. -/
theorem StopCall.Access.posts {s t : Station} {c d : StopCall} (h : Access s c t d) :
    Station.Posts [] s t := by
  cases h with
  | send =>
    -- the message that is sent shows in the journal, but in none of the readings about lines
    unfold Station.sendStop
    split
    · refine ⟨?_, ?_, ?_, ?_, ?_, rfl, rfl, rfl, rfl⟩
      · simp [Station.accepted, Station.note, Entry.accepted?]
      · simp [Station.waiting, Station.note]
      · simp [Station.handed, Station.note, Entry.handed?]
      · simp [Station.ended, Station.note, Entry.ended?]
      · simp [Station.records, Station.note, Entry.record?]
    · exact ⟨(List.append_nil _).symm, (List.append_nil _).symm, rfl, rfl, rfl, rfl, rfl, rfl, rfl⟩
  | _ =>
    exact ⟨(List.append_nil _).symm, (List.append_nil _).symm, rfl, rfl, rfl, rfl, rfl, rfl, rfl⟩

/-- How the call of the sink ends, if one ends with the access. -/
def Action.completion? : Action → Option (Call Reply)
  | worker m => m.completion?
  | _ => none

namespace System

theorem ledger_of_access {s t : System} {action : Action} (hI : s.station.Ledger)
    (h : Access action s t) : t.station.Ledger := by
  cases h with
  | worker h => exact hI.access h
  | submission _ h => exact h.ledger hI
  | stop _ h => exact hI.posts h.posts
  | arrive _ | stats _ _ | timeOut _ => exact hI

/-- A call of the sink that ends was the one for the line in flight. -/
theorem ended_of_finish {s t : System} {action : Action} {call : Call Reply}
    (hends : action.completion? = some call) (h : Access action s t) :
    ∃ loop line, s.station.phase = .sending loop line ∧
      t.station.ended = s.station.ended ++ [(line, call)] := by
  cases h with
  | worker h => exact Station.ended_of_finish hends h
  | _ => cases hends

/-- No other access ends a call of the sink. -/
theorem ended_of_access {s t : System} {action : Action} (hne : action.completion? = none)
    (h : Access action s t) : t.station.ended = s.station.ended := by
  cases h with
  | worker h => exact Station.ended_of_access hne h
  | submission _ h =>
    obtain ⟨_, -, -, hposts⟩ | ⟨-, -, hposts⟩ := h.posts
    · exact hposts.ended
    · exact hposts.ended
  | stop _ h => exact h.posts.ended
  | arrive _ | stats _ _ | timeOut _ => rfl

/-- **The worker's books are in order in every reachable system.** -/
theorem Reachable.ledger {threadName : String} {capacity : Nat} {s : System}
    (h : Reachable threadName capacity s) : s.station.Ledger :=
  h.induction (Station.Ledger.new threadName capacity) fun _ _ _ hI hact =>
    ledger_of_access hI (access_of_act hact)

end System

end MetricCourier
