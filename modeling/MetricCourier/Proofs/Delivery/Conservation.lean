import MetricCourier.Delivery.Wired
import MetricCourier.Proofs.Delivery.Books
import MetricCourier.Proofs.Sink.Metered

/-!
# The counters agree

Producers, the worker and the sink count for themselves, each at its own moment, and what they
count agrees when nobody is in the middle of counting: when no submission is under way, and the
worker is in a call of the sink or between two lines (`Phase.isSettled`). `Wired.Balanced` lists
what then agrees, from the submissions that returned to the bytes that the sink says it has written
and lost, and the log.

All of it comes down to the calls of the sink that have ended. The counters of the station follow
them up to what the worker has yet to do (`Station.Ledger`), those of a metered sink are their tally
(`Wired.Reachable.traffic_eq`), and what was accepted but has not been handed over waits in the
queue. The reports are in words, so this is about stations that accepted and turned away fewer lines
than a word can count; the bytes are sums of words and may wrap around.
-/

namespace MetricCourier

/-- Is the worker in a call of the sink, or between two lines with nothing left to count or log? -/
def Phase.isSettled : Phase → Bool
  | starting | checking | waiting | sending _ _ | closing | locked | draining | announcing | marking
  | signalling | leaving | finished => true
  | _ => false

/-- Nothing is on its way into the counters while the worker is settled. -/
theorem Phase.nothing_pending {p : Phase} (h : p.isSettled = true) :
    p.held = none ∧ p.isCounted = false ∧ p.isFailing = false ∧ p.isUnwinding = false ∧
      p.pendingWarning = none ∧ p.isRestarting = false := by
  cases p with
  | starting | checking | waiting | sending _ _ | closing | locked | draining | announcing
  | marking | signalling | leaving | finished => exact ⟨rfl, rfl, rfl, rfl, rfl, rfl⟩
  | _ => cases h

namespace Caller

/-- Has the call returned with its line accepted? -/
def isAccepted : Caller → Bool
  | submission (.returned _ none) => true
  | _ => false

/-- Has the call returned with its line turned away? -/
def isTurnedAway : Caller → Bool
  | submission (.returned _ (some _)) => true
  | _ => false

/-- A call that is not in the middle of a submission is counted if it has returned from one. -/
theorem counted_of_idle {call : Caller} (h : call.holdsLock = false) :
    call.isCountedIn = call.isAccepted ∧ call.isCountedOut = call.isTurnedAway ∧
      call.isCounting = false := by
  cases call with
  | stop c | stats c => exact ⟨rfl, rfl, rfl⟩
  | submission c =>
    -- outside the lock a submission has not begun or has returned
    cases c with
    | arriving line => exact ⟨rfl, rfl, rfl⟩
    | returned line refusal => cases refusal <;> exact ⟨rfl, rfl, rfl⟩
    | _ => cases h

end Caller

/-! ### What the sink has counted -/

namespace Wired

variable {σ : Type} {wrapped : Sink σ} {w v : Wired σ}

/-- What happens to a wired system happens to the system in it. When a call of the sink ends, the
sink has answered like that; otherwise it was left alone. -/
theorem system_of_act {action : Action} (h : w.act wrapped action = some v) :
    w.system.act action = some v.system ∧
      ((∃ call loop line, action.completion? = some call ∧
          w.system.station.phase = .sending loop line ∧
          wrapped.emit line w.sink = (call, v.sink)) ∨
        (action.completion? = none ∧ v.sink = w.sink)) := by
  -- all accesses but the end of a call of the sink leave the sink alone
  have hother : (w.system.act action).map (fun system => { w with system }) = some v →
      w.system.act action = some v.system ∧ v.sink = w.sink := by
    intro hact
    rw [Option.map_eq_some_iff] at hact
    obtain ⟨system, hsystem, rfl⟩ := hact
    exact ⟨hsystem, rfl⟩
  cases action with
  | worker m =>
    cases m with
    | finish call =>
      change w.finish wrapped call = some v at h
      unfold finish at h
      split at h
      · next loop line hp =>
        change (if call = (wrapped.emit line w.sink).1 then _ else none) = _ at h
        -- had the sink answered otherwise, the call could not have ended like this
        split at h
        · next hanswer =>
          rw [Option.map_eq_some_iff] at h
          obtain ⟨system, hsystem, rfl⟩ := h
          exact ⟨hsystem, Or.inl ⟨call, loop, line, rfl, hp, by rw [hanswer]⟩⟩
        · cases h
      · cases h
    | _ =>
      obtain ⟨hsystem, hsink⟩ := hother h
      exact ⟨hsystem, Or.inr ⟨rfl, hsink⟩⟩
  | _ =>
    obtain ⟨hsystem, hsink⟩ := hother h
    exact ⟨hsystem, Or.inr ⟨rfl, hsink⟩⟩

/-- What the state of the sink has to do with the calls that have ended is kept by every access, if
it is kept by a call. -/
theorem follows_of_act {motive : σ → List (Line × Call Reply) → Prop}
    (step : ∀ line sink ended, motive sink ended →
      motive (wrapped.emit line sink).2 (ended ++ [(line, (wrapped.emit line sink).1)]))
    {action : Action} (hI : motive w.sink w.system.station.ended)
    (h : w.act wrapped action = some v) : motive v.sink v.system.station.ended := by
  obtain ⟨hact, hsink⟩ := system_of_act h
  have haccess := System.access_of_act hact
  obtain ⟨call, loop, line, hends, hp, hemit⟩ | ⟨hnone, hsink⟩ := hsink
  · -- the call that ends is both what the sink has answered and what the journal has
    obtain ⟨_, _, hp', hlast⟩ := System.ended_of_finish hends haccess
    rw [hp] at hp'
    cases hp'
    have hstep := step line w.sink _ hI
    rw [hemit] at hstep
    rw [hlast]
    exact hstep
  · rw [hsink, System.ended_of_access hnone haccess]
    exact hI

variable {start : σ} {threadName : String} {capacity : Nat}

theorem follows_of_run {motive : σ → List (Line × Call Reply) → Prop}
    (step : ∀ line sink ended, motive sink ended →
      motive (wrapped.emit line sink).2 (ended ++ [(line, (wrapped.emit line sink).1)]))
    {actions : List Action} (hw : System.Reachable threadName capacity w.system)
    (hI : motive w.sink w.system.station.ended) (hrun : w.run wrapped actions = some v) :
    System.Reachable threadName capacity v.system ∧ motive v.sink v.system.station.ended := by
  induction actions generalizing w with
  | nil =>
    rw [run_nil] at hrun
    cases hrun
    exact ⟨hw, hI⟩
  | cons action rest ih =>
    -- both are kept by the first access, and then by those after it
    rw [run_cons, Option.bind_eq_some_iff] at hrun
    obtain ⟨u, hu, hrest⟩ := hrun
    exact ih (hw.act (system_of_act hu).1) (follows_of_act step hI hu) hrest

/-- What is true of the sink before its first call, and kept by every call, is true of the sink and
the calls that have ended in every reachable wired system. -/
theorem Reachable.follows {motive : σ → List (Line × Call Reply) → Prop} (first : motive start [])
    (step : ∀ line sink ended, motive sink ended →
      motive (wrapped.emit line sink).2 (ended ++ [(line, (wrapped.emit line sink).1)]))
    (h : Reachable wrapped start threadName capacity w) :
    System.Reachable threadName capacity w.system ∧ motive w.sink w.system.station.ended := by
  obtain ⟨actions, hrun⟩ := h
  exact follows_of_run step ⟨[], rfl⟩ first hrun

/-- **A metered sink has counted the calls that have ended.** -/
theorem Reachable.traffic_eq (hmeter : wrapped.Metered) (hfresh : wrapped.traffic start = {})
    (h : Reachable wrapped start threadName capacity w) :
    System.Reachable threadName capacity w.system ∧
      wrapped.traffic w.sink = .tally w.system.station.ended := by
  refine h.follows (motive := fun sink ended => wrapped.traffic sink = .tally ended) hfresh ?_
  -- a tally of one call more is what a metered sink makes of its answer
  intro line sink ended hcounted
  rw [hmeter.traffic_emit, hcounted, Traffic.tally_concat]

end Wired

/-! ### Exact counts -/

/-- What the worker has counted and logged when it is settled, by the calls of the sink that have
ended. -/
theorem Station.Ledger.settled {s : Station} (hI : s.Ledger) (h : s.phase.isSettled = true) :
    s.accepted.length = s.drained + s.waiting.length ∧
      s.drained = s.ended.length + s.phase.inFlight.toList.length ∧
      s.failed = (lostBy s.ended).length ∧ s.restarts = unwoundBy s.ended ∧
      s.records.filter LogRecord.isUnsent = (s.ended.filterMap fun e => e.2.warning? e.1) ∧
      s.records.countP LogRecord.isRestart = unwoundBy s.ended := by
  obtain ⟨hheld, hcounted, hfailing, hunwinding, hpending, hrestarting⟩ :=
    Phase.nothing_pending h
  have horder := congrArg List.length hI.order
  have houtcome := congrArg List.length hI.outcome
  have hdrained := hI.drained
  have hfailed := hI.failed
  have hrestarts := hI.restarts
  have hwarnings := hI.warnings
  have herrors := hI.errors
  -- with nothing pending each book of the ledger says what its counter is
  rw [hheld, Option.toList_none, List.append_nil, List.length_append] at horder
  rw [List.length_append, List.length_map] at houtcome
  rw [hcounted, Bool.toNat_false, Nat.add_zero] at hdrained
  rw [hfailing, Bool.toNat_false, Nat.add_zero] at hfailed
  rw [hunwinding, Bool.toNat_false, Nat.add_zero] at hrestarts
  rw [hpending, Option.toList_none, List.append_nil] at hwarnings
  rw [hrestarting, Bool.toNat_false, Nat.add_zero] at herrors
  refine ⟨by rw [horder, hdrained], by rw [hdrained, houtcome], ?_, hrestarts, hwarnings, herrors⟩
  rw [hfailed, lostBy, List.length_map, List.countP_eq_length_filter]

/-- What producers have counted when none of them is in the middle of a submission. -/
theorem System.Books.idle {s : System} (hI : s.Books)
    (h : ∀ call ∈ s.callers, call.holdsLock = false) :
    s.station.submitted = s.callers.countP Caller.isAccepted ∧
      s.station.dropped = s.callers.countP Caller.isTurnedAway ∧
      s.station.accepted.length = s.station.submitted := by
  refine ⟨?_, ?_, ?_⟩
  · rw [hI.submitted]
    refine List.countP_congr fun call hmem => ?_
    rw [(Caller.counted_of_idle (h call hmem)).1]
  · rw [hI.dropped]
    refine List.countP_congr fun call hmem => ?_
    rw [(Caller.counted_of_idle (h call hmem)).2.1]
  · -- an accepted line would be about to be counted under the lock
    have hnone : s.callers.countP Caller.isCounting = 0 := by
      rw [List.countP_eq_zero]
      intro call hmem
      rw [(Caller.counted_of_idle (h call hmem)).2.2]
      exact Bool.false_ne_true
    rw [hI.accepted, hnone, Nat.add_zero]

/-- Counters that fit in a word are reported as they are. -/
theorem Station.toNat_stats {s : Station} (hsubmitted : s.submitted < UInt64.size)
    (hdropped : s.dropped < UInt64.size) (hdrained : s.drained ≤ s.submitted)
    (hfailed : s.failed ≤ s.drained) (hrestarts : s.restarts ≤ s.drained) :
    s.stats.submitted.toNat = s.submitted ∧ s.stats.dropped.toNat = s.dropped ∧
      s.stats.drained.toNat = s.drained ∧ s.stats.failed.toNat = s.failed ∧
      s.stats.restarts.toNat = s.restarts ∧
      s.stats.queued.toNat = s.submitted - s.drained := by
  obtain ⟨hsubmitted', hdrained', hqueued⟩ :=
    toNat_statsOf hsubmitted (show s.drained < UInt64.size by omega) s.dropped s.failed s.restarts
  exact ⟨hsubmitted', UInt64.toNat_ofNat_of_lt' hdropped, hdrained',
    UInt64.toNat_ofNat_of_lt' (by omega), UInt64.toNat_ofNat_of_lt' (by omega), hqueued⟩

namespace Wired

variable {σ : Type}

/-- The counters of the station as they are reported. -/
def stats (w : Wired σ) : Stats := w.system.station.stats

/-- The traffic of the sink as it is reported. -/
def traffic (wrapped : Sink σ) (w : Wired σ) : Traffic := wrapped.traffic w.sink

/-- The calls of the sink that have ended, in order. -/
def calls (w : Wired σ) : List (Line × Call Reply) := w.system.station.ended

/-- Everything that is counted and logged agrees with the submissions that returned, the lines that
wait and the calls of the sink that have ended. -/
structure Balanced (wrapped : Sink σ) (capacity : Nat) (w : Wired σ) : Prop where
  submitted : w.stats.submitted.toNat = w.system.callers.countP Caller.isAccepted
  dropped : w.stats.dropped.toNat = w.system.callers.countP Caller.isTurnedAway
  queued : w.stats.queued.toNat = w.system.station.waiting.length
  queued_le : w.stats.queued.toNat ≤ capacity
  /-- What was submitted was drained or waits. -/
  submitted_eq : w.stats.submitted.toNat = w.stats.drained.toNat + w.stats.queued.toNat
  failed : w.stats.failed.toNat = (lostBy w.calls).length
  restarts : w.stats.restarts.toNat = unwoundBy w.calls
  /-- What was drained was written, failed, unwound or is in flight. -/
  drained : w.stats.drained.toNat = (writtenBy w.calls).length + w.stats.failed.toNat +
    w.stats.restarts.toNat + w.system.station.phase.inFlight.toList.length
  packetsSent : (w.traffic wrapped).packetsSent.toNat = (writtenBy w.calls).length
  packetsDropped : (w.traffic wrapped).packetsDropped.toNat = w.stats.failed.toNat
  bytesSent : (w.traffic wrapped).bytesSent.toNat =
    ((writtenBy w.calls).map UInt64.toNat).sum % UInt64.size
  bytesDropped : (w.traffic wrapped).bytesDropped.toNat =
    ((lostBy w.calls).map Line.byteLength).sum % UInt64.size
  /-- The log has a warning for each line that was lost, with its fault. -/
  warnings : w.system.station.records.filter LogRecord.isUnsent =
    w.calls.filterMap fun e => e.2.warning? e.1
  /-- The log has an error for each restart. -/
  errors : w.system.station.records.countP LogRecord.isRestart = w.stats.restarts.toNat

variable {wrapped : Sink σ} {w : Wired σ} {start : σ} {threadName : String} {capacity : Nat}

/-- **The counters agree across the layers.** Whatever was submitted, in whatever order the accesses
of producers, of the worker and of those who stop it came, and however the calls of a metered sink
ended: when no submission is under way and the worker is settled, the station's counters, the
sink's and the log say the same. -/
theorem counters_agree (hmeter : wrapped.Metered) (hfresh : wrapped.traffic start = {})
    (h : Reachable wrapped start threadName capacity w)
    (hidle : ∀ call ∈ w.system.callers, call.holdsLock = false)
    (hsettled : w.system.station.phase.isSettled = true)
    (haccepted : w.system.callers.countP Caller.isAccepted < UInt64.size)
    (haway : w.system.callers.countP Caller.isTurnedAway < UInt64.size) :
    w.Balanced wrapped capacity := by
  obtain ⟨hsystem, htraffic⟩ := h.traffic_eq hmeter hfresh
  obtain ⟨hsubmitted, hdropped, hall⟩ := hsystem.books.idle hidle
  obtain ⟨horder, hdrained, hfailed, hrestarts, hwarnings, herrors⟩ :=
    hsystem.ledger.settled hsettled
  have hroom : w.system.station.waiting.length ≤ capacity := hsystem.bounded.size_le
  have hcalls := length_eq_by_outcome w.system.station.ended
  -- the other counters are at most that of the lines submitted, so none has wrapped around
  have hin : w.system.station.submitted < UInt64.size := hsubmitted ▸ haccepted
  have hout : w.system.station.dropped < UInt64.size := hdropped ▸ haway
  obtain ⟨hsubmitted', hdropped', hdrained', hfailed', hrestarts', hqueued'⟩ :=
    Station.toNat_stats hin hout (by omega) (by omega) (by omega)
  -- what the sink has counted in packets is among what was drained
  have hwritten : (writtenBy w.system.station.ended).length < UInt64.size := by omega
  have hlost : (lostBy w.system.station.ended).length < UInt64.size := by omega
  exact {
    submitted := hsubmitted'.trans hsubmitted
    dropped := hdropped'.trans hdropped
    queued := by rw [stats, hqueued']; omega
    queued_le := by rw [stats, hqueued']; omega
    submitted_eq := by rw [stats, hsubmitted', hdrained', hqueued']; omega
    failed := hfailed'.trans hfailed
    restarts := hrestarts'.trans hrestarts
    drained := by rw [stats, calls, hdrained', hfailed', hrestarts']; omega
    packetsSent := by
      rw [traffic, htraffic, Traffic.tally_packetsSent, Nat.mod_eq_of_lt hwritten, calls]
    packetsDropped := by
      rw [traffic, htraffic, Traffic.tally_packetsDropped, Nat.mod_eq_of_lt hlost, stats, hfailed',
        hfailed]
    bytesSent := by rw [traffic, htraffic, Traffic.tally_bytesSent, calls]
    bytesDropped := by rw [traffic, htraffic, Traffic.tally_bytesDropped, calls]
    warnings := hwarnings
    errors := by rw [stats, hrestarts', herrors, hrestarts] }

/-- Three submissions to a queue with room for two lines, and two calls of the sink, of which the
first fails and the second unwinds. -/
def troubledDelivery : List Action :=
  let submission (number : Nat) (text : String) : List Action :=
    [.arrive (.submission (.arriving ⟨text⟩)), .caller number, .caller number, .caller number,
      .caller number, .caller number]
  submission 0 "first:1|c" ++ submission 1 "second:1|c" ++ submission 2 "third:1|c" ++
    [.worker (.enter true), .worker .proceed, .worker .receiveLine, .worker .proceed,
      .worker .proceed, .worker (.finish (.returned (.failed (.bare .other)))), .worker .proceed,
      .worker .proceed, .worker .proceed, .worker .receiveLine, .worker .proceed, .worker .proceed,
      .worker (.finish .unwound), .worker .proceed, .worker .proceed, .worker .proceed]

/-- A script for the sink of a troubled delivery. -/
def troubledScript : Scripted Unit :=
  { inner := (), cues := [.answer (.failed (.bare .other)), .unwind] }

/-- After a troubled delivery the counters agree: one line turned away, one lost and one unwound. -/
theorem troubledDelivery_balanced :
    ∃ w, (new "courier" 2 troubledScript).run (Scripted.sink Sink.discard) troubledDelivery =
        some w ∧ (w.stats.submitted, w.stats.dropped, w.stats.failed, w.stats.restarts) =
        (2, 1, 1, 1) ∧ w.Balanced (Scripted.sink Sink.discard) 2 := by
  -- all that the theorem asks for can be seen at the end of the run
  have hrun : ((new "courier" 2 troubledScript).run (Scripted.sink Sink.discard)
      troubledDelivery).any (fun w =>
        (w.stats.submitted, w.stats.dropped, w.stats.failed, w.stats.restarts) == (2, 1, 1, 1) &&
        w.system.callers.all (fun call => !call.holdsLock) && w.system.station.phase.isSettled &&
        decide (w.system.callers.countP Caller.isAccepted < UInt64.size) &&
        decide (w.system.callers.countP Caller.isTurnedAway < UInt64.size)) = true := by
    decide +kernel
  obtain ⟨w, hw, hall⟩ := exists_of_any hrun
  simp only [Bool.and_eq_true, beq_iff_eq, List.all_eq_true, Bool.not_eq_true',
    decide_eq_true_eq] at hall
  obtain ⟨⟨⟨⟨hstats, hidle⟩, hsettled⟩, haccepted⟩, haway⟩ := hall
  exact ⟨w, hw, hstats, counters_agree (Scripted.metered Sink.discard) rfl
    ⟨troubledDelivery, hw⟩ hidle hsettled haccepted haway⟩

end Wired

end MetricCourier
