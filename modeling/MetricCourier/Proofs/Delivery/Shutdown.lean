import MetricCourier.Proofs.Delivery.Lifecycle

/-!
# Nothing is lost at shutdown

A line that was accepted is handed to the sink, also when the station is stopped while producers,
the worker and those who stop it get in each other's way, and while the sink fails and unwinds.

The argument has three parts. The worker marks itself done after it has found the closed queue
empty, and with the queue closed nobody is about to post a line; so a station that is done has an
empty queue, and by the worker's books (`Station.Ledger`) everything that was accepted was handed
over. Every line that is in the queue or has left it has been counted as accepted by then, so both
counters agree (`Delivered`). And from then on no access adds to what was accepted, since the flags
stay up, nor to what was handed over, since the worker is past its last line (`still_of_access`).

The calls that ask whether the worker is done are those of `StopCall`: the ones that wait for it,
and the mere question, which is a call that arrives at its second look.
-/

namespace MetricCourier

namespace System

/-- All that was accepted has been handed to the sink, and the counters say so. -/
structure Delivered (s : System) : Prop where
  /-- No line waits. -/
  waiting : s.station.waiting = []
  /-- The worker has no line, and is not calling the sink. -/
  held : s.station.phase.held = none
  inFlight : s.station.phase.inFlight = none
  balanced : s.station.submitted = s.station.drained
  /-- The lines that calls have put into the queue were handed over, in the order in which the
  calls were admitted. -/
  handed : s.station.handed = s.admitted.filterMap s.lineOf
  /-- The calls whose lines were handed over are those that returned without a refusal. -/
  returned : ∀ i line, s.callers[i]? = some (.submission (.returned line none)) → i ∈ s.admitted
  nodup : s.admitted.Nodup

/-- Between two systems no line was accepted, and the sink was neither called nor done with a
call. -/
structure Still (s t : System) : Prop where
  accepted : t.station.accepted = s.station.accepted
  admitted : t.admitted = s.admitted
  handed : t.station.handed = s.station.handed
  ended : t.station.ended = s.station.ended

variable {s t u : System}

theorem Still.refl (s : System) : Still s s := ⟨rfl, rfl, rfl, rfl⟩

theorem Still.trans (h : Still s t) (h' : Still t u) : Still s u where
  accepted := h'.accepted.trans h.accepted
  admitted := h'.admitted.trans h.admitted
  handed := h'.handed.trans h.handed
  ended := h'.ended.trans h.ended

/-- The queue of a station that is done is closed and empty. -/
theorem Lifecycle.closed_of_stopped (hI : s.Lifecycle) (h : s.station.stopped = true) :
    s.station.closed = true ∧ s.station.waiting = [] := by
  obtain ⟨hemptied, -⟩ := Phase.nothing_left (hI.flags.stopped ▸ h)
  exact ⟨hI.flags.draining (Phase.isDraining_of_isEmptied hemptied), hI.flags.emptied hemptied⟩

/-- A call that returned without a refusal has put its line into the queue. -/
theorem Books.mem_of_returned (hI : s.Books) {i : Nat} {line : Line}
    (h : s.callers[i]? = some (.submission (.returned line none))) : i ∈ s.admitted := by
  rw [hI.mem_admitted, lineOf, h]
  rfl

/-- Where the queue is closed, every accepted line has been counted. -/
theorem Lifecycle.accepted_of_closed (hI : s.Lifecycle) (hbooks : s.Books)
    (h : s.station.closed = true) : s.station.accepted.length = s.station.submitted := by
  have hnone : s.callers.countP Caller.isCounting = 0 := by
    rw [List.countP_eq_zero]
    intro call hmem hcounting
    have hquiet := hI.quiet h call hmem
    -- a call whose line is yet to be counted would be past the flags
    cases call with
    | submission c =>
      cases c with
      | counting line => cases hquiet
      | _ => cases hcounting
    | _ => cases hcounting
  rw [hbooks.accepted, hnone, Nat.add_zero]

/-- A station that is done has delivered everything. -/
theorem Lifecycle.delivered (hI : s.Lifecycle) (hbooks : s.Books) (hledger : s.station.Ledger)
    (h : s.station.stopped = true) : s.Delivered := by
  obtain ⟨hclosed, hwaiting⟩ := hI.closed_of_stopped h
  obtain ⟨-, hheld, hflight, hcounted⟩ := Phase.nothing_left (hI.flags.stopped ▸ h)
  -- nothing is between the accepted lines and those handed over
  have horder : s.station.accepted = s.station.handed := by
    have horder := hledger.order
    rwa [hheld, hwaiting, Option.toList_none, List.append_nil, List.append_nil] at horder
  refine ⟨hwaiting, hheld, hflight, ?_, ?_, fun _ _ => hbooks.mem_of_returned, hbooks.nodup⟩
  · -- all that was handed over was counted as drained, and it is all that was submitted
    have hdrained := hledger.drained
    rw [hcounted, ← horder, hI.accepted_of_closed hbooks hclosed] at hdrained
    exact hdrained.symm
  · rw [← horder, hbooks.order]

/-- Once the worker is done no access accepts a line or calls the sink. -/
theorem Lifecycle.still_of_access (hI : s.Lifecycle) (h : s.station.stopped = true)
    {action : Action} (haccess : Access action s t) : Still s t := by
  obtain ⟨hclosed, -⟩ := hI.closed_of_stopped h
  cases haccess with
  | worker hw =>
    -- the phases in which the sink is called come before the flag is set
    have hmarked : s.station.phase.isMarked = true := hI.flags.stopped ▸ h
    refine ⟨hw.accepted_eq, rfl, ?_, ?_⟩
    · cases hw with
      | hand hp => rw [hp] at hmarked; cases hmarked
      | _ => simp [Station.handed, Station.note, Station.log, Entry.handed?]
    · cases hw with
      | endWritten _ hp | endFailed _ hp | endUnwound hp => rw [hp] at hmarked; cases hmarked
      | _ => simp [Station.ended, Station.note, Station.log, Entry.ended?]
  | submission hi hc =>
    -- a call that is about to post its line would have to be past the flags of a closed queue
    obtain ⟨line, rfl, -, -⟩ | ⟨hcounting, -, hposts⟩ := hc.posts
    · cases hI.quiet hclosed _ (List.mem_of_getElem? hi)
    · rw [hcounting]
      exact ⟨hposts.accepted.trans (List.append_nil _), rfl, hposts.handed, hposts.ended⟩
  | stop _ hc =>
    have hposts := hc.posts
    exact ⟨hposts.accepted.trans (List.append_nil _), rfl, hposts.handed, hposts.ended⟩
  | arrive _ | stats _ _ | timeOut _ => exact ⟨rfl, rfl, rfl, rfl⟩

variable {threadName : String} {capacity : Nat}

/-- Once the worker is done no sequence of accesses accepts a line or calls the sink. -/
theorem Reachable.still_of_run (hs : Reachable threadName capacity s)
    (h : s.station.stopped = true) {actions : List Action} (hrun : s.run actions = some t) :
    Still s t := by
  -- along the run the system stays reachable and its worker stays done
  induction actions generalizing s with
  | nil =>
    rw [run_nil] at hrun
    cases hrun
    exact Still.refl _
  | cons action rest ih =>
    rw [run_cons, Option.bind_eq_some_iff] at hrun
    obtain ⟨u, hu, hrest⟩ := hrun
    have haccess := access_of_act hu
    have hreach : Reachable threadName capacity u := hs.act hu
    have hstopped : u.station.stopped = true := (flags_of_access haccess).2.2 h
    -- nothing moves in the first access, nor in those after it
    exact (hs.lifecycle.still_of_access h haccess).trans (ih hreach hstopped hrest)

/-- **No accepted line is lost at shutdown.** In every reachable system the flags are up in the
order `stopping`, `closed`, `stopped`, and none is taken down later; whoever was told that the
worker is done was told the truth. Once it is done everything that was accepted has been delivered,
and however the system goes on, the calls that return without a refusal are those whose lines were
handed over: nothing more is accepted, and the sink is not called again. -/
theorem shutdown_loses_nothing (h : Reachable threadName capacity s) :
    (s.station.stopped = true → s.station.closed = true) ∧
    (s.station.closed = true → s.station.stopping = true) ∧
    (∀ call ∈ s.callers, call.isTold = true → s.station.stopped = true) ∧
    (∀ actions t, s.run actions = some t →
      (s.station.stopping = true → t.station.stopping = true) ∧
      (s.station.closed = true → t.station.closed = true) ∧
      (s.station.stopped = true → t.station.stopped = true)) ∧
    (s.station.stopped = true → s.Delivered ∧
      ∀ actions t, s.run actions = some t → t.Delivered ∧ Still s t) := by
  have hlife := h.lifecycle
  refine ⟨fun hs => (hlife.closed_of_stopped hs).1, hlife.flags.closed, hlife.told,
    fun _ _ hrun => flags_of_run hrun, fun hs => ?_⟩
  have hdelivered := hlife.delivered h.books h.ledger hs
  -- where the system goes from here it is reachable again, with the worker done
  refine ⟨hdelivered, fun actions t hrun => ?_⟩
  have ht : Reachable threadName capacity t := h.run hrun
  have hstopped : t.station.stopped = true := (flags_of_run hrun).2.2 hs
  exact ⟨ht.lifecycle.delivered ht.books ht.ledger hstopped, h.still_of_run hs hrun⟩

/-- A producer has put its line into the queue when the worker is asked to stop, and the sink
unwinds while the line is drained; the worker that takes over finds nothing left to do. -/
def racedShutdown : List Action :=
  [.arrive (.submission (.arriving ⟨"late:1|c"⟩)), .arrive (.stop (.raising true)),
    .caller 0, .caller 0, .caller 0, .caller 1, .caller 1, .worker (.enter true),
    .worker .proceed, .caller 0, .caller 0, .worker .proceed, .worker .proceed, .worker .proceed,
    .worker .proceed, .worker .proceed, .worker (.finish .unwound), .worker .proceed,
    .worker .proceed, .worker .proceed, .worker (.enter true), .worker .proceed, .worker .proceed,
    .worker .proceed, .worker .proceed, .worker .proceed, .worker .proceed, .caller 1]

/-- The line of a raced shutdown is handed to the sink, and the caller is told so. -/
theorem racedShutdown_delivers :
    ∃ s, (System.new "courier" 2).run racedShutdown = some s ∧ s.station.stopped = true ∧
      s.callers[1]? = some (.stop (.returned (some true))) ∧
      s.station.handed = [⟨"late:1|c"⟩] ∧ s.Delivered := by
  have hrun : ((System.new "courier" 2).run racedShutdown).any (fun s => s.station.stopped &&
      s.callers[1]? == some (.stop (.returned (some true))) &&
      s.station.handed == [⟨"late:1|c"⟩]) = true := by decide +kernel
  obtain ⟨s, hs, hall⟩ := exists_of_any hrun
  simp only [Bool.and_eq_true, beq_iff_eq] at hall
  obtain ⟨⟨hstopped, hcaller⟩, hhanded⟩ := hall
  obtain ⟨-, -, -, -, hdone⟩ := shutdown_loses_nothing ⟨racedShutdown, hs⟩
  exact ⟨s, hs, hstopped, hcaller, hhanded, (hdone hstopped).1⟩

end System

end MetricCourier
