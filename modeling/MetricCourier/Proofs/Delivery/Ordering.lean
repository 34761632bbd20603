import MetricCourier.Proofs.Delivery.Books
import MetricCourier.Proofs.Delivery.Crew

/-!
# Lines are delivered once and in order

Every line that is accepted goes through the hands of the worker once, in the order of acceptance,
whoever the worker is at the time. `Crew.Ordered` says so of a crew of threads: what was accepted is
what was handed to the sink, then what a thread has taken, then what waits; and since each call is
admitted once, the lines handed to the sink are those of the calls that were admitted first
(`handed`), none of them left out and none of them twice. A line for which the sink failed or
unwound is among those handed over and is not handed over again.

The order is never revised: what was accepted, what was handed over and what has ended is only ever
added to (`System.Grows`). So a call that arrives after another one was admitted comes after it in
the order, and that is the order in which a producer submits its lines.

The equation between the three places of a line is a clause of the worker's books
(`Station.Ledger.order`), and the order of the calls one of the callers' (`System.Books.order`).
Both are about a system with one worker; that a crew is one is `Crew.Reachable.sole`.
-/

namespace MetricCourier

/-- A longer journal has the same readings and perhaps more. -/
theorem Entry.readings_prefix {α : Type} (kind : Entry → Option α) {short long : List Entry}
    (h : short <:+ long) : readings kind short <+: readings kind long := by
  obtain ⟨new, rfl⟩ := h
  -- the journal has the newest entry first, and its readings are turned round
  rw [readings, readings, List.reverse_append, List.filterMap_append]
  exact List.prefix_append _ _

/-- Taking the first of a list in which each gives something takes the first of what they give. -/
theorem filterMap_take_of_isSome {α β : Type} {f : α → Option β} {as : List α}
    (h : ∀ a ∈ as, (f a).isSome = true) (n : Nat) :
    (as.take n).filterMap f = (as.filterMap f).take n := by
  induction as generalizing n with
  | nil => rw [List.take_nil, List.filterMap_nil, List.take_nil]
  | cons a rest ih =>
    cases n with
    | zero => rfl
    | succ n =>
      obtain ⟨b, hb⟩ := Option.isSome_iff_exists.mp (h a List.mem_cons_self)
      -- the first member gives one, so both sides take one and go on
      have hrest := ih (fun c hc => h c (List.mem_cons_of_mem a hc)) n
      rw [List.take_succ_cons, List.filterMap_cons_some hb, List.filterMap_cons_some hb,
        List.take_succ_cons, hrest]

/-! ### Nothing is taken back -/

namespace Station

variable {s t : Station}

/-- The worker only adds to the journal. -/
theorem Access.journal_suffix {m : Move} (h : Access m s t) : s.journal <:+ t.journal := by
  cases h <;> simp [note, log]

theorem sendStop_journal_suffix (s : Station) : s.journal <:+ s.sendStop.journal := by
  unfold sendStop
  split
  · exact List.suffix_cons _ _
  · exact List.suffix_refl _

end Station

theorem Submission.Access.journal_suffix {s t : Station} {c d : Submission}
    (h : Access s c t d) : s.journal <:+ t.journal := by
  cases h <;> simp [Station.note, Station.countAccepted, Station.countRefused]

theorem StopCall.Access.journal_suffix {s t : Station} {c d : StopCall}
    (h : Access s c t d) : s.journal <:+ t.journal := by
  cases h with
  | send => exact s.sendStop_journal_suffix
  | _ => exact List.suffix_refl _

namespace System

/-- What one system has accepted and delivered, another has too, in the same order, and perhaps
more after it. -/
structure Grows (s t : System) : Prop where
  admitted : s.admitted <+: t.admitted
  accepted : s.station.accepted <+: t.station.accepted
  handed : s.station.handed <+: t.station.handed
  ended : s.station.ended <+: t.station.ended

variable {s t u : System}

theorem Grows.trans (h : Grows s t) (h' : Grows t u) : Grows s u where
  admitted := h.admitted.trans h'.admitted
  accepted := h.accepted.trans h'.accepted
  handed := h.handed.trans h'.handed
  ended := h.ended.trans h'.ended

/-- A system grows with its admitted calls and its journal. -/
theorem Grows.of_journal (hadmitted : s.admitted <+: t.admitted)
    (h : s.station.journal <:+ t.station.journal) : Grows s t where
  admitted := hadmitted
  accepted := Entry.readings_prefix _ h
  handed := Entry.readings_prefix _ h
  ended := Entry.readings_prefix _ h

theorem Grows.refl (s : System) : Grows s s :=
  .of_journal (List.prefix_refl _) (List.suffix_refl _)

/-- Every access leaves what was accepted and delivered in its order. -/
theorem grows_of_access {action : Action} (h : Access action s t) : Grows s t := by
  cases h with
  | worker h => exact .of_journal (List.prefix_refl _) h.journal_suffix
  | @submission _ i c d station hi h =>
    refine .of_journal ?_ h.journal_suffix
    -- the call that has posted its line is added behind those admitted before
    change s.admitted <+: if (Caller.submission d).isCounting then s.admitted ++ [i] else s.admitted
    split
    · exact List.prefix_append _ _
    · exact List.prefix_refl _
  | stop hi h => exact .of_journal (List.prefix_refl _) h.journal_suffix
  | arrive _ | stats _ _ | timeOut _ => exact .of_journal (List.prefix_refl _) (List.suffix_refl _)

theorem grows_of_run {actions : List Action} (hrun : s.run actions = some t) : Grows s t :=
  keeps_of_run (fun _ _ _ hgrown hact => hgrown.trans (grows_of_access (access_of_act hact)))
    (Grows.refl s) hrun

/-- A call that has not arrived yet comes after all that were admitted so far. -/
theorem Grows.idxOf_lt (h : Grows s t) (hbooks : s.Books) {i j : Nat} (hi : i ∈ s.admitted)
    (hj : s.callers.length ≤ j) :
    t.admitted.idxOf i < t.admitted.idxOf j := by
  -- a call that has not arrived has put no line into the queue
  have hnew : j ∉ s.admitted := by
    rw [hbooks.mem_admitted, lineOf, List.getElem?_eq_none_iff.mpr hj]
    exact Bool.false_ne_true
  obtain ⟨later, hlater⟩ := h.admitted
  rw [← hlater, List.idxOf_append_of_mem hi, List.idxOf_append_of_notMem hnew]
  have hlt : s.admitted.idxOf i < s.admitted.length := List.idxOf_lt_length_iff.mpr hi
  omega

end System

/-! ### Crews -/

/-- Has the thread taken a line without being through with it? One that unwound is through when
it has started the next thread. -/
def Thread.isBusy (thread : Thread) : Bool :=
  match thread.phase with
  | .taken _ _ | .counted _ _ | .sending _ _ | .failing _ _ _ | .reporting _ _ _ | .unwinding
  | .unwound | .restarting => true
  | _ => false

namespace Crew

/-- The lines that threads have taken and not yet passed on. -/
def held (c : Crew) : List Line := c.threads.filterMap fun thread => thread.phase.held

/-- The lines with which threads are calling the sink. -/
def inFlight (c : Crew) : List Line := c.threads.filterMap fun thread => thread.phase.inFlight

/-- Lines go through a crew once and in order. -/
structure Ordered (c : Crew) : Prop where
  /-- What was accepted was handed over, is held or waits, in this order. -/
  places : c.system.station.accepted =
    c.system.station.handed ++ c.held ++ c.system.station.waiting
  held_le : c.held.length ≤ 1
  /-- What was accepted are the lines of the admitted calls, in the order of admission. -/
  accepted : c.system.station.accepted = c.system.admitted.filterMap c.system.lineOf
  /-- What was handed over are the lines of those admitted first, without gaps. -/
  handed : c.system.station.handed =
    (c.system.admitted.take c.system.station.handed.length).filterMap c.system.lineOf
  /-- No call is admitted twice. -/
  nodup : c.system.admitted.Nodup
  /-- Exactly those calls were admitted that have put a line into the queue. -/
  mem_admitted : ∀ i, i ∈ c.system.admitted ↔ (c.system.lineOf i).isSome = true
  /-- The sink was called once for each line handed over, and these calls have ended in turn. -/
  outcome : c.system.station.handed = c.system.station.ended.map Prod.fst ++ c.inFlight
  inFlight_le : c.inFlight.length ≤ 1
  /-- At most one thread is busy with a line. -/
  busy_le : c.threads.countP Thread.isBusy ≤ 1

variable {c d : Crew}

/-- Only the last thread has something to tell. -/
theorem Relayed.filterMap_eq {α : Type} (hI : c.Relayed) {f : Phase → Option α}
    (hf : f .finished = none) :
    c.threads.filterMap (fun thread => f thread.phase) = (f c.current.phase).toList := by
  obtain ⟨before, hthreads, hover⟩ := hI.relay
  -- all threads before it are over
  have hnone : before.filterMap (fun thread => f thread.phase) = [] := by
    rw [List.filterMap_eq_nil_iff]
    intro thread hmem
    rw [hover thread hmem, hf]
  rw [hthreads, List.filterMap_append, hnone, List.nil_append]
  cases h : f c.current.phase <;> simp [h]

theorem Relayed.busy_le (hI : c.Relayed) : c.threads.countP Thread.isBusy ≤ 1 := by
  rw [hI.countP_eq fun thread hp => by rw [Thread.isBusy, hp]]
  exact Bool.toNat_le _

variable {threadName : String} {capacity : Nat}

/-- A reachable crew is in order. -/
theorem Reachable.ordered (h : Reachable threadName capacity c) : c.Ordered := by
  obtain ⟨hrelayed, hsole⟩ := h.sole
  have hledger := hsole.ledger
  have hbooks := hsole.books
  -- the books are those of the system in which the last thread is the worker
  have hheld : c.held = c.current.phase.held.toList := hrelayed.filterMap_eq rfl
  have hflight : c.inFlight = c.current.phase.inFlight.toList := hrelayed.filterMap_eq rfl
  have hplaces : c.system.station.accepted =
      c.system.station.handed ++ c.held ++ c.system.station.waiting := by
    rw [hheld]
    exact hledger.order
  have haccepted : c.system.station.accepted =
      c.system.admitted.filterMap c.system.lineOf := hbooks.order
  have hmem : ∀ i, i ∈ c.system.admitted ↔ (c.system.lineOf i).isSome = true :=
    hbooks.mem_admitted
  refine ⟨hplaces, ?_, haccepted, ?_, hbooks.nodup, hmem, ?_, ?_, hrelayed.busy_le⟩
  · rw [hheld]
    exact Option.length_toList_le
  · -- what was handed over is the first part of what was accepted
    rw [filterMap_take_of_isSome fun i hi => (hmem i).mp hi, ← haccepted, hplaces,
      List.append_assoc, List.take_left]
  · rw [hflight]
    exact hledger.outcome
  · rw [hflight]
    exact Option.length_toList_le

/-- **Lines are delivered once and in order.** Whatever producers, threads, the sink and those who
stop the station do, a reachable crew is in order; what was accepted and delivered so far keeps its
place whatever happens next, and a call that arrives later than another one was admitted comes after
it. -/
theorem delivers_once_in_order (h : Reachable threadName capacity c) :
    c.Ordered ∧ ∀ actions d, c.run actions = some d → c.system.Grows d.system ∧
      ∀ i j, i ∈ c.system.admitted → c.system.callers.length ≤ j → j ∈ d.system.admitted →
        d.system.admitted.idxOf i < d.system.admitted.idxOf j := by
  obtain ⟨hrelayed, hsole⟩ := h.sole
  refine ⟨h.ordered, fun actions d hrun => ?_⟩
  obtain ⟨-, actions', hrun'⟩ := sole_of_run hrelayed hrun
  have hgrows : c.sole.Grows d.sole := System.grows_of_run hrun'
  exact ⟨⟨hgrows.admitted, hgrows.accepted, hgrows.handed, hgrows.ended⟩,
    fun i j hi hj _ => hgrows.idxOf_lt hsole.books hi hj⟩

/-- Two producers submit a line each. The sink unwinds for the first one, and the thread that is
started then takes the second one. -/
def relayedDelivery : List Action :=
  [.outside (.arrive (.submission (.arriving ⟨"first:1|c"⟩))), .outside (.caller 0),
    .outside (.caller 0), .outside (.caller 0), .outside (.caller 0), .outside (.caller 0),
    .thread 0 (.enter true), .thread 0 .proceed, .thread 0 .receiveLine,
    .outside (.arrive (.submission (.arriving ⟨"second:1|c"⟩))), .outside (.caller 1),
    .outside (.caller 1), .outside (.caller 1), .thread 0 .proceed, .thread 0 .proceed,
    .thread 0 (.finish .unwound), .thread 0 .proceed, .thread 0 .proceed, .thread 0 .proceed,
    .thread 1 (.enter true), .thread 1 .proceed, .thread 1 .receiveLine, .outside (.caller 1)]

/-- The second thread of a relayed delivery takes the second line, and no thread the first one
again. -/
theorem relayedDelivery_ordered :
    ∃ c, (Crew.new "courier" 1).run relayedDelivery = some c ∧ c.threads.length = 2 ∧
      c.system.station.handed = [⟨"first:1|c"⟩] ∧ c.held = [⟨"second:1|c"⟩] ∧ c.Ordered := by
  have hrun : ((Crew.new "courier" 1).run relayedDelivery).any (fun c =>
      c.threads.length == 2 && c.system.station.handed == [⟨"first:1|c"⟩] &&
      c.held == [⟨"second:1|c"⟩]) = true := by decide +kernel
  obtain ⟨c, hc, hall⟩ := exists_of_any hrun
  simp only [Bool.and_eq_true, beq_iff_eq] at hall
  obtain ⟨⟨hthreads, hhanded⟩, hheld⟩ := hall
  exact ⟨c, hc, hthreads, hhanded, hheld, (delivers_once_in_order ⟨relayedDelivery, hc⟩).1⟩

end Crew

end MetricCourier
