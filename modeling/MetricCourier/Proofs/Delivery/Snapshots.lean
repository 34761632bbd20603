import MetricCourier.Proofs.Delivery.Crew
import MetricCourier.Proofs.Delivery.Lifecycle

/-!
# Snapshots of the counters

A reading of the counters loads them one after the other while they move: lines are counted as
submitted after they have entered the queue, and as drained after they have left it. So what is
reported as waiting is neither the length of the queue at any moment nor a difference that makes
sense at all, and yet it is never more than one above what the queue can hold.

At any one moment the lines counted as drained are among those accepted, and all but one of the
others wait (`Station.Ledger.drained_le`, `Station.Ledger.accepted_le`): a worker counts a line
before it takes the next one, also if it takes over from another one that unwound. The lines
submitted are loaded first, and the lines drained only become more until they are loaded too
(`StatsCall.Fits`). If by then they have become more than what was loaded first, nothing is reported
as waiting.
-/

namespace MetricCourier

/-! ### The counters at one moment -/

namespace Station

variable {s t : Station} {m : Move}

/-- A line is counted as drained while it is held, or later. -/
theorem Ledger.drained_le (hI : s.Ledger) : s.drained ≤ s.accepted.length := by
  have hcounted : s.phase.isCounted.toNat ≤ s.phase.held.toList.length := by
    cases s.phase <;> simp [Phase.isCounted, Phase.held]
  rw [hI.order, hI.drained, List.length_append, List.length_append]
  omega

/-- A line that is not counted as drained waits, all but one that is held. -/
theorem Ledger.accepted_le (hI : s.Ledger) : s.accepted.length ≤ s.drained + s.waiting.length + 1 := by
  have hheld : s.phase.held.toList.length ≤ 1 := Option.length_toList_le
  rw [hI.order, hI.drained, List.length_append, List.length_append]
  omega

theorem Access.drained_le (h : Access m s t) : s.drained ≤ t.drained := by
  cases h with
  | count hp => exact Nat.le_succ _
  | _ => exact Nat.le_refl _

end Station

namespace System

variable {s t : System}

/-- No access counts down. -/
theorem counters_le_of_access {action : Action} (h : Access action s t) :
    s.station.submitted ≤ t.station.submitted ∧ s.station.drained ≤ t.station.drained := by
  cases h with
  | worker h => exact ⟨Nat.le_of_eq h.submitted_eq.symm, h.drained_le⟩
  | submission _ h =>
    refine ⟨?_, ?_⟩
    · cases h with
      | count => exact Nat.le_succ _
      | _ => exact Nat.le_refl _
    · -- a submission counts nothing as drained, whether it posts or not
      obtain ⟨_, -, -, hposts⟩ | ⟨-, -, hposts⟩ := h.posts
      · exact Nat.le_of_eq hposts.drained.symm
      · exact Nat.le_of_eq hposts.drained.symm
  | stop _ h => exact ⟨Nat.le_of_eq h.frame.2.1.symm, Nat.le_of_eq h.posts.drained.symm⟩
  | arrive _ | stats _ _ | timeOut _ => exact ⟨Nat.le_refl _, Nat.le_refl _⟩

/-- The lines that were accepted are those of submissions. -/
theorem Books.accepted_le (hI : s.Books) :
    s.station.accepted.length ≤ s.callers.countP Caller.isSubmission := by
  -- no call is both counted in and about to be
  have hone : s.callers.countP (fun call => call.isCountedIn || call.isCounting) =
      s.callers.countP Caller.isCountedIn + s.callers.countP Caller.isCounting := by
    refine countP_eq_add fun call _ => ?_
    cases call with
    | submission c => cases c with
      | departing line refusal | returned line refusal => cases refusal <;> rfl
      | _ => rfl
    | _ => rfl
  rw [hI.accepted, hI.submitted, ← hone]
  -- only submissions are either
  refine List.countP_mono_left fun call _ h => ?_
  cases call with
  | submission c => rfl
  | _ => cases h

end System

/-! ### What a reading has loaded -/

namespace StatsCall

/-- The totals of lines submitted and of lines drained that a reading has loaded and not yet
reported. -/
def loads? : StatsCall → Option (Nat × Nat)
  | readDrained _ submitted drained | readDropped _ submitted drained _ => some (submitted, drained)
  | _ => none

/-- The reading has these loads to report, or has reported them. -/
def Tells (submitted drained : Nat) (call : StatsCall) : Prop :=
  call.loads? = some (submitted, drained) ∨
    ∃ dropped failed restarts,
      call = returned (Station.statsOf submitted dropped drained failed restarts)

/-- The loads of which the reading tells fit the counters as they are by now, and each other. -/
structure Reports (capacity submitted drained : Nat) (s : Station) (call : StatsCall) : Prop where
  tells : call.Tells submitted drained
  submitted_le : submitted ≤ s.submitted
  drained_le : drained ≤ s.drained
  fits : submitted ≤ drained + capacity + 1

/-- What the reading has loaded so far fits the counters. -/
def Fits (capacity : Nat) (s : Station) (call : StatsCall) : Prop :=
  match call with
  | starting | readRestarts _ => True
  | readSubmitted _ submitted =>
    submitted ≤ s.submitted ∧ submitted ≤ s.drained + capacity + 1
  | call => ∃ submitted drained, call.Reports capacity submitted drained s

variable {s t : Station} {c d : StatsCall} {capacity submitted drained : Nat}

/-- A reading that has yet to report tells of what it has loaded. -/
theorem Tells.eq_loads {submitted' drained' : Nat} (h : c.Tells submitted' drained')
    (hloads : c.loads? = some (submitted, drained)) :
    submitted' = submitted ∧ drained' = drained := by
  obtain hsame | ⟨_, _, _, rfl⟩ := h
  · rw [hloads] at hsame
    cases hsame
    exact ⟨rfl, rfl⟩
  · cases hloads

/-- What is loaded is reported. -/
theorem Tells.move (h : c.Tells submitted drained) (hmove : c.move s = some d) :
    d.Tells submitted drained := by
  obtain hloads | ⟨_, _, _, rfl⟩ := h
  · cases c with
    -- it goes on to load the other counters, or to report
    | readDrained _ _ _ =>
      cases hloads
      cases hmove
      exact Or.inl rfl
    | readDropped _ _ _ _ =>
      cases hloads
      cases hmove
      exact Or.inr ⟨_, _, _, rfl⟩
    | _ => cases hloads
  · cases hmove

theorem Reports.mono (h : c.Reports capacity submitted drained s)
    (hsubmitted : s.submitted ≤ t.submitted) (hdrained : s.drained ≤ t.drained) :
    c.Reports capacity submitted drained t :=
  { h with
    submitted_le := Nat.le_trans h.submitted_le hsubmitted
    drained_le := Nat.le_trans h.drained_le hdrained }

/-- What fits once fits later, since the counters only go up. -/
theorem Fits.mono (h : c.Fits capacity s) (hsubmitted : s.submitted ≤ t.submitted)
    (hdrained : s.drained ≤ t.drained) : c.Fits capacity t := by
  cases c with
  | starting | readRestarts _ => trivial
  | readSubmitted restarts submitted =>
    obtain ⟨hle, hfits⟩ := h
    -- the drained lines only become more, which leaves more room
    exact ⟨Nat.le_trans hle hsubmitted, by omega⟩
  | readDrained _ _ _ | readDropped _ _ _ _ | returned _ =>
    obtain ⟨submitted, drained, hreports⟩ := h
    exact ⟨submitted, drained, hreports.mono hsubmitted hdrained⟩

/-- The loads fit: the first one because of the room in the queue at that moment, the second one
because the first has fitted until then. -/
theorem Fits.move (h : c.Fits capacity s) (hroom : s.submitted ≤ s.drained + capacity + 1)
    (hmove : c.move s = some d) : d.Fits capacity s := by
  cases c with
  | starting =>
    cases hmove
    trivial
  | readRestarts restarts =>
    cases hmove
    -- it is loaded at this moment, when the queue has this much room
    exact ⟨Nat.le_refl _, hroom⟩
  | readSubmitted restarts submitted =>
    cases hmove
    exact ⟨submitted, s.drained, Or.inl rfl, h.1, Nat.le_refl _, h.2⟩
  | readDrained _ _ _ | readDropped _ _ _ _ =>
    obtain ⟨submitted, drained, hreports⟩ := h
    -- the loads stay what they are while the rest is read
    have htells := hreports.tells.move hmove
    cases hmove
    exact ⟨submitted, drained, { hreports with tells := htells }⟩
  | returned report => cases hmove

end StatsCall

namespace System

variable {s t : System} {action : Action} {capacity submitted drained : Nat}

/-- Whatever is done, what the readings have loaded fits the counters. -/
theorem fits_of_access (hI : ∀ call, .stats call ∈ s.callers → call.Fits capacity s.station)
    (hroom : s.station.submitted ≤ s.station.drained + capacity + 1) (h : Access action s t) :
    ∀ call, .stats call ∈ t.callers → call.Fits capacity t.station := by
  obtain ⟨hsubmitted, hdrained⟩ := counters_le_of_access h
  have hlater : ∀ call, .stats call ∈ s.callers → call.Fits capacity t.station :=
    fun call hmem => (hI call hmem).mono hsubmitted hdrained
  intro call hmem
  cases h with
  | worker _ => exact hlater call hmem
  | arrive hnew =>
    obtain hold | hlast := List.mem_append.mp hmem
    · exact hlater call hold
    · -- a new call has loaded nothing yet
      cases List.mem_singleton.mp hlast
      cases call with
      | starting => trivial
      | _ => cases hnew
  | submission _ _ | stop _ _ | timeOut _ =>
    obtain hold | hself := List.mem_or_eq_of_mem_set hmem
    · exact hlater call hold
    · -- the call that moved is not a reading
      cases hself
  | stats hi hmove =>
    obtain hold | hself := List.mem_or_eq_of_mem_set hmem
    · exact hlater call hold
    · cases hself
      exact (hI _ (List.mem_of_getElem? hi)).move hroom hmove

/-- A reading keeps what it has loaded. -/
theorem reports_of_access {i : Nat} {c : StatsCall} (hi : s.callers[i]? = some (.stats c))
    (hc : c.Reports capacity submitted drained s.station) (h : Access action s t) :
    ∃ d, t.callers[i]? = some (.stats d) ∧ d.Reports capacity submitted drained t.station := by
  have hlt : i < s.callers.length := (List.getElem?_eq_some_iff.mp hi).1
  obtain ⟨hsubmitted, hdrained⟩ := counters_le_of_access h
  have hlater := hc.mono hsubmitted hdrained
  cases h with
  | worker _ => exact ⟨c, hi, hlater⟩
  | arrive _ => exact ⟨c, by rw [List.getElem?_append_left hlt, hi], hlater⟩
  | submission hj _ | stop hj _ | timeOut hj =>
    exact ⟨c, getElem?_set_of_ne hi hj Caller.noConfusion, hlater⟩
  | @stats _ j _ d hj hmove =>
    -- it is this reading that goes on, or another one
    by_cases hji : j = i
    · subst hji
      rw [hi] at hj
      cases hj
      exact ⟨d, List.getElem?_set_self hlt, { hlater with tells := hc.tells.move hmove }⟩
    · exact ⟨c, by rw [List.getElem?_set_ne hji, hi], hlater⟩

theorem reports_of_run {actions : List Action} {i : Nat} {c : StatsCall}
    (hi : s.callers[i]? = some (.stats c)) (hc : c.Reports capacity submitted drained s.station)
    (hrun : s.run actions = some t) :
    ∃ d, t.callers[i]? = some (.stats d) ∧ d.Reports capacity submitted drained t.station := by
  -- at each access the reading may have moved on, so its place is part of the motive
  refine keeps_of_run (motive := fun u => ∃ d, u.callers[i]? = some (.stats d) ∧
    d.Reports capacity submitted drained u.station) ?_ ⟨c, hi, hc⟩ hrun
  rintro u action v ⟨d, hd, hreports⟩ hact
  exact reports_of_access hd hreports (access_of_act hact)

variable {threadName : String}

/-- At any one moment the lines submitted are at most one more than those drained and the room in
the queue. -/
theorem Reachable.room (h : Reachable threadName capacity s) :
    s.station.submitted ≤ s.station.drained + capacity + 1 := by
  have haccepted := h.books.accepted
  have hheld := h.ledger.accepted_le
  have hsize := h.bounded.size_le
  omega

/-- **What the readings have loaded fits the counters in every reachable system.** -/
theorem Reachable.fits (h : Reachable threadName capacity s) :
    ∀ call, .stats call ∈ s.callers → call.Fits capacity s.station := by
  -- the room needed for a load is that of a reachable system, so both are carried along
  have hall : Reachable threadName capacity s ∧
      ∀ call, .stats call ∈ s.callers → call.Fits capacity s.station := by
    refine h.induction (motive := fun u => Reachable threadName capacity u ∧
      ∀ call, .stats call ∈ u.callers → call.Fits capacity u.station) ⟨⟨[], rfl⟩, nofun⟩ ?_
    rintro u action v ⟨hu, hI⟩ hact
    exact ⟨hu.act hact, fits_of_access hI hu.room (access_of_act hact)⟩
  exact hall.2

/-- No counter is ahead of the submissions. -/
theorem Reachable.counters_le (h : Reachable threadName capacity s) :
    s.station.submitted ≤ s.callers.countP Caller.isSubmission ∧
      s.station.drained ≤ s.callers.countP Caller.isSubmission := by
  have haccepted := h.books.accepted
  have hsubmissions := h.books.accepted_le
  have hdrained := h.ledger.drained_le
  omega

/-- What is reported are the loads, and their difference as far as it is one, as long as there were
few enough submissions for the counters to fit in a word. -/
theorem Reachable.report_eq (h : Reachable threadName capacity s)
    (hfew : s.callers.countP Caller.isSubmission < UInt64.size) {report : Stats}
    (hreports : (StatsCall.returned report).Reports capacity submitted drained s.station) :
    report.submitted.toNat = submitted ∧ report.drained.toNat = drained ∧
      report.queued.toNat = submitted - drained ∧ report.queued.toNat ≤ capacity + 1 := by
  obtain ⟨hsubmitted, hdrained⟩ := h.counters_le
  have hloaded := hreports.submitted_le
  have hloaded' := hreports.drained_le
  have hfits := hreports.fits
  obtain hnone | ⟨dropped, failed, restarts, heq⟩ := hreports.tells
  · cases hnone
  · cases heq
    -- both loads are below the number of submissions, and so fit in a word
    obtain ⟨hreported, hreported', hqueued⟩ := Station.toNat_statsOf
      (show submitted < UInt64.size by omega) (show drained < UInt64.size by omega)
      dropped failed restarts
    exact ⟨hreported, hreported', hqueued, by omega⟩

end System

namespace Crew

variable {c : Crew} {threadName : String} {capacity : Nat}

/-- **What is reported as waiting is at most one more than the queue can hold.** Whatever producers,
threads, the sink and those who read the counters do, as long as there are fewer submissions than a
word can count:

* the lines counted as drained are at most those counted as submitted and those that are in the queue
  and yet to be counted;
* what was reported as waiting is at most one more than the capacity, and it is what was reported as
  submitted less what was reported as drained;
* a reading reports the totals that it has loaded, and if more lines were drained by the second load
  than were submitted by the first, none are reported as waiting. -/
theorem snapshots_bounded (h : Reachable threadName capacity c)
    (hfew : c.system.callers.countP Caller.isSubmission < UInt64.size) :
    c.system.station.drained ≤
        c.system.station.submitted + c.system.callers.countP Caller.isCounting ∧
      (∀ report, .stats (.returned report) ∈ c.system.callers →
        report.queued.toNat ≤ capacity + 1 ∧
        report.queued.toNat = report.submitted.toNat - report.drained.toNat) ∧
      ∀ b actions, Reachable threadName capacity b → b.run actions = some c →
        ∀ (number : Nat) (call : StatsCall) (submitted drained : Nat) (report : Stats),
          b.system.callers[number]? = some (.stats call) →
          call.loads? = some (submitted, drained) →
          c.system.callers[number]? = some (.stats (.returned report)) →
          report.submitted.toNat = submitted ∧ report.drained.toNat = drained ∧
            (submitted < drained → report.queued = 0) := by
  obtain ⟨-, hsole⟩ := h.sole
  refine ⟨?_, ?_, ?_⟩
  · -- what is drained was accepted, and what was accepted is counted or about to be
    have haccepted : c.system.station.accepted.length =
        c.system.station.submitted + c.system.callers.countP Caller.isCounting :=
      hsole.books.accepted
    rw [← haccepted]
    exact hsole.ledger.drained_le
  · intro report hreport
    obtain ⟨submitted, drained, hreports⟩ := hsole.fits _ hreport
    obtain ⟨hsubmitted, hdrained, hqueued, hbound⟩ := hsole.report_eq hfew hreports
    rw [hsubmitted, hdrained]
    exact ⟨hbound, hqueued⟩
  · intro b actions hb hrun number call submitted drained report hcall hloads hreturned
    obtain ⟨hrelayed, hsole'⟩ := hb.sole
    obtain ⟨-, actions', hrun'⟩ := sole_of_run hrelayed hrun
    have hbefore : b.sole.callers[number]? = some (.stats call) := hcall
    -- the reading has these loads before the run, and reports them after it
    have hfits := hsole'.fits _ (List.mem_of_getElem? hbefore)
    have hreports : call.Reports capacity submitted drained b.sole.station := by
      cases call with
      | readDrained _ _ _ | readDropped _ _ _ _ =>
        obtain ⟨submitted', drained', hreports⟩ := hfits
        obtain ⟨rfl, rfl⟩ := hreports.tells.eq_loads hloads
        exact hreports
      | _ => cases hloads
    obtain ⟨last, hlast, hreports'⟩ := System.reports_of_run hbefore hreports hrun'
    have heq : StatsCall.returned report = last :=
      Caller.stats.inj (Option.some.inj (hreturned.symm.trans hlast))
    subst heq
    obtain ⟨hsubmitted, hdrained, hqueued, -⟩ := hsole.report_eq hfew hreports'
    -- a difference below zero is reported as zero
    refine ⟨hsubmitted, hdrained, fun hlt => UInt64.toNat_inj.mp ?_⟩
    rw [hqueued]
    exact Nat.sub_eq_zero_of_le (Nat.le_of_lt hlt)

/-- A queue for one line. The first reading finds two lines submitted, of which one is taken and not
yet counted as drained. The second one loads as many lines submitted; then the two are drained, the
second of them by an unwinding call, and so is a third one, which its producer has not counted when
the reading goes on. -/
def overtakenReading : List Action :=
  [.outside (.arrive (.submission (.arriving ⟨"first:1|c"⟩))), .outside (.caller 0),
    .outside (.caller 0), .outside (.caller 0), .outside (.caller 0), .outside (.caller 0),
    .thread 0 (.enter true), .thread 0 .proceed, .thread 0 .receiveLine,
    .outside (.arrive (.submission (.arriving ⟨"second:1|c"⟩))), .outside (.caller 1),
    .outside (.caller 1), .outside (.caller 1), .outside (.caller 1), .outside (.caller 1),
    .outside (.arrive (.stats .starting)), .outside (.caller 2), .outside (.caller 2),
    .outside (.caller 2), .outside (.caller 2), .outside (.caller 2),
    .outside (.arrive (.stats .starting)), .outside (.caller 3), .outside (.caller 3),
    .thread 0 .proceed, .thread 0 .proceed, .thread 0 (.finish (.returned (.wrote 9))),
    .thread 0 .proceed, .thread 0 .receiveLine, .thread 0 .proceed, .thread 0 .proceed,
    .thread 0 (.finish .unwound), .thread 0 .proceed, .thread 0 .proceed, .thread 0 .proceed,
    .outside (.arrive (.submission (.arriving ⟨"third:1|c"⟩))), .outside (.caller 4),
    .outside (.caller 4), .outside (.caller 4), .thread 1 (.enter true), .thread 1 .proceed,
    .thread 1 .receiveLine, .thread 1 .proceed, .outside (.caller 3)]

/-- The first reading reports two lines waiting, and the second one, which was overtaken, none. -/
theorem overtakenReading_bounded :
    ∃ b c first second, (new "courier" 1).run overtakenReading = some b ∧
      b.run [.outside (.caller 3), .outside (.caller 3)] = some c ∧
      c.system.callers[2]? = some (.stats (.returned first)) ∧ first.queued = 2 ∧
      first.queued.toNat ≤ 1 + 1 ∧
      b.system.callers[3]? = some (.stats (.readDrained 0 2 3)) ∧
      c.system.callers[3]? = some (.stats (.returned second)) ∧ second.queued = 0 ∧
      c.system.callers.countP Caller.isCounting = 1 ∧
      c.system.station.drained ≤ c.system.station.submitted + 1 := by
  let first := Station.statsOf 2 0 0 0 0
  let second := Station.statsOf 2 0 3 0 0
  -- the reading is stopped between its loads and its report
  have hrun : ((new "courier" 1).run overtakenReading).any (fun b =>
      b.system.callers[3]? == some (.stats (.readDrained 0 2 3)) &&
      (b.run [.outside (.caller 3), .outside (.caller 3)]).any (fun c =>
        c.system.callers.countP Caller.isSubmission == 3 &&
        c.system.callers.countP Caller.isCounting == 1 &&
        c.system.callers[2]? == some (.stats (.returned first)) &&
        c.system.callers[3]? == some (.stats (.returned second)))) = true := by decide +kernel
  obtain ⟨b, hb, hall⟩ := exists_of_any hrun
  simp only [Bool.and_eq_true, beq_iff_eq] at hall
  obtain ⟨hloading, hall⟩ := hall
  obtain ⟨c, hc, hall⟩ := exists_of_any hall
  simp only [Bool.and_eq_true, beq_iff_eq] at hall
  obtain ⟨⟨⟨hsubmissions, hcounting⟩, hfirst⟩, hsecond⟩ := hall
  have hbefore : Reachable "courier" 1 b := ⟨overtakenReading, hb⟩
  obtain ⟨hdrained, hbounded, hovertaken⟩ :=
    snapshots_bounded (hbefore.run hc) (by rw [hsubmissions]; decide)
  rw [hcounting] at hdrained
  obtain ⟨-, -, hnone⟩ := hovertaken b _ hbefore hc 3 (.readDrained 0 2 3) 2 3 second
    hloading rfl hsecond
  exact ⟨b, c, first, second, hb, hc, hfirst, by decide,
    (hbounded first (List.mem_of_getElem? hfirst)).1, hloading, hsecond, hnone (by omega),
    hcounting, hdrained⟩

end Crew

end MetricCourier
