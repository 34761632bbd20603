import MetricCourier.Proofs.Delivery.Resting

/-!
# More room loses no line

Two pipelines go through one schedule, the second with at least as much room in its queue. From the
first line that only the second has room for they differ in what they hold and in which line the end
of a call is about; yet the second never turns a line away that the first accepts.

Of a pipeline at rest only its balance matters. The line in flight does not wait, so a line is
accepted while no more are owed than the queue has room for (`Balance.admits`), and what an
occurrence does to the balance can be said without the pipeline (`Balance.take`,
`Pipeline.Rests.take`).

The balances are kept together from both sides (`Balance.Ahead`): the second pipeline owes at least
as much as the first, and more than it by no more than the room that it has more. The one side is
kept because the end of a call takes one off both; the other because a line that only the second
accepts finds the first owing more than its room.
-/

namespace MetricCourier

namespace Balance

/-- Is a line accepted? The one that is in flight does not wait. -/
def admits (capacity : Nat) (b : Balance) : Bool := !b.stopping && b.owed ≤ capacity

/-- What an occurrence makes of the balance. -/
def take (capacity : Nat) (b : Balance) : Occurrence → Balance
  | .submission line =>
    if b.admits capacity then { b with accepted := b.accepted ++ [line], owed := b.owed + 1 }
    else { b with dropped := b.dropped + 1 }
  | .completion _ => { b with owed := b.owed - 1 }
  | .stop => { b with stopping := true }

/-- What a schedule makes of the balance. -/
def follow (capacity : Nat) (b : Balance) (schedule : List Occurrence) : Balance :=
  schedule.foldl (take capacity) b

theorem dropped_take_le (capacity : Nat) (b : Balance) (o : Occurrence) :
    (b.take capacity o).dropped ≤ b.dropped + 1 := by
  cases o with
  | submission line =>
    rw [take]
    split
    · exact Nat.le_succ _
    · exact Nat.le_refl _
  | completion call => exact Nat.le_succ _
  | stop => exact Nat.le_succ _

theorem dropped_follow_le (capacity : Nat) (b : Balance) (schedule : List Occurrence) :
    (b.follow capacity schedule).dropped ≤ b.dropped + schedule.length := by
  -- an occurrence drops one line at most
  induction schedule generalizing b with
  | nil => exact Nat.le_refl _
  | cons o schedule ih =>
    have hone := dropped_take_le capacity b o
    have hrest := ih (b.take capacity o)
    rw [List.length_cons]
    exact Nat.le_trans hrest (by omega)

/-! ### With more room -/

/-- The second balance is that of a pipeline with so much more room after the same schedule. -/
structure Ahead (extra : Nat) (b b' : Balance) : Prop where
  stopping : b'.stopping = b.stopping
  owed_le : b.owed ≤ b'.owed
  le_owed : b'.owed ≤ b.owed + extra
  accepted : b.accepted.Sublist b'.accepted
  dropped : b'.dropped ≤ b.dropped

theorem Ahead.refl (extra : Nat) (b : Balance) : Ahead extra b b :=
  ⟨rfl, Nat.le_refl _, Nat.le_add_right _ _, List.Sublist.refl _, Nat.le_refl _⟩

variable {capacity extra : Nat} {b b' : Balance}

/-- A line that is accepted is accepted with more room. -/
theorem Ahead.admits (h : Ahead extra b b') (hb : b.admits capacity = true) :
    b'.admits (capacity + extra) = true := by
  simp only [Balance.admits, Bool.and_eq_true, decide_eq_true_eq] at hb ⊢
  have hle := h.le_owed
  exact ⟨h.stopping ▸ hb.1, by omega⟩

/-- A line that only the second accepts finds the first owing more than its room. -/
theorem Ahead.lt_of_admits (h : Ahead extra b b') (hb : ¬ b.admits capacity = true)
    (hb' : b'.admits (capacity + extra) = true) : b'.owed < b.owed + extra := by
  simp only [Balance.admits, Bool.and_eq_true, decide_eq_true_eq, not_and, Nat.not_le] at hb hb'
  -- the flag is the same for both, so it is for lack of room that the first refuses
  have hmore := hb (h.stopping ▸ hb'.1)
  omega

/-- Whatever occurs, the balances stay together. -/
theorem Ahead.take (h : Ahead extra b b') (o : Occurrence) :
    Ahead extra (b.take capacity o) (b'.take (capacity + extra) o) := by
  have howed := h.owed_le
  have howed' := h.le_owed
  cases o with
  | submission line =>
    rw [Balance.take, Balance.take]
    -- both accept the line, or the second does, or neither
    by_cases hb : b.admits capacity = true
    · rw [if_pos hb, if_pos (h.admits hb)]
      exact
        { h with
          owed_le := Nat.succ_le_succ howed
          le_owed := by dsimp only; omega
          accepted := h.accepted.append_right [line] }
    · rw [if_neg hb]
      by_cases hb' : b'.admits (capacity + extra) = true
      · rw [if_pos hb']
        exact
          { h with
            owed_le := Nat.le_succ_of_le howed
            le_owed := h.lt_of_admits hb hb'
            accepted := h.accepted.trans (List.sublist_append_left _ _)
            dropped := Nat.le_succ_of_le h.dropped }
      · rw [if_neg hb']
        exact { h with dropped := Nat.succ_le_succ h.dropped }
  | completion call =>
    exact
      { h with
        -- one less is owed on either side, unless nothing was
        owed_le := Nat.sub_le_sub_right howed 1
        le_owed := by simp only [Balance.take]; omega }
  | stop => exact { h with stopping := rfl }

theorem Ahead.follow (h : Ahead extra b b') (schedule : List Occurrence) :
    Ahead extra (b.follow capacity schedule) (b'.follow (capacity + extra) schedule) := by
  induction schedule generalizing b b' with
  | nil => exact h
  | cons o schedule ih => exact ih (h.take o)

end Balance

/-! ### What a pipeline makes of a schedule -/

namespace Station

variable {capacity : Nat} {s : Station}

/-- Until it is asked to stop, a station at rest has room for a line while no more are owed than its
queue holds. -/
theorem Orderly.room_iff (hI : s.Orderly capacity) (hrest : s.AtRest) (hpos : 0 < capacity)
    (hs : s.stopping = false) : s.waiting.length < capacity ↔ s.owed ≤ capacity := by
  obtain ⟨hp, hwaiting, hnone⟩ | hp | ⟨loop, line, hp⟩ := or_assoc.1 hrest
  · -- with nothing owed there is room, as the queue holds at least one line
    rw [hI.owed_of_idle (.inl ⟨hp, hwaiting, hnone⟩), hwaiting]
    exact ⟨fun _ => Nat.zero_le _, fun _ => hpos⟩
  · -- a worker that is over was asked to stop
    rw [hI.stopping_of_finished hp] at hs
    cases hs
  · -- the line in flight does not wait
    have howed : s.owed = s.waiting.length + 1 := by
      rw [owed, unfinished, hp]
      rfl
    rw [howed]
    exact Nat.succ_le_iff.symm

theorem balance_countRefused (s : Station) (line : Line) (why : Refusal) :
    (s.countRefused line why).balance = { s.balance with dropped := s.dropped + 1 } := by
  have haccepted : (s.countRefused line why).accepted = s.accepted := by
    simp [accepted, countRefused, note, Entry.accepted?]
  rw [balance, haccepted]
  rfl

theorem balance_posted {line : Line} {lines : Channel Line}
    (hl : s.lines.trySend line = .ok lines) :
    ({ s with lines }.note (.accepted line)).countAccepted.balance =
      { s.balance with accepted := s.accepted ++ [line], owed := s.owed + 1 } := by
  have haccepted : ({ s with lines }.note (.accepted line)).countAccepted.accepted =
      s.accepted ++ [line] := by
    simp [accepted, countAccepted, note, Entry.accepted?]
  -- what is owed grows by the line that waits now, and no other is touched
  have howed : ({ s with lines }.note (.accepted line)).countAccepted.owed = s.owed + 1 := by
    have hwaiting : lines.waiting.toList.length = s.waiting.length + 1 := by
      rw [Channel.toList_of_trySend hl, List.length_append, List.length_singleton, waiting]
    show lines.waiting.toList.length + s.unfinished.length = s.owed + 1
    rw [hwaiting, owed]
    omega
  rw [balance, haccepted, howed]
  rfl

/-- What becomes of a line that is submitted at rest. -/
theorem Orderly.submit_balance (hI : s.Orderly capacity) (hrest : s.AtRest) (hpos : 0 < capacity)
    (line : Line) :
    ((s.submit line).1 = .ok () ↔ s.balance.admits capacity = true) ∧
      (s.submit line).2.balance = s.balance.take capacity (.submission line) := by
  have hadmits : s.balance.admits capacity = true ↔
      s.refuses = false ∧ s.waiting.length < capacity := by
    rw [hI.refuses_eq, Balance.admits, Bool.and_eq_true, decide_eq_true_eq, Bool.not_eq_true']
    exact and_congr_right fun hs => (hI.room_iff hrest hpos hs).symm
  obtain ⟨hr, hroom, lines, hl, heq⟩ | ⟨why, hreason, heq⟩ := hI.bounded.submit_eq line
  · have htrue := hadmits.2 ⟨hr, hroom⟩
    rw [heq, Balance.take, if_pos htrue]
    exact ⟨iff_of_true rfl htrue, balance_posted hl⟩
  · have hfalse : ¬ s.balance.admits capacity = true := by
      rw [hadmits]
      rintro ⟨hr, hroom⟩
      -- either reason for a refusal contradicts the admission
      obtain ⟨-, hr'⟩ | ⟨-, -, hfull⟩ := hreason
      · rw [hr] at hr'
        cases hr'
      · omega
    rw [heq, Balance.take, if_neg hfalse]
    exact ⟨iff_of_false nofun hfalse, s.balance_countRefused line why⟩

theorem Orderly.stop_balance (hI : s.Orderly capacity) :
    s.stop.balance = { s.balance with stopping := true } := by
  obtain ⟨hs, heq⟩ | ⟨hs, stopMessage, -, heq⟩ := hI.stop_eq
  · rw [heq, balance, hs]
  · -- sending the message is in the journal, but as no acceptance
    have haccepted : ({ s.raiseStop with stopMessage }.note .stopSent).accepted = s.accepted := by
      simp [accepted, raiseStop, note, Entry.accepted?]
    rw [heq, balance, haccepted]
    rfl

/-- Where the worker is done, all that was accepted has been handed to the sink. -/
theorem Orderly.handed_of_stopped (hI : s.Orderly capacity) (h : s.stopped = true) :
    s.handed = s.accepted := by
  rw [hI.flags.stopped] at h
  obtain ⟨hemptied, hheld, -, -⟩ := Phase.nothing_left h
  -- nothing is held and nothing waits
  rw [hI.ledger.order, hheld, hI.flags.emptied hemptied]
  simp

end Station

namespace Pipeline

variable {p : Pipeline (List (Call Reply))} {capacity : Nat}

/-- The end of a call takes it off what is owed; with none in flight nothing is owed. -/
theorem Rests.completion (h : p.Rests capacity) (call : Call Reply) :
    (p.take (.completion call)).Rests capacity ∧
      (p.take (.completion call)).station.balance =
        p.station.balance.take capacity (.completion call) := by
  let p' : Pipeline (List (Call Reply)) := { p with sink := [call], gate := .admits 1 }
  have horderly : p'.station.Orderly capacity := h.orderly
  obtain hidle | ⟨loop, line, hp⟩ := h.rest
  · -- no call can end, and the permit is lost
    have hnext : p'.next? .prompted = none := (next?_eq_none_iff horderly).2 (.inl hidle)
    have hsame : p.take (.completion call) = p'.hold :=
      congrArg hold (settle_of_next?_eq_none hnext)
    have hnone : { p.station.balance with owed := p.station.owed - 1 } = p.station.balance := by
      rw [h.orderly.owed_of_idle hidle, Station.balance, h.orderly.owed_of_idle hidle]
    rw [hsame]
    exact ⟨⟨h.orderly, rfl, h.rest⟩, hnone.symm⟩
  · -- the permit is used up by the call in flight, and the worker goes on with a slow sink
    obtain ⟨q, hnext, hgate, haccess⟩ : ∃ q, p'.next? .prompted = some q ∧ q.gate = .admits 0 ∧
        Station.Access (.finish call) p.station q.station := by
      obtain ⟨t, ht⟩ := Station.exists_finish hp call
      refine ⟨{ p' with station := t, sink := [], gate := .admits 0 }, ?_, rfl,
        Station.access_of_move ht⟩
      simp [next?, p', hp, Gate.pass?, Sink.prompted, ht]
    have hsettled : p.take (.completion call) = (q.settle .prompted).hold :=
      congrArg hold (settle_of_next? hnext)
    obtain ⟨hrests, hbalance⟩ :=
      rests_settle .prompted (h.orderly.access haccess) hgate
    rw [hsettled]
    refine ⟨⟨hrests.orderly, rfl, hrests.rest⟩, ?_⟩
    exact hbalance.trans (Station.balance_of_finish h.orderly.ledger haccess)

/-- **What an occurrence makes of a pipeline at rest** it makes of the balance, and the pipeline
comes to rest again. -/
theorem Rests.take (h : p.Rests capacity) (hpos : 0 < capacity) (o : Occurrence) :
    (p.take o).Rests capacity ∧
      (p.take o).station.balance = p.station.balance.take capacity o := by
  cases o with
  | submission line =>
    have horderly : (p.submit line).station.Orderly capacity := h.orderly.submit line
    obtain ⟨hrests, hbalance⟩ := rests_settle .prompted horderly h.held
    exact ⟨hrests, hbalance.trans (h.orderly.submit_balance h.rest hpos line).2⟩
  | completion call => exact h.completion call
  | stop =>
    have horderly : p.stop.station.Orderly capacity := h.orderly.stop
    obtain ⟨hrests, hbalance⟩ := rests_settle .prompted horderly h.held
    exact ⟨hrests, hbalance.trans h.orderly.stop_balance⟩

theorem Rests.follow (h : p.Rests capacity) (hpos : 0 < capacity) (schedule : List Occurrence) :
    (p.follow schedule).Rests capacity ∧
      (p.follow schedule).station.balance = p.station.balance.follow capacity schedule := by
  induction schedule generalizing p with
  | nil => exact ⟨h, rfl⟩
  | cons o schedule ih =>
    obtain ⟨hrests, hbalance⟩ := h.take hpos o
    obtain ⟨hlast, hfollow⟩ := ih hrests
    refine ⟨hlast, hfollow.trans ?_⟩
    rw [hbalance]
    rfl

/-- A schedule starts at rest, with nothing on the balance. -/
theorem rests_opening (b : Builder) :
    b.opening.Rests b.capacity ∧ b.opening.station.balance = {} :=
  rests_settle (p := (b.start [] none []).hold) .prompted
    (Station.Orderly.started b.threadName b.capacity none) rfl

/-- A line is accepted as the balance says. -/
theorem Rests.trySubmit_iff (h : p.Rests capacity) (hpos : 0 < capacity) (line : Line) :
    (p.trySubmit line).1 = .ok () ↔ p.station.balance.admits capacity = true := by
  have hanswer : (p.trySubmit line).1 = (p.station.submit line).1.mapError Refusal.fault := rfl
  rw [← (h.orderly.submit_balance h.rest hpos line).1, hanswer]
  cases (p.station.submit line).1 with
  | ok _ => exact iff_of_true rfl rfl
  | error why => exact iff_of_false nofun nofun

/-! ### At the end of a schedule -/

/-- With a sink that is slow no longer, a worker that was asked to stop comes to its end, and what
was accepted and dropped stays as it is. -/
theorem finished_of_settle {σ : Type} (wrapped : Sink σ) {p : Pipeline σ}
    (hI : p.station.Orderly capacity) (hgate : p.gate = .unlocked)
    (hs : p.station.stopping = true) :
    (p.settle wrapped).station.Orderly capacity ∧ (p.settle wrapped).station.phase = .finished ∧
      (p.settle wrapped).station.accepted = p.station.accepted ∧
      (p.settle wrapped).station.dropped = p.station.dropped := by
  -- each access on the way keeps the gate, the flag and what was accepted and dropped
  have hall : (p.settle wrapped).gate = .unlocked ∧ (p.settle wrapped).station.stopping = true ∧
      (p.settle wrapped).station.accepted = p.station.accepted ∧
      (p.settle wrapped).station.dropped = p.station.dropped := by
    refine settle_induction (motive := fun q => q.gate = .unlocked ∧ q.station.stopping = true ∧
      q.station.accepted = p.station.accepted ∧ q.station.dropped = p.station.dropped)
      ⟨hgate, hs, rfl, rfl⟩ ?_
    rintro q r ⟨hgate, hstopping, haccepted, hdropped⟩ hnext
    obtain ⟨m, hm, hpass⟩ := next?_cases hnext
    have haccess := Station.access_of_move hm
    refine ⟨?_, haccess.stopping_eq.trans hstopping, haccess.accepted_eq.trans haccepted,
      haccess.dropped_eq.trans hdropped⟩
    -- an open gate lets calls through and stays open
    obtain ⟨-, hsame⟩ | hpass := hpass
    · exact hsame.trans hgate
    · rw [hgate] at hpass
      exact (Option.some.inj hpass).symm
  obtain ⟨hunlocked, hstopping, haccepted, hdropped⟩ := hall
  have horderly : (p.settle wrapped).station.Orderly capacity := orderly_settle hI
  refine ⟨horderly, ?_, haccepted, hdropped⟩
  -- where the worker settles it can only wait, and with an open gate only if it is idle
  have hnext : (p.settle wrapped).next? wrapped = none := next?_settle p
  obtain hidle | ⟨-, hclosed⟩ := (next?_eq_none_iff horderly).1 hnext
  · exact horderly.finished_of_idle hidle hstopping
  · rw [hunlocked] at hclosed
    cases hclosed

/-- **Shutting a pipeline down** succeeds once all calls end, and then all that was accepted has
been handed to the sink. -/
theorem Rests.conclude (h : p.Rests capacity) (outcomes : List (Call Reply)) :
    (p.conclude outcomes).1 = true ∧
      (p.conclude outcomes).2.station.handed = p.station.accepted ∧
      (p.conclude outcomes).2.station.dropped = p.station.dropped := by
  let q : Pipeline (List (Call Reply)) :=
    { p with station := p.station.stop, sink := outcomes, gate := .unlocked }
  have horderly : q.station.Orderly capacity := h.orderly.stop
  have hbalance : q.station.balance = { p.station.balance with stopping := true } :=
    h.orderly.stop_balance
  -- stopping raises the flag and leaves the rest of the balance
  have hstopping : q.station.stopping = true := congrArg Balance.stopping hbalance
  have haccepted : q.station.accepted = p.station.accepted := congrArg Balance.accepted hbalance
  have hdropped : q.station.dropped = p.station.dropped := congrArg Balance.dropped hbalance
  show (q.wait .prompted).1 = true ∧ (q.wait .prompted).2.station.handed = _ ∧
    (q.wait .prompted).2.station.dropped = _
  rw [wait]
  by_cases hdone : q.isStopped = true
  · rw [if_pos hdone]
    exact ⟨rfl, (horderly.handed_of_stopped hdone).trans haccepted, hdropped⟩
  · rw [if_neg hdone]
    obtain ⟨hsettled, hfinished, haccepted', hdropped'⟩ :=
      finished_of_settle .prompted horderly rfl hstopping
    have hstopped : (q.settle .prompted).station.stopped = true := by
      rw [hsettled.flags.stopped, hfinished]
      rfl
    have hhanded := (hsettled.handed_of_stopped hstopped).trans (haccepted'.trans haccepted)
    -- whether there was a message or the flag was looked at makes no difference
    cases hreceived : (q.settle .prompted).station.receiveDone with
    | none =>
      simp only [hreceived]
      exact ⟨hstopped, hhanded, hdropped'.trans hdropped⟩
    | some station =>
      simp only [hreceived]
      obtain ⟨received, -, rfl⟩ := Option.map_eq_some_iff.1 hreceived
      exact ⟨trivial, hhanded, hdropped'.trans hdropped⟩

end Pipeline

/-- **More room loses no line.** Through one schedule, a pipeline accepts every line that one with
less room accepts. So when both have been shut down, and both can be, the sink of the second has
been handed all lines that the sink of the first was, in the same order, and no more have been
dropped. -/
theorem Builder.more_room_loses_nothing (b b' : Builder) (hpos : 0 < b.capacity)
    (hle : b.capacity ≤ b'.capacity) (schedule : List Occurrence) :
    (∀ before line after, schedule = before ++ .submission line :: after →
      ((b.opening.follow before).trySubmit line).1 = .ok () →
      ((b'.opening.follow before).trySubmit line).1 = .ok ()) ∧
    ∀ outcomes outcomes',
      let final := (b.opening.follow schedule).conclude outcomes
      let final' := (b'.opening.follow schedule).conclude outcomes'
      final.1 = true ∧ final'.1 = true ∧
      final.2.station.handed.Sublist final'.2.station.handed ∧
      final'.2.station.dropped ≤ final.2.station.dropped ∧
      (schedule.length < UInt64.size → final'.2.stats.dropped ≤ final.2.stats.dropped) := by
  obtain ⟨extra, hextra⟩ := Nat.exists_eq_add_of_le hle
  have hpos' : 0 < b'.capacity := Nat.lt_of_lt_of_le hpos hle
  have hrests : ∀ turns, (b.opening.follow turns).Rests b.capacity ∧
      (b.opening.follow turns).station.balance = Balance.follow b.capacity {} turns := by
    intro turns
    obtain ⟨hstart, hnone⟩ := Pipeline.rests_opening b
    exact hnone ▸ hstart.follow hpos turns
  have hrests' : ∀ turns, (b'.opening.follow turns).Rests b'.capacity ∧
      (b'.opening.follow turns).station.balance = Balance.follow b'.capacity {} turns := by
    intro turns
    obtain ⟨hstart, hnone⟩ := Pipeline.rests_opening b'
    exact hnone ▸ hstart.follow hpos' turns
  -- both start with nothing, and go through the schedule side by side
  have hahead : ∀ turns, Balance.Ahead extra (b.opening.follow turns).station.balance
      (b'.opening.follow turns).station.balance := by
    intro turns
    rw [(hrests turns).2, (hrests' turns).2, hextra]
    exact (Balance.Ahead.refl extra {}).follow turns
  constructor
  · intro before line _ _ haccepted
    -- whether a line is accepted can be read off the balance
    rw [(hrests before).1.trySubmit_iff hpos] at haccepted
    rw [(hrests' before).1.trySubmit_iff hpos', hextra]
    exact (hahead before).admits haccepted
  · intro outcomes outcomes' final final'
    obtain ⟨hdone, hhanded, hdropped⟩ := (hrests schedule).1.conclude outcomes
    obtain ⟨hdone', hhanded', hdropped'⟩ := (hrests' schedule).1.conclude outcomes'
    have hle : final'.2.station.dropped ≤ final.2.station.dropped := by
      rw [hdropped, hdropped']
      exact (hahead schedule).dropped
    refine ⟨hdone, hdone', ?_, hle, ?_⟩
    · rw [hhanded, hhanded']
      exact (hahead schedule).accepted
    · intro hlength
      -- no more is dropped than occurs, so the counters have not come round
      have hfew : final.2.station.dropped ≤ schedule.length := by
        have hmost := Balance.dropped_follow_le b.capacity {} schedule
        rw [← (hrests schedule).2, Nat.zero_add] at hmost
        exact Nat.le_trans (Nat.le_of_eq hdropped) hmost
      have hword : (UInt64.ofNat final.2.station.dropped).toNat = final.2.station.dropped :=
        UInt64.toNat_ofNat_of_lt' (by omega)
      have hword' : (UInt64.ofNat final'.2.station.dropped).toNat = final'.2.station.dropped :=
        UInt64.toNat_ofNat_of_lt' (by omega)
      show UInt64.ofNat final'.2.station.dropped ≤ UInt64.ofNat final.2.station.dropped
      rw [UInt64.le_iff_toNat_le, hword, hword']
      exact hle

/-- Four lines, of which the third meets a full queue if there is room for one only. The call for
the first unwinds. -/
def crowdedSchedule : List Occurrence :=
  [.submission ⟨"a:1|c"⟩, .submission ⟨"b:1|c"⟩, .submission ⟨"c:1|c"⟩, .completion .unwound,
    .submission ⟨"d:1|c"⟩, .completion (.returned (.wrote 5)), .stop, .completion .unwound]

/-- A builder with room for so many lines. -/
def roomFor (capacity : Nat) : Builder := { capacity }

/-- With room for one line three are sent, with room for two all four. -/
theorem crowdedSchedule_sent :
    0 < (roomFor 1).capacity ∧ (roomFor 1).capacity ≤ (roomFor 2).capacity ∧
    (((roomFor 2).opening.follow [.submission ⟨"a:1|c"⟩]).trySubmit ⟨"b:1|c"⟩).1 = .ok () ∧
    (((roomFor 1).opening.follow crowdedSchedule).conclude []).2.station.handed =
      [⟨"a:1|c"⟩, ⟨"b:1|c"⟩, ⟨"d:1|c"⟩] ∧
    (((roomFor 2).opening.follow crowdedSchedule).conclude [.unwound]).2.station.handed =
      [⟨"a:1|c"⟩, ⟨"b:1|c"⟩, ⟨"c:1|c"⟩, ⟨"d:1|c"⟩] ∧
    (((roomFor 1).opening.follow crowdedSchedule).conclude []).2.station.handed.Sublist
      (((roomFor 2).opening.follow crowdedSchedule).conclude [.unwound]).2.station.handed ∧
    (((roomFor 2).opening.follow crowdedSchedule).conclude [.unwound]).2.stats.dropped ≤
      (((roomFor 1).opening.follow crowdedSchedule).conclude []).2.stats.dropped := by
  have hpos : 0 < (roomFor 1).capacity := by decide
  have hle : (roomFor 1).capacity ≤ (roomFor 2).capacity := by decide
  have hlength : crowdedSchedule.length < UInt64.size := by decide
  have hfirst : crowdedSchedule = [.submission ⟨"a:1|c"⟩] ++ .submission ⟨"b:1|c"⟩ ::
      crowdedSchedule.drop 2 := rfl
  -- the hypothesis about the second line is checked on the pipeline with less room
  have hnarrow : (((roomFor 1).opening.follow [.submission ⟨"a:1|c"⟩]).trySubmit ⟨"b:1|c"⟩).1 =
      .ok () := by decide +kernel
  obtain ⟨haccepts, hfinal⟩ :=
    (roomFor 1).more_room_loses_nothing (roomFor 2) hpos hle crowdedSchedule
  obtain ⟨-, -, hhanded, -, hdropped⟩ := hfinal [] [.unwound]
  refine ⟨hpos, hle, haccepts _ _ _ hfirst hnarrow, ?_, ?_, hhanded, hdropped hlength⟩
  · decide +kernel
  · decide +kernel

end MetricCourier
