import MetricCourier.Delivery.Schedule
import MetricCourier.Proofs.Delivery.Draining
import MetricCourier.Proofs.Delivery.Submitting

/-!
# Pipelines at rest

A pipeline that nobody is in the middle of using, and whose worker can only wait. Its station is
`Station.Orderly`: what is invariant while accesses are interleaved holds of it with no call under
way, so the lock is free and a stop message waits for a waiting worker as soon as the stop flag is
up. Each access of the worker keeps this, and so do a submission and a request to stop as a whole.

From that it follows where a worker can come to rest (`Pipeline.next?_eq_none_iff`): it waits with
nothing to receive, or it is over, or the call of the sink in which it is cannot end. So at rest all
lines but the one in flight wait in the queue, and there is one in flight unless none is owed.

Seen from outside such a pipeline is its `Balance`: whether it was asked to stop, what it accepted,
how many calls of the sink it owes, and how much it dropped. Only the end of a call changes the
balance while the worker works (`Station.balance_of_access`, `Station.balance_of_finish`).
-/

namespace MetricCourier

namespace Station

/-- A station that no caller is in the middle of using. -/
structure Orderly (capacity : Nat) (s : Station) : Prop where
  ledger : s.Ledger
  bounded : s.Bounded capacity
  flags : s.Flags
  /-- Nobody holds the read side of the lock. -/
  readers : s.readers = 0
  /-- Where a stop message waits the stop flag is up. -/
  asked : s.stopMessage.waiting.toList ≠ [] → s.stopping = true
  /-- A worker that waits with the flag up finds the message. -/
  woken : s.phase = .waiting → s.stopping = true → s.stopMessage.waiting.toList ≠ []
  stopChannel : s.stopMessage.Single
  doneChannel : s.doneMessage.Single

variable {capacity : Nat} {s t : Station} {m : Move}

theorem asked_of_access (hI : s.stopMessage.waiting.toList ≠ [] → s.stopping = true)
    (h : Access m s t) : t.stopMessage.waiting.toList ≠ [] → t.stopping = true := by
  rw [h.stopping_eq]
  cases h with
  | receiveStop _ hm =>
    intro _
    -- it was the message, and there had been one before
    apply hI
    rw [Channel.toList_of_tryReceive hm]
    exact List.cons_ne_nil _ _
  | _ => exact hI

/-- A worker only begins to wait when it has found the stop flag down. -/
theorem woken_of_access (h : Access m s t) :
    t.phase = .waiting → t.stopping = true → t.stopMessage.waiting.toList ≠ [] := by
  intro hp hs
  rw [h.stopping_eq] at hs
  cases h with
  -- this is how it gets there, and the flag was down
  | findNoStop _ hdown =>
    rw [hdown] at hs
    cases hs
  | @endWritten _ loop _ _ _ | @report _ loop _ _ _ => cases loop <;> cases hp
  | _ => cases hp

theorem Orderly.access (hI : s.Orderly capacity) (h : Access m s t) : t.Orderly capacity where
  ledger := hI.ledger.access h
  bounded := hI.bounded.access h
  flags := hI.flags.access hI.asked h
  readers := h.readers_eq.trans hI.readers
  asked := asked_of_access hI.asked h
  woken := woken_of_access h
  stopChannel := (single_of_access hI.stopChannel hI.doneChannel h).1
  doneChannel := (single_of_access hI.stopChannel hI.doneChannel h).2

/-- A station that has logged its start is orderly. -/
theorem Orderly.started (threadName : String) (capacity : Nat)
    (destination : Option SocketAddress) :
    ((Station.new threadName capacity).log (.started threadName capacity destination)).Orderly
      capacity where
  ledger := by constructor <;> rfl
  bounded := ⟨rfl, rfl, Nat.zero_le _⟩
  flags := (Flags.new threadName capacity).congr rfl rfl id rfl rfl fun _ => rfl
  readers := rfl
  asked h := absurd rfl h
  woken h := nomatch h
  stopChannel := ⟨rfl, rfl⟩
  doneChannel := ⟨rfl, rfl⟩

/-- A submission as a whole leaves the station orderly. -/
theorem Orderly.submit (hI : s.Orderly capacity) (line : Line) :
    (s.submit line).2.Orderly capacity := by
  obtain ⟨hr, -, lines, hl, heq⟩ | ⟨why, -, heq⟩ := hI.bounded.submit_eq line
  · rw [heq]
    have hpost : Submission.Access s (.posting line) _ (.counting line) := .post hl
    have hcount : Submission.Access ({ s with lines }.note (.accepted line)) (.counting line) _
      (.departing line none) := .count
    refine
      { hI with
        ledger := hcount.ledger (hpost.ledger hI.ledger)
        bounded := (hI.bounded.posted hl).of_lines rfl
        flags := hI.flags.congr rfl rfl id rfl rfl ?_ }
    intro hp
    -- a worker that has found the queue empty has closed it
    have hclosed := hI.flags.draining (Phase.isDraining_of_isEmptied hp)
    rw [refuses, hclosed] at hr
    cases hr
  · rw [heq]
    have hrefuse : Submission.Access s (.refusing line why) _ (.departing line (some why)) :=
      .countRefusal why
    exact
      { hI with
        ledger := hrefuse.ledger hI.ledger
        bounded := hI.bounded.of_lines rfl
        flags := hI.flags.congr rfl rfl id rfl rfl fun _ => rfl }

/-- The first request to stop raises the flag and sends the message; another does nothing. -/
theorem Orderly.stop_eq (hI : s.Orderly capacity) :
    s.stopping = true ∧ s.stop = s ∨
      s.stopping = false ∧ ∃ stopMessage, s.stopMessage.trySend () = .ok stopMessage ∧
        s.stop = { s.raiseStop with stopMessage }.note .stopSent := by
  cases hs : s.stopping with
  | true => exact Or.inl ⟨rfl, by rw [Station.stop, hs, if_pos rfl]⟩
  | false =>
    -- a message that waits would have been sent with the flag up
    have hempty : s.stopMessage.waiting.toList = [] := by
      by_contra hne
      rw [hI.asked hne] at hs
      cases hs
    obtain ⟨stopMessage, hsend⟩ := hI.stopChannel.trySend_ok (congrArg List.length hempty)
    refine Or.inr ⟨rfl, stopMessage, hsend, ?_⟩
    rw [Station.stop, hs, if_neg Bool.false_ne_true]
    exact sendStop_eq hsend

/-- A request to stop as a whole leaves the station orderly. -/
theorem Orderly.stop (hI : s.Orderly capacity) : s.stop.Orderly capacity := by
  obtain ⟨-, heq⟩ | ⟨hs, stopMessage, hsend, heq⟩ := hI.stop_eq
  · rw [heq]
    exact hI
  · -- both accesses of the call post nothing, which keeps the ledger
    have hraise : StopCall.Access s (.raising false) s.raiseStop (.sending false) := .raise hs
    have hsent : StopCall.Access s.raiseStop (.sending false) s.raiseStop.sendStop _ := .send
    have hledger := (hI.ledger.posts hraise.posts).posts hsent.posts
    have hraised : s.raiseStop.stopMessage.trySend () = .ok stopMessage := hsend
    rw [sendStop_eq hraised] at hledger
    -- whoever waits finds the message now
    have hmessage : stopMessage.waiting.toList ≠ [] := by
      rw [Channel.toList_of_trySend hsend]
      exact List.append_ne_nil_of_right_ne_nil _ (List.cons_ne_nil _ _)
    rw [heq]
    exact
      { hI with
        ledger := hledger
        bounded := hI.bounded.of_lines rfl
        flags := hI.flags.congr rfl rfl (fun _ => rfl) rfl rfl fun _ => rfl
        asked := fun _ => rfl
        woken := fun _ _ => hmessage
        stopChannel := hI.stopChannel.of_trySend hsend }

/-- The station refuses lines exactly from the request to stop on. -/
theorem Orderly.refuses_eq (hI : s.Orderly capacity) : s.refuses = s.stopping := by
  rw [refuses]
  cases hc : s.closed with
  | true => rw [hI.flags.closed hc, Bool.or_true]
  | false => rw [Bool.false_or]

/-! ### Where a worker comes to rest -/

/-- The worker waits with nothing to receive, or it is over. -/
def Idle (s : Station) : Prop :=
  s.phase = .waiting ∧ s.waiting = [] ∧ s.stopMessage.waiting.toList = [] ∨ s.phase = .finished

/-- The worker is idle, or the call of the sink has a line in flight. -/
def AtRest (s : Station) : Prop := s.Idle ∨ ∃ loop line, s.phase = .sending loop line

theorem Orderly.owed_of_idle (hI : s.Orderly capacity) (h : s.Idle) : s.owed = 0 := by
  obtain ⟨hp, hwaiting, -⟩ | hp := h
  · rw [owed, unfinished, hwaiting, hp]
    rfl
  · -- a worker that is over has emptied the queue
    have hwaiting : s.waiting = [] := hI.flags.emptied (by rw [hp]; rfl)
    rw [owed, unfinished, hwaiting, hp]
    rfl

/-- An idle worker that was asked to stop is over. -/
theorem Orderly.finished_of_idle (hI : s.Orderly capacity) (h : s.Idle)
    (hs : s.stopping = true) : s.phase = .finished := by
  obtain ⟨hp, -, hnone⟩ | hp := h
  · exact absurd hnone (hI.woken hp hs)
  · exact hp

theorem Orderly.stopping_of_finished (hI : s.Orderly capacity) (hp : s.phase = .finished) :
    s.stopping = true :=
  hI.flags.closed (hI.flags.draining (by rw [hp]; rfl))

end Station

/-! ### The balance -/

/-- What a pipeline is from outside. -/
structure Balance where
  /-- Was the worker asked to stop? -/
  stopping : Bool := false
  /-- The lines that were accepted, in order. -/
  accepted : List Line := []
  /-- How many calls of the sink have yet to end for them. -/
  owed : Nat := 0
  /-- How many lines were turned away. -/
  dropped : Nat := 0

namespace Station

variable {s t : Station} {m : Move}

def balance (s : Station) : Balance := ⟨s.stopping, s.accepted, s.owed, s.dropped⟩

/-- The worker changes nothing in the balance but what is owed. -/
theorem balance_eq_of_access (h : Access m s t) :
    t.balance = { s.balance with owed := t.owed } := by
  rw [balance, balance, h.stopping_eq, h.accepted_eq, h.dropped_eq]

/-- What is no longer owed has ended. -/
theorem owed_of_access (hI : s.Ledger) (h : Access m s t) :
    t.ended.length + t.owed = s.ended.length + s.owed := by
  rw [← hI.owed, ← (hI.access h).owed, h.accepted_eq]

/-- While no call of the sink ends the worker leaves the balance alone. -/
theorem balance_of_access (hI : s.Ledger) (hm : m.completion? = none) (h : Access m s t) :
    t.balance = s.balance := by
  -- as many calls have ended as before, so as many are owed
  have howed : t.owed = s.owed := by
    have hsum := owed_of_access hI h
    rw [ended_of_access hm h] at hsum
    exact Nat.add_left_cancel hsum
  rw [balance_eq_of_access h, howed]
  rfl

/-- A call of the sink that ends is one less that is owed. -/
theorem balance_of_finish (hI : s.Ledger) {call : Call Reply} (h : Access (.finish call) s t) :
    t.balance = { s.balance with owed := s.owed - 1 } := by
  obtain ⟨loop, line, -, hended⟩ := ended_of_finish rfl h
  -- one more has ended
  have howed : t.owed = s.owed - 1 := by
    have hsum := owed_of_access hI h
    rw [hended, List.length_append, List.length_singleton] at hsum
    omega
  rw [balance_eq_of_access h, howed]

end Station

namespace Pipeline

variable {σ : Type} {wrapped : Sink σ} {capacity : Nat} {p q : Pipeline σ}

/-- What each access of the worker keeps holds when it has settled. -/
theorem settle_induction {motive : Pipeline σ → Prop} (hp : motive p)
    (step : ∀ q r, motive q → q.next? wrapped = some r → motive r) :
    motive (p.settle wrapped) := by
  unfold settle
  generalize p.station.rank = fuel
  -- along the accesses that are made while there is fuel
  induction fuel generalizing p with
  | zero => exact hp
  | succ fuel ih =>
    unfold run
    cases hnext : p.next? wrapped with
    | none => exact hp
    | some q => exact ih (step p q hp hnext)

/-- A worker whose gate is closed ends no call of the sink. -/
theorem access_of_next? (hgate : p.gate.pass? = none) (h : p.next? wrapped = some q) :
    q.gate = p.gate ∧ ∃ m, m.completion? = none ∧ Station.Access m p.station q.station := by
  obtain ⟨m, hm, ⟨hne, hsame⟩ | hpass⟩ := next?_cases h
  · refine ⟨hsame, m, ?_, Station.access_of_move hm⟩
    -- to end a call takes a permit, and there is none
    cases m with
    | finish call => exact absurd rfl (hne call)
    | _ => rfl
  · rw [hgate] at hpass
    cases hpass

theorem orderly_settle (hI : p.station.Orderly capacity) :
    (p.settle wrapped).station.Orderly capacity := by
  refine settle_induction (motive := fun q => q.station.Orderly capacity) hI ?_
  intro q r hq hnext
  obtain ⟨m, hm⟩ := move_of_next? hnext
  exact hq.access (Station.access_of_move hm)

/-- Where a worker can only wait: for a message, for the end of a call, or no more. -/
theorem next?_eq_none_iff (hI : p.station.Orderly capacity) :
    p.next? wrapped = none ↔
      p.station.Idle ∨
        (∃ loop line, p.station.phase = .sending loop line) ∧ p.gate.pass? = none := by
  have hreaders := hI.readers
  have hwriter := hI.flags.writer
  unfold next?
  cases hp : p.station.phase with
  | starting => simp [Station.move, Station.enter, Station.Idle, hp]
  | waiting =>
    simp [Station.move, Station.receiveLine, Station.receiveStop, Station.takeLine,
      Station.takeStop, Station.Idle, Station.waiting, hp, Channel.tryReceive_eq_none_iff]
  | sending loop line =>
    -- only the gate can keep the call from ending
    obtain ⟨t, ht⟩ := Station.exists_finish hp (wrapped.emit line p.sink).1
    cases hpass : p.gate.pass? <;> simp [Station.Idle, hp, ht]
  -- nobody holds the lock, so the worker need not wait for it
  | closing => simp [Station.move, Station.proceed, Station.Idle, hp, hreaders, hwriter]
  | draining =>
    cases hl : p.station.takeLine .draining <;>
      simp [Station.move, Station.proceed, Station.Idle, hp, hl]
  | signalling =>
    cases hm : p.station.doneMessage.trySend () <;>
      simp [Station.move, Station.proceed, Station.Idle, hp, hm]
  | _ => simp [Station.move, Station.proceed, Station.Idle, hp]

/-- Nobody is in the middle of using the pipeline, its sink is slow and its worker can only wait. -/
structure Rests (capacity : Nat) (p : Pipeline σ) : Prop where
  orderly : p.station.Orderly capacity
  held : p.gate = .admits 0
  rest : p.station.AtRest

/-- With a slow sink the worker settles without a change of the balance. -/
theorem rests_settle (wrapped : Sink σ) (hI : p.station.Orderly capacity)
    (hheld : p.gate = .admits 0) :
    (p.settle wrapped).Rests capacity ∧ (p.settle wrapped).station.balance = p.station.balance := by
  -- the gate stays closed, so no access on the way ends a call
  have hall : (p.settle wrapped).station.Orderly capacity ∧
      (p.settle wrapped).gate = .admits 0 ∧
      (p.settle wrapped).station.balance = p.station.balance := by
    refine settle_induction (motive := fun q => q.station.Orderly capacity ∧
      q.gate = .admits 0 ∧ q.station.balance = p.station.balance) ⟨hI, hheld, rfl⟩ ?_
    rintro q r ⟨horderly, hgate, hbalance⟩ hnext
    obtain ⟨hsame, m, hm, haccess⟩ := access_of_next? (by rw [hgate]; rfl) hnext
    exact ⟨horderly.access haccess, hsame.trans hgate,
      (Station.balance_of_access horderly.ledger hm haccess).trans hbalance⟩
  obtain ⟨horderly, hgate, hbalance⟩ := hall
  refine ⟨⟨horderly, hgate, ?_⟩, hbalance⟩
  have hnext : (p.settle wrapped).next? wrapped = none := next?_settle p
  -- both ways to be unable to go on are ways to be at rest
  obtain hidle | ⟨hsending, -⟩ := (next?_eq_none_iff horderly).1 hnext
  · exact .inl hidle
  · exact .inr hsending

end Pipeline

end MetricCourier
