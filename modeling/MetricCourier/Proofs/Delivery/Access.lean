import MetricCourier.Delivery.Interleaving

/-!
# What one access does

The accesses of a delivery, each as one rule: what has to hold before it and what it changes. The
functions `Station.move`, `Submission.move`, `StopCall.move` and `System.act` say which access comes
next; the relations of this module say the same with one constructor for each access, so that what
an access keeps is shown with one case for each.

* `Station.Access` — the accesses of the worker (`Station.access_of_move`);
* `Submission.Access` — those of a submission (`Submission.access_of_move`);
* `StopCall.Access` — those of a call to stop the worker (`StopCall.access_of_move`);
* `System.Access` — those of all of them together (`System.access_of_act`).

A call that makes an access is replaced by what is left of it; `perm_set` says what that does to the
calls as a whole, `forall_mem_set` what is kept of all of them, `countP_set_add` how their number
changes, and `getElem?_set_bind` what it does to each.
-/

namespace MetricCourier

namespace Station

/-- One access of the worker, by what the worker learns with it. -/
inductive Access : Move → Station → Station → Prop
  | enter {s : Station} (answer : Bool) (hp : s.phase = .starting) :
    Access (.enter answer) s
      ({ s with inContext := answer, phase := .checking }.note (.entered answer))
  | findStop {s : Station} (hp : s.phase = .checking) (hs : s.stopping = true) :
    Access .proceed s { s with phase := .closing }
  | findNoStop {s : Station} (hp : s.phase = .checking) (hs : s.stopping = false) :
    Access .proceed s { s with phase := .waiting }
  | receiveLine {s : Station} {line : Line} {lines : Channel Line} (hp : s.phase = .waiting)
      (hl : s.lines.tryReceive = some (line, lines)) :
    Access .receiveLine s { s with lines, phase := .taken .serving line }
  | receiveStop {s : Station} {stopMessage : Channel Unit} (hp : s.phase = .waiting)
      (hm : s.stopMessage.tryReceive = some ((), stopMessage)) :
    Access .receiveStop s { s with stopMessage, phase := .closing }
  | count {s : Station} {loop : Loop} {line : Line} (hp : s.phase = .taken loop line) :
    Access .proceed s { s with drained := s.drained + 1, phase := .counted loop line }
  | hand {s : Station} {loop : Loop} {line : Line} (hp : s.phase = .counted loop line) :
    Access .proceed s ({ s with phase := .sending loop line }.note (.handed line))
  | endWritten {s : Station} {loop : Loop} {line : Line} (bytes : UInt64)
      (hp : s.phase = .sending loop line) :
    Access (.finish (.returned (.wrote bytes))) s
      ({ s with phase := loop.next }.note (.ended line (.returned (.wrote bytes))))
  | endFailed {s : Station} {loop : Loop} {line : Line} (fault : IoFault)
      (hp : s.phase = .sending loop line) :
    Access (.finish (.returned (.failed fault))) s
      ({ s with phase := .failing loop line fault }.note
        (.ended line (.returned (.failed fault))))
  | endUnwound {s : Station} {loop : Loop} {line : Line} (hp : s.phase = .sending loop line) :
    Access (.finish .unwound) s ({ s with phase := .unwinding }.note (.ended line .unwound))
  | countFailure {s : Station} {loop : Loop} {line : Line} {fault : IoFault}
      (hp : s.phase = .failing loop line fault) :
    Access .proceed s { s with failed := s.failed + 1, phase := .reporting loop line fault }
  | report {s : Station} {loop : Loop} {line : Line} {fault : IoFault}
      (hp : s.phase = .reporting loop line fault) :
    Access .proceed s ({ s with phase := loop.next }.log (.lineUnsent line fault))
  | lock {s : Station} (hp : s.phase = .closing) (hr : s.readers = 0) (hw : s.writer = false) :
    Access .proceed s { s with writer := true, phase := .locked }
  | close {s : Station} (hp : s.phase = .locked) :
    Access .proceed s { s with closed := true, writer := false, phase := .draining }
  | drain {s : Station} {line : Line} {lines : Channel Line} (hp : s.phase = .draining)
      (hl : s.lines.tryReceive = some (line, lines)) :
    Access .proceed s { s with lines, phase := .taken .draining line }
  | findEmpty {s : Station} (hp : s.phase = .draining) (hl : s.lines.tryReceive = none) :
    Access .proceed s { s with phase := .announcing }
  | announce {s : Station} (hp : s.phase = .announcing) :
    Access .proceed s ({ s with phase := .marking }.log .workerStopped)
  | mark {s : Station} (hp : s.phase = .marking) :
    Access .proceed s { s with stopped := true, phase := .signalling }
  | signal {s : Station} {doneMessage : Channel Unit} (hp : s.phase = .signalling)
      (hm : s.doneMessage.trySend () = .ok doneMessage) :
    Access .proceed s ({ s with doneMessage, phase := .leaving }.note .doneSent)
  | signalInVain {s : Station} {why : SendFault} (hp : s.phase = .signalling)
      (hm : s.doneMessage.trySend () = .error why) :
    Access .proceed s { s with phase := .leaving }
  | leave {s : Station} (hp : s.phase = .leaving) (hc : s.inContext = true) :
    Access .proceed s ({ s with inContext := false, phase := .finished }.note .left)
  | leaveNothing {s : Station} (hp : s.phase = .leaving) (hc : s.inContext = false) :
    Access .proceed s { s with phase := .finished }
  | unwindLeaving {s : Station} (hp : s.phase = .unwinding) (hc : s.inContext = true) :
    Access .proceed s ({ s with inContext := false, phase := .unwound }.note .left)
  | unwindLeavingNothing {s : Station} (hp : s.phase = .unwinding) (hc : s.inContext = false) :
    Access .proceed s { s with phase := .unwound }
  | countRestart {s : Station} (hp : s.phase = .unwound) :
    Access .proceed s { s with restarts := s.restarts + 1, phase := .restarting }
  | restart {s : Station} (hp : s.phase = .restarting) :
    Access .proceed s ({ s with phase := .starting }.log (.restarting s.threadName))

variable {s t : Station}

theorem takeLine_eq_some_iff {loop : Loop} :
    s.takeLine loop = some t ↔ ∃ line lines, s.lines.tryReceive = some (line, lines) ∧
      t = { s with lines, phase := .taken loop line } := by
  simp only [takeLine, Option.map_eq_some_iff, Prod.exists]
  exact ⟨fun ⟨line, lines, hl, ht⟩ => ⟨line, lines, hl, ht.symm⟩,
    fun ⟨line, lines, hl, ht⟩ => ⟨line, lines, hl, ht.symm⟩⟩

theorem takeLine_eq_none_iff {loop : Loop} :
    s.takeLine loop = none ↔ s.lines.tryReceive = none := by
  simp only [takeLine, Option.map_eq_none_iff]

/-- What depends on the station alone is an access. -/
theorem access_of_proceed (h : s.proceed = some t) : Access .proceed s t := by
  unfold proceed at h
  -- one case for each phase, in the order of `proceed`
  split at h
  case h_1 hp =>
    by_cases hs : s.stopping = true
    · rw [if_pos hs] at h
      cases h
      exact .findStop hp hs
    · rw [if_neg hs] at h
      cases h
      exact .findNoStop hp (Bool.eq_false_iff.mpr hs)
  case h_2 hp => cases h; exact .count hp
  case h_3 hp => cases h; exact .hand hp
  case h_4 hp => cases h; exact .countFailure hp
  case h_5 hp => cases h; exact .report hp
  case h_6 hp =>
    split at h
    · next hfree => cases h; exact .lock hp hfree.1 hfree.2
    · cases h
  case h_7 hp => cases h; exact .close hp
  case h_8 hp =>
    cases ht : s.takeLine .draining with
    | none =>
      rw [ht] at h
      cases h
      exact .findEmpty hp (takeLine_eq_none_iff.mp ht)
    | some r =>
      rw [ht] at h
      cases h
      obtain ⟨line, lines, hl, rfl⟩ := takeLine_eq_some_iff.mp ht
      exact .drain hp hl
  case h_9 hp => cases h; exact .announce hp
  case h_10 hp => cases h; exact .mark hp
  case h_11 hp =>
    split at h
    · next hm => cases h; exact .signal hp hm
    · next hm => cases h; exact .signalInVain hp hm
  case h_12 hp =>
    -- the same two ways out as for a worker that unwinds, but this one is through
    unfold leaveContext at h
    split at h
    · next hc => cases h; exact .leave hp hc
    · next hc => cases h; exact .leaveNothing hp (Bool.eq_false_iff.mpr hc)
  case h_13 hp =>
    unfold leaveContext at h
    split at h
    · next hc => cases h; exact .unwindLeaving hp hc
    · next hc => cases h; exact .unwindLeavingNothing hp (Bool.eq_false_iff.mpr hc)
  case h_14 hp => cases h; exact .countRestart hp
  case h_15 hp => cases h; exact .restart hp
  all_goals cases h

theorem access_of_finish {call : Call Reply} (h : s.finish call = some t) :
    Access (.finish call) s t := by
  unfold finish at h
  -- a call can only end that was made
  split at h
  · next hp =>
    split at h
    · next bytes => cases h; exact .endWritten bytes hp
    · next fault => cases h; exact .endFailed fault hp
    · cases h; exact .endUnwound hp
  · cases h

/-- Whatever the worker does next is an access. -/
theorem access_of_move {m : Move} (h : s.move m = some t) : Access m s t := by
  cases m with
  | enter answer =>
    simp only [move, enter] at h
    -- in any other phase there is no such access
    split at h
    · next hp => cases h; exact .enter answer hp
    · cases h
  | receiveLine =>
    simp only [move, receiveLine] at h
    split at h
    · next hp =>
      obtain ⟨line, lines, hl, rfl⟩ := takeLine_eq_some_iff.mp h
      exact .receiveLine hp hl
    · cases h
  | receiveStop =>
    simp only [move, receiveStop, takeStop] at h
    split at h
    · next hp =>
      rw [Option.map_eq_some_iff] at h
      obtain ⟨⟨_, stopMessage⟩, hm, rfl⟩ := h
      exact .receiveStop hp hm
    · cases h
  | finish call => exact access_of_finish h
  | proceed => exact access_of_proceed h

end Station

/-! ### The accesses of calls -/

/-- One access of a submission, with the station before and after it. -/
inductive Submission.Access : Station → Submission → Station → Submission → Prop
  | arrive {s : Station} {line : Line} (hw : s.writer = false) :
    Access s (.arriving line) { s with readers := s.readers + 1 } (.checking line)
  | refuse {s : Station} {line : Line} (hr : s.refuses = true) :
    Access s (.checking line) s (.refusing line .stopped)
  | pass {s : Station} {line : Line} (hr : s.refuses = false) :
    Access s (.checking line) s (.posting line)
  | post {s : Station} {line : Line} {lines : Channel Line}
      (hl : s.lines.trySend line = .ok lines) :
    Access s (.posting line) ({ s with lines }.note (.accepted line)) (.counting line)
  | turnAway {s : Station} {line : Line} (why : Refusal) (hl : s.post line = .error why) :
    Access s (.posting line) s (.refusing line why)
  | count {s : Station} {line : Line} :
    Access s (.counting line) s.countAccepted (.departing line none)
  | countRefusal {s : Station} {line : Line} (why : Refusal) :
    Access s (.refusing line why) (s.countRefused line why) (.departing line (some why))
  | depart {s : Station} {line : Line} (refusal : Option Refusal) :
    Access s (.departing line refusal) { s with readers := s.readers - 1 }
      (.returned line refusal)

theorem Station.post_eq_ok_iff {s t : Station} {line : Line} :
    s.post line = .ok t ↔ ∃ lines, s.lines.trySend line = .ok lines ∧
      t = { s with lines }.note (.accepted line) := by
  unfold Station.post
  cases s.lines.trySend line with
  | ok lines => simp only [Except.ok.injEq, exists_eq_left', eq_comm]
  -- for either reason to refuse a line, posting it fails
  | error why => cases why <;> simp

theorem Submission.access_of_move {s t : Station} {c d : Submission}
    (h : c.move s = some (d, t)) : Access s c t d := by
  cases c with
  | arriving line =>
    -- it gets the lock only while the worker does not hold it
    simp only [move] at h
    split at h
    · cases h
    · next hw => cases h; exact .arrive (by simpa using hw)
  | checking line =>
    cases hr : s.refuses with
    | true => simp only [move, hr] at h; cases h; exact .refuse hr
    | false => simp only [move, hr] at h; cases h; exact .pass hr
  | posting line =>
    simp only [move] at h
    split at h
    · next posted hl =>
      cases h
      -- a line that was posted found room, and waits from then on
      obtain ⟨lines, hlines, rfl⟩ := Station.post_eq_ok_iff.mp hl
      exact .post hlines
    · next why hl => cases h; exact .turnAway why hl
  | counting line => cases h; exact .count
  | refusing line why => cases h; exact .countRefusal why
  | departing line refusal => cases h; exact .depart refusal
  | returned line refusal => cases h

/-- One access of a call to stop the worker, with the station before and after it. -/
inductive StopCall.Access : Station → StopCall → Station → StopCall → Prop
  | raise {s : Station} {waits : Bool} (hs : s.stopping = false) :
    Access s (.raising waits) s.raiseStop (.sending waits)
  | raiseAgain {s : Station} {waits : Bool} (hs : s.stopping = true) :
    Access s (.raising waits) s.raiseStop (asked waits)
  | send {s : Station} {waits : Bool} : Access s (.sending waits) s.sendStop (asked waits)
  | findDone {s : Station} (hs : s.stopped = true) :
    Access s .looking s (.returned (some true))
  | findBusy {s : Station} (hs : s.stopped = false) : Access s .looking s .blocked
  | receive {s : Station} {doneMessage : Channel Unit}
      (hm : s.doneMessage.tryReceive = some ((), doneMessage)) :
    Access s .blocked { s with doneMessage } (.returned (some true))
  | lookAgain {s : Station} : Access s .lookingAgain s (.returned (some s.stopped))

theorem StopCall.access_of_move {s t : Station} {c d : StopCall}
    (h : c.move s = some (d, t)) : Access s c t d := by
  cases c with
  | raising waits =>
    cases hs : s.stopping with
    | true => simp only [move, hs] at h; cases h; exact .raiseAgain hs
    | false => simp only [move, hs] at h; cases h; exact .raise hs
  | sending waits => cases h; exact .send
  | looking =>
    cases hs : s.stopped with
    | true => simp only [move, hs] at h; cases h; exact .findDone hs
    | false => simp only [move, hs] at h; cases h; exact .findBusy hs
  | blocked =>
    -- it stays blocked until there is a message, so this access has one
    simp only [move, Station.receiveDone, Option.map_map, Option.map_eq_some_iff] at h
    obtain ⟨⟨_, doneMessage⟩, hm, heq⟩ := h
    cases heq
    exact .receive hm
  | lookingAgain => cases h; exact .lookAgain
  | returned done => cases h

/-! ### The accesses of a system -/

/-- One access of one thread. -/
inductive System.Access : Action → System → System → Prop
  | worker {s : System} {m : Station.Move} {station : Station}
      (h : Station.Access m s.station station) : Access (.worker m) s { s with station }
  | arrive {s : System} {call : Caller} (h : call.isNew = true) :
    Access (.arrive call) s { s with callers := s.callers ++ [call] }
  | submission {s : System} {i : Nat} {c d : Submission} {station : Station}
      (hi : s.callers[i]? = some (.submission c))
      (h : Submission.Access s.station c station d) :
    Access (.caller i) s
      { station
        callers := s.callers.set i (.submission d)
        admitted :=
          if (Caller.submission d).isCounting then s.admitted ++ [i] else s.admitted }
  | stop {s : System} {i : Nat} {c d : StopCall} {station : Station}
      (hi : s.callers[i]? = some (.stop c)) (h : StopCall.Access s.station c station d) :
    Access (.caller i) s { s with station, callers := s.callers.set i (.stop d) }
  | stats {s : System} {i : Nat} {c d : StatsCall} (hi : s.callers[i]? = some (.stats c))
      (h : c.move s.station = some d) :
    Access (.caller i) s { s with callers := s.callers.set i (.stats d) }
  | timeOut {s : System} {i : Nat} (hi : s.callers[i]? = some (.stop .blocked)) :
    Access (.timeOut i) s { s with callers := s.callers.set i (.stop .lookingAgain) }

namespace System

/-- Whatever is done to a system is an access. -/
theorem access_of_act {s t : System} {action : Action} (h : s.act action = some t) :
    Access action s t := by
  cases action with
  | worker m =>
    simp only [act, Option.map_eq_some_iff] at h
    obtain ⟨station, hm, rfl⟩ := h
    exact .worker (Station.access_of_move hm)
  | arrive call =>
    simp only [act] at h
    split at h
    · next hnew => cases h; exact .arrive hnew
    · cases h
  | caller i =>
    simp only [act, Option.bind_eq_bind, Option.bind_eq_some_iff, Option.pure_def,
      Option.some.injEq] at h
    -- the call makes its own access, and its place in the list shows how far it has got
    obtain ⟨call, hi, ⟨next, station⟩, hmove, rfl⟩ := h
    cases call with
    | submission c =>
      simp only [Caller.move, Option.map_eq_some_iff] at hmove
      obtain ⟨⟨d, u⟩, hc, heq⟩ := hmove
      cases heq
      exact .submission hi (Submission.access_of_move hc)
    | stop c =>
      simp only [Caller.move, Option.map_eq_some_iff] at hmove
      obtain ⟨⟨d, u⟩, hc, heq⟩ := hmove
      cases heq
      exact .stop hi (StopCall.access_of_move hc)
    | stats c =>
      -- a reading changes nothing but how far it has got
      simp only [Caller.move, Option.map_eq_some_iff] at hmove
      obtain ⟨d, hc, heq⟩ := hmove
      cases heq
      exact .stats hi hc
  | timeOut i =>
    simp only [act, Option.bind_eq_bind, Option.bind_eq_some_iff, Option.pure_def,
      Option.some.injEq] at h
    obtain ⟨call, hi, next, hnext, rfl⟩ := h
    cases call with
    | submission c => cases hnext
    | stats c => cases hnext
    | stop c =>
      -- only a call that waits has a time that can be up
      cases c with
      | blocked => cases hnext; exact .timeOut hi
      | _ => cases hnext

end System

/-! ### Calls that are replaced by what is left of them -/

section Replace

variable {α β : Type} {as : List α} {i : Nat} {a b : α}

/-- Replacing a member puts the new one in and takes the old one out. -/
theorem perm_set (h : as[i]? = some a) : List.Perm (a :: as.set i b) (b :: as) := by
  induction as generalizing i with
  | nil => cases h
  | cons c rest ih =>
    cases i with
    | zero =>
      cases h
      exact List.Perm.swap b a rest
    | succ i =>
      -- the replacement is behind `c`, which stays where it is
      have hrest : List.Perm (a :: rest.set i b) (b :: rest) := ih h
      calc List.Perm (a :: c :: rest.set i b) (c :: a :: rest.set i b) := List.Perm.swap ..
        List.Perm _ (c :: b :: rest) := hrest.cons c
        List.Perm _ (b :: c :: rest) := List.Perm.swap ..

theorem forall_mem_set {p : α → Prop} (h : ∀ c ∈ as, p c) (hb : p b) : ∀ c ∈ as.set i b, p c := by
  intro c hc
  obtain hold | rfl := List.mem_or_eq_of_mem_set hc
  · exact h c hold
  · exact hb

theorem countP_cons_toNat (p : α → Bool) (c : α) (cs : List α) :
    (c :: cs).countP p = cs.countP p + (p c).toNat := by
  rw [List.countP_cons]
  cases p c <;> rfl

/-- What is of exactly one of two kinds is counted with one of them. -/
theorem countP_eq_add {α : Type} {p q r : α → Bool} {as : List α}
    (h : ∀ a ∈ as, (r a).toNat = (p a).toNat + (q a).toNat) :
    as.countP r = as.countP p + as.countP q := by
  induction as with
  | nil => rfl
  | cons a rest ih =>
    have hrest := ih fun b hb => h b (List.mem_cons_of_mem a hb)
    have hfirst := h a List.mem_cons_self
    rw [countP_cons_toNat, countP_cons_toNat, countP_cons_toNat]
    -- whatever the first member is, it is counted once on either side
    omega

/-- How many of a kind there are after a replacement. -/
theorem countP_set_add (p : α → Bool) (h : as[i]? = some a) :
    (as.set i b).countP p + (p a).toNat = as.countP p + (p b).toNat := by
  -- count the old member beside the new list and the new one beside the old list
  have hperm := (perm_set (b := b) h).countP_eq p
  rwa [countP_cons_toNat, countP_cons_toNat] at hperm

/-- What there is at each place after a replacement. -/
theorem getElem?_set_bind (f : α → Option β) (h : as[i]? = some a) (j : Nat) :
    (as.set i b)[j]?.bind f = if i = j then f b else as[j]?.bind f := by
  have hlt : i < as.length := (List.getElem?_eq_some_iff.mp h).1
  by_cases hij : i = j
  · subst hij
    rw [List.getElem?_set_self hlt, Option.bind_some, if_pos rfl]
  · rw [List.getElem?_set_ne hij, if_neg hij]

/-- Replacing another member leaves this one where it is. -/
theorem getElem?_set_of_ne {c : α} {j : Nat} (hi : as[i]? = some a) (hj : as[j]? = some b)
    (hne : b ≠ a) : (as.set j c)[i]? = some a := by
  have hji : j ≠ i := by
    rintro rfl
    rw [hi] at hj
    exact hne (Option.some.inj hj).symm
  rw [List.getElem?_set_ne hji, hi]

end Replace

end MetricCourier
