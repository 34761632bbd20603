import MetricCourier.Proofs.Delivery.Draining
import MetricCourier.Proofs.Delivery.Shifts

/-!
# The end of the worker, as its callers learn of it

A worker that is done sets a flag, sends a message and leaves its context, in this order and with
other threads in between. Whoever waits for it goes by the flag or by the message, and so learns of
the end before it is over. This module says what a caller can rely on then.

* The context. A caller may be told that the worker is done while the worker has yet to leave its
  context (`hastyShutdown_in_context`). But from then on the context is not entered any more, and
  the worker has at most two accesses left, which nobody can keep it from; once it has made them
  the context was left as often as it had to be (`told_leaves_soon`).
* The message. There is one, and one caller takes it. If several callers wait, the others are left
  behind: nothing but the end of their own time releases them (`twoWaiters_stranded`). For each
  message that was sent and does not wait any more some caller has been told (`Heard`), so a waiting
  caller is left behind only where another one took the message (`released_when_signalled`).

The first argument is about the phases after the flag is set, which each access of the worker leaves
for the next one (`Station.winding_of_access`), the second about a count that every access keeps
(`Heard.access`).
-/

namespace MetricCourier

namespace Station

variable {s t : Station} {m : Move}

/-- Of the phases after the flag is set there are three. -/
theorem weight_of_isMarked {p : Phase} (h : p.isMarked = true) :
    weight p ≤ 2 ∧ (weight p = 0 → p = .finished) := by
  cases p with
  | signalling | leaving | finished => decide
  | _ => cases h

/-- A worker that has set the flag goes one phase on with each access, and does not enter the
context any more. -/
theorem winding_of_access (hp : s.phase.isMarked = true) (h : Access m s t) :
    t.phase.isMarked = true ∧ weight t.phase + 1 = weight s.phase ∧ t.granted = s.granted := by
  cases h with
  -- in each of the three phases the access is known, and leads to the next one
  | signal hsignalling _ | leave hsignalling _ =>
    exact ⟨rfl, by rw [hsignalling]; rfl, granted_note rfl⟩
  | signalInVain hsignalling _ | leaveNothing hsignalling _ =>
    exact ⟨rfl, by rw [hsignalling]; rfl, rfl⟩
  | _ => simp_all [Phase.isMarked]

/-- A worker that has set the flag, and is not over, can make its next access. -/
theorem exists_winding (hp : s.phase.isMarked = true) (hweight : weight s.phase ≠ 0) :
    ∃ t, s.move .proceed = some t := by
  cases hphase : s.phase with
  | signalling =>
    rw [move, proceed, hphase]
    -- whether there is room for the message or not
    cases s.doneMessage.trySend () with
    | ok doneMessage => exact ⟨_, rfl⟩
    | error why => exact ⟨_, rfl⟩
  | leaving =>
    rw [move, proceed, hphase]
    exact ⟨_, rfl⟩
  | finished =>
    rw [hphase] at hweight
    exact absurd rfl hweight
  | _ =>
    rw [hphase] at hp
    cases hp

/-- A message that the worker sends waits. -/
theorem Access.dones_add (h : Access m s t) :
    t.donesSent + s.donesWaiting = s.donesSent + t.donesWaiting := by
  unfold donesSent donesWaiting
  cases h with
  | signal _ hm =>
    -- it is added to both counts
    have hlast := Channel.toList_of_trySend hm
    simp only [note, List.count_cons, hlast, List.length_append]
    simp
    omega
  | _ => simp [note, log]

end Station

/-! ### The context -/

namespace System

variable {s t : System}

/-- What is left of the worker once it has set the flag: as many accesses as its phase weighs, and
no entering of the context among them. -/
theorem winding_of_run (hp : s.station.phase.isMarked = true) {actions : List Action}
    (hrun : s.run actions = some t) :
    t.station.phase.isMarked = true ∧
      Station.weight t.station.phase + actions.countP Action.isWorker =
        Station.weight s.station.phase ∧
      t.station.granted = s.station.granted := by
  induction actions generalizing s with
  | nil =>
    rw [run_nil] at hrun
    cases hrun
    exact ⟨hp, rfl, rfl⟩
  | cons action rest ih =>
    rw [run_cons, Option.bind_eq_some_iff] at hrun
    obtain ⟨u, hu, hrest⟩ := hrun
    have haccess := access_of_act hu
    cases action with
    | worker m =>
      -- an access of the worker is taken off the weight of what is left
      cases haccess with
      | @worker _ _ station h =>
        obtain ⟨hmarked, hweight, hgranted⟩ := Station.winding_of_access hp h
        obtain ⟨hlast, hweights, hsame⟩ := ih hmarked hrest
        refine ⟨hlast, ?_, hsame.trans hgranted⟩
        rw [List.countP_cons_of_pos rfl, ← Nat.add_assoc, hweights, hweight]
    | _ =>
      -- accesses from outside leave the phase and the dealings as they are
      obtain ⟨hdealings, -, -, hphase⟩ := shift_of_outside haccess fun _ => Action.noConfusion
      obtain ⟨hlast, hweights, hsame⟩ := ih (hphase ▸ hp) hrest
      refine ⟨hlast, ?_, hsame.trans ?_⟩
      · rw [List.countP_cons_of_neg Bool.false_ne_true, hweights, hphase]
      · rw [Station.granted, hdealings, Station.granted]

/-- A worker that has set the flag gets to its end by itself. -/
theorem exists_end (hp : s.station.phase.isMarked = true) :
    ∃ t, s.run (List.replicate (Station.weight s.station.phase) (.worker .proceed)) = some t := by
  -- each access takes one off the weight
  induction hn : Station.weight s.station.phase generalizing s with
  | zero => exact ⟨s, rfl⟩
  | succ n ih =>
    obtain ⟨station, hm⟩ := Station.exists_winding hp (by omega)
    obtain ⟨hmarked, hweight, -⟩ := Station.winding_of_access hp (Station.access_of_move hm)
    have hact : s.act (.worker .proceed) = some { s with station } := by rw [act, hm]; rfl
    have hn' : Station.weight station.phase = n := by omega
    obtain ⟨t, ht⟩ := ih (s := { s with station }) hmarked hn'
    refine ⟨t, ?_⟩
    -- the first access is made, and the others are those of the run that is left
    rw [List.replicate_succ, run_cons, hact]
    exact ht

variable {threadName : String} {capacity : Nat}

/-- A caller has been told that the worker is done only after it has set the flag. -/
theorem Reachable.marked_of_told (h : Reachable threadName capacity s) {call : Caller}
    (hmem : call ∈ s.callers) (htold : call.isTold = true) :
    s.station.phase.isMarked = true := by
  rw [← h.lifecycle.flags.stopped]
  exact h.lifecycle.told call hmem htold

/-- When the worker is over the context was left as often as it had to be. -/
theorem Reachable.leaves_of_finished (h : Reachable threadName capacity s)
    (hp : s.station.phase = .finished) : s.station.leaves = s.station.granted := by
  obtain ⟨past, current, hroster⟩ := h.roster
  have hshift := hroster.onShift
  simp only [Station.OnShift, hp] at hshift
  -- a shift that is over has left what it had entered
  have hgranted := hroster.granted_eq
  rw [hshift.2] at hgranted
  exact hgranted.symm

/-- **A worker of which somebody was told that it is done is about to leave its context.** There are
at most two accesses that it has yet to make, and it can make them; whatever else happens, once they
are made the context was left as often as it had to be, and before that it lacks at most the one
time that is still to come. -/
theorem told_leaves_soon (h : Reachable threadName capacity s) {call : Caller}
    (hmem : call ∈ s.callers) (htold : call.isTold = true) :
    s.station.granted = s.station.leaves + s.station.inContext.toNat ∧
    ∃ n ≤ 2, (∃ t, s.run (List.replicate n (.worker .proceed)) = some t) ∧
      ∀ actions t, s.run actions = some t → n ≤ actions.countP Action.isWorker →
        t.station.leaves = s.station.granted := by
  have hmarked := h.marked_of_told hmem htold
  obtain ⟨past, current, hroster⟩ := h.roster
  refine ⟨hroster.granted_eq, Station.weight s.station.phase,
    (Station.weight_of_isMarked hmarked).1, exists_end hmarked, fun actions t hrun hmade => ?_⟩
  obtain ⟨hlast, hweight, hgranted⟩ := winding_of_run hmarked hrun
  -- with no access left the worker is over
  have hnone : Station.weight t.station.phase = 0 := by omega
  have hover := (Station.weight_of_isMarked hlast).2 hnone
  rw [(h.run hrun).leaves_of_finished hover, hgranted]

/-- The worker enters its context and is stopped; a caller looks at the flag as soon as it is up. -/
def hastyShutdown : List Action :=
  [.worker (.enter true), .worker .proceed, .arrive (.stop (.raising true)), .caller 0, .caller 0,
    .worker .receiveStop, .worker .proceed, .worker .proceed, .worker .proceed, .worker .proceed,
    .worker .proceed, .caller 0]

/-- After a hasty shutdown the worker is in its context; two accesses later it is not. -/
theorem hastyShutdown_leaves :
    ∃ s, (System.new "courier" 1).run hastyShutdown = some s ∧
      s.callers[0]? = some (.stop (.returned (some true))) ∧ s.station.granted = 1 ∧
      ∃ n ≤ 2, ∀ actions t, s.run actions = some t → n ≤ actions.countP Action.isWorker →
        t.station.leaves = 1 := by
  -- the caller has been told, with the context still entered
  have hrun : ((System.new "courier" 1).run hastyShutdown).any (fun s =>
      s.callers[0]? == some (.stop (.returned (some true))) &&
      s.station.granted == 1) = true := by decide +kernel
  obtain ⟨s, hs, hall⟩ := exists_of_any hrun
  simp only [Bool.and_eq_true, beq_iff_eq] at hall
  obtain ⟨hcaller, hgranted⟩ := hall
  obtain ⟨-, n, hn, -, hleaves⟩ :=
    told_leaves_soon ⟨hastyShutdown, hs⟩ (List.mem_of_getElem? hcaller) rfl
  rw [hgranted] at hleaves
  exact ⟨s, hs, hcaller, hgranted, n, hn, hleaves⟩

/-- A caller is told that the worker is done while the context that was entered has not been
left. -/
theorem hastyShutdown_in_context :
    ∃ s, (System.new "courier" 1).run hastyShutdown = some s ∧
      s.callers[0]? = some (.stop (.returned (some true))) ∧ s.station.granted = 1 ∧
      s.station.leaves = 0 := by
  have hrun : ((System.new "courier" 1).run hastyShutdown).any (fun s =>
      s.callers[0]? == some (.stop (.returned (some true))) &&
      s.station.granted == 1 && s.station.leaves == 0) = true := by decide +kernel
  obtain ⟨s, hs, hall⟩ := exists_of_any hrun
  simp only [Bool.and_eq_true, beq_iff_eq] at hall
  exact ⟨s, hs, hall.1.1, hall.1.2, hall.2⟩

end System

/-! ### The message -/

/-- There is one way to have been told. -/
theorem Caller.eq_of_isTold {call : Caller} (h : call.isTold = true) :
    call = .stop (.returned (some true)) := by
  unfold isTold at h
  split at h
  · rfl
  · cases h

theorem StopCall.Access.isTold_eq {s t : Station} {c d : StopCall} (h : Access s c t d) :
    (Caller.stop c).isTold = false := by
  cases h <;> rfl

/-- A message that a call takes makes it a call that was told. -/
theorem StopCall.Access.heard {s t : Station} {c d : StopCall} (h : Access s c t d) :
    s.donesWaiting ≤ t.donesWaiting + (Caller.stop d).isTold.toNat := by
  cases h with
  | receive hm =>
    -- one message less, and one call more that was told
    have hfirst := Channel.toList_of_tryReceive hm
    rw [Station.donesWaiting, hfirst, List.length_cons]
    exact Nat.le_refl _
  | send =>
    unfold Station.sendStop
    split <;> exact Nat.le_add_right _ _
  | _ => exact Nat.le_add_right _ _

namespace System

variable {s t : System}

/-- For each message that the worker is done and that was received, some caller has been told. -/
def Heard (s : System) : Prop :=
  s.station.donesSent ≤ s.station.donesWaiting + s.callers.countP Caller.isTold

/-- Where no message is sent or received, and no call that was told goes, it stays so. -/
theorem Heard.congr (hI : s.Heard) (hsent : t.station.donesSent = s.station.donesSent)
    (hwaiting : t.station.donesWaiting = s.station.donesWaiting)
    (htold : s.callers.countP Caller.isTold ≤ t.callers.countP Caller.isTold) : t.Heard := by
  unfold Heard at *
  omega

/-- **Every access keeps it that somebody was told for each message that was received.** -/
theorem Heard.access {action : Action} (hI : s.Heard) (h : Access action s t) : t.Heard := by
  cases h with
  | @worker _ _ station h =>
    -- a message that is sent goes into the channel, where it waits
    have hadd := h.dones_add
    unfold Heard at *
    change station.donesSent ≤ station.donesWaiting + s.callers.countP Caller.isTold
    omega
  | arrive _ =>
    refine hI.congr rfl rfl ?_
    rw [List.countP_append]
    exact Nat.le_add_right _ _
  | submission hi h =>
    -- a submission has nothing to do with the message
    obtain ⟨-, hsent⟩ := Station.sent_of_submission h
    obtain ⟨-, -, -, -, -, -, hdone⟩ := h.frame
    refine hI.congr hsent ?_ (Nat.le.intro (countP_set_add Caller.isTold hi).symm)
    rw [Station.donesWaiting, hdone, Station.donesWaiting]
  | @stop _ i c d station hi h =>
    -- what the call takes out of the channel, it is told
    obtain ⟨hsent, -⟩ := h.dones_received
    have hheard := h.heard
    have hset := countP_set_add (b := Caller.stop d) Caller.isTold hi
    rw [h.isTold_eq, Bool.toNat_false] at hset
    unfold Heard at *
    change station.donesSent ≤
      station.donesWaiting + (s.callers.set i (.stop d)).countP Caller.isTold
    omega
  | stats hi _ | timeOut hi =>
    exact hI.congr rfl rfl (Nat.le.intro (countP_set_add Caller.isTold hi).symm)

variable {threadName : String} {capacity : Nat}

theorem Reachable.heard (h : Reachable threadName capacity s) : s.Heard :=
  h.induction (motive := Heard) (Nat.zero_le _) fun _ _ _ hI hact => hI.access (access_of_act hact)

/-- Is the call with this number waiting for the message that the worker is done? -/
def Waits (s : System) (i : Nat) : Prop := s.callers[i]? = some (.stop .blocked)

/-- Has the call with this number been told that the worker is done? -/
def Told (s : System) (i : Nat) : Prop := s.callers[i]? = some (.stop (.returned (some true)))

/-- The message has been sent, and received: the worker is past sending it, and none waits. -/
structure Silent (s : System) : Prop where
  signalled : s.station.phase.isSignalled = true
  nothing : s.station.doneMessage.waiting.toList = []

/-- Where the message has been sent and received, it stays so. -/
theorem Silent.access {action : Action} (hI : s.Silent) (h : Access action s t) : t.Silent := by
  obtain ⟨hsignalled, hnothing⟩ := hI
  cases h with
  | worker h =>
    cases h with
    -- the worker has two phases left, and sends in neither of them
    | leave _ _ | leaveNothing _ _ => exact ⟨rfl, hnothing⟩
    | _ => simp_all [Phase.isSignalled]
  | submission _ h =>
    obtain ⟨-, -, -, -, hphase, -, hdone⟩ := h.frame
    exact ⟨hphase ▸ hsignalled, hdone ▸ hnothing⟩
  | @stop _ _ _ _ station _ h =>
    obtain ⟨-, -, -, -, -, -, -, hphase⟩ := h.frame
    obtain ⟨-, hwaiting⟩ := h.dones_received
    -- there is no message to take, and none is put there
    refine ⟨hphase ▸ hsignalled, List.eq_nil_of_length_eq_zero ?_⟩
    rw [Station.donesWaiting, Station.donesWaiting, hnothing] at hwaiting
    exact Nat.le_zero.mp hwaiting
  | arrive _ | stats _ _ | timeOut _ => exact ⟨hsignalled, hnothing⟩

/-- A call that waits for a message that does not come goes on waiting until its time is up. -/
theorem Waits.access {action : Action} {i : Nat} (hsilent : s.Silent) (hI : s.Waits i)
    (hne : ∀ j, action = .timeOut j → j ≠ i) (h : Access action s t) : t.Waits i := by
  unfold Waits at *
  have hlt : i < s.callers.length := (List.getElem?_eq_some_iff.mp hI).1
  cases h with
  | worker _ => exact hI
  | arrive _ => rw [List.getElem?_append_left hlt, hI]
  -- what moves is another call, and this one keeps its place
  | submission hj _ | stats hj _ => exact getElem?_set_of_ne hI hj Caller.noConfusion
  | @timeOut _ j _ => rw [List.getElem?_set_ne (hne j rfl), hI]
  | stop hj h =>
    refine getElem?_set_of_ne hI hj ?_
    -- a call that takes the message is not this one, since there would have to be a message
    rintro heq
    cases heq
    cases h with
    | receive hm =>
      rw [Channel.tryReceive_eq_none_iff.mpr hsilent.nothing] at hm
      cases hm

/-- **Nothing but the end of its own time releases a caller that was left behind.** -/
theorem waits_of_run {i : Nat} (hsilent : s.Silent) (hI : s.Waits i) {actions : List Action}
    (hne : .timeOut i ∉ actions) (hrun : s.run actions = some t) : t.Waits i := by
  induction actions generalizing s with
  | nil =>
    rw [run_nil] at hrun
    cases hrun
    exact hI
  | cons action rest ih =>
    rw [run_cons, Option.bind_eq_some_iff] at hrun
    obtain ⟨u, hu, hrest⟩ := hrun
    have haccess := access_of_act hu
    rw [List.mem_cons, not_or] at hne
    -- the first access neither sends a message nor ends the time of this call
    refine ih (hsilent.access haccess) (hI.access hsilent ?_ haccess) hne.2 hrest
    rintro j rfl rfl
    exact hne.1 rfl

/-- A call to stop the worker that has a next access can make it. -/
theorem act_stop {i : Nat} {c d : StopCall} {station : Station}
    (hi : s.callers[i]? = some (.stop c)) (hm : c.move s.station = some (d, station)) :
    ∃ t, s.act (.caller i) = some t ∧ t.callers[i]? = some (.stop d) := by
  have hlt : i < s.callers.length := (List.getElem?_eq_some_iff.mp hi).1
  refine ⟨{ s with station, callers := s.callers.set i (.stop d) }, ?_,
    List.getElem?_set_self hlt⟩
  -- it is the call itself that moves
  simp only [act, Option.bind_eq_bind, hi, Option.bind_some, Caller.move, hm, Option.map_some]
  rfl

/-- A caller that waits returns after its time is up, with what the flag says. -/
theorem Waits.times_out {i : Nat} (h : s.Waits i) (hstopped : s.station.stopped = true) :
    ∃ t, s.run [.timeOut i, .caller i] = some t ∧ t.Told i := by
  have hlt : i < s.callers.length := (List.getElem?_eq_some_iff.mp h).1
  -- first its time is up, then it looks at the flag again
  have hact : s.act (.timeOut i) =
      some { s with callers := s.callers.set i (.stop .lookingAgain) } := by
    rw [Waits] at h
    simp only [act, Option.bind_eq_bind, h, Option.bind_some]
    rfl
  have hm : StopCall.lookingAgain.move s.station = some (.returned (some true), s.station) := by
    rw [StopCall.move, hstopped]
  obtain ⟨t, ht, htold⟩ :=
    act_stop (s := { s with callers := s.callers.set i (.stop .lookingAgain) })
      (List.getElem?_set_self hlt) hm
  refine ⟨t, ?_, htold⟩
  rw [run_cons, hact, Option.bind_some, run_cons, ht]
  rfl

/-- Where the message was sent and does not wait, somebody has been told. -/
theorem Heard.exists_told (hI : s.Heard) (hsent : 0 < s.station.donesSent)
    (hnothing : s.station.doneMessage.waiting.toList = []) : ∃ j, s.Told j := by
  have hwaiting : s.station.donesWaiting = 0 := by
    rw [Station.donesWaiting, hnothing]
    rfl
  -- what was sent and does not wait was received, and whoever received it was told
  have hpos : 0 < s.callers.countP Caller.isTold := by
    unfold Heard at hI
    omega
  obtain ⟨call, hmem, htold⟩ := List.countP_pos_iff.mp hpos
  obtain ⟨j, hj⟩ := List.mem_iff_getElem?.mp hmem
  exact ⟨j, hj.trans (congrArg some (Caller.eq_of_isTold htold))⟩

/-- **Callers of a worker that is done.** Once the worker has sent its message, a caller that has
yet to look is told at once. One that waits is told when its time is up, and before that if the
message is still there to be received; if it is not, another caller has been told, and this one
waits until its time is up, whatever else happens. -/
theorem released_when_signalled (h : Reachable threadName capacity s)
    (hp : s.station.phase.isSignalled = true) (i : Nat) :
    (s.callers[i]? = some (.stop .looking) → ∃ t, s.act (.caller i) = some t ∧ t.Told i) ∧
    (s.Waits i → (∃ t, s.run [.timeOut i, .caller i] = some t ∧ t.Told i) ∧
      ((∃ t, s.act (.caller i) = some t ∧ t.Told i) ∨
        (∃ j, j ≠ i ∧ s.Told j) ∧
          ∀ actions t, .timeOut i ∉ actions → s.run actions = some t → t.Waits i)) := by
  obtain ⟨hmarked, hpos⟩ : s.station.phase.isMarked = true ∧ 0 < s.station.donesSent := by
    rw [h.messages.dones, hp]
    cases hphase : s.station.phase with
    | leaving | finished => decide
    | _ => rw [hphase] at hp; cases hp
  have hstopped : s.station.stopped = true := h.lifecycle.flags.stopped.trans hmarked
  refine ⟨fun hi => ?_, fun hwaits => ⟨hwaits.times_out hstopped, ?_⟩⟩
  · -- the flag is up, and that is where it looks
    have hm : StopCall.looking.move s.station = some (.returned (some true), s.station) := by
      rw [StopCall.move, hstopped]
      rfl
    exact act_stop hi hm
  · cases hr : s.station.doneMessage.tryReceive with
    | some received =>
      left
      -- the message is there, and it may take it
      have hm : StopCall.blocked.move s.station = some (.returned (some true),
          { s.station with doneMessage := received.2 }) := by
        rw [StopCall.move, Station.receiveDone, hr]
        rfl
      exact act_stop hwaits hm
    | none =>
      right
      have hsilent : s.Silent := ⟨hp, Channel.tryReceive_eq_none_iff.mp hr⟩
      obtain ⟨j, hj⟩ := h.heard.exists_told hpos hsilent.nothing
      refine ⟨⟨j, ?_, hj⟩, fun _ _ hne hrun => waits_of_run hsilent hwaits hne hrun⟩
      -- this one has not been told
      rintro rfl
      cases hwaits.symm.trans hj

/-- Two callers wait when the worker becomes done, and the first one takes its message. -/
def twoWaiters : List Action :=
  [.arrive (.stop (.raising true)), .arrive (.stop (.raising true)), .caller 0, .caller 0,
    .caller 0, .caller 1, .caller 1, .worker (.enter false), .worker .proceed, .worker .proceed,
    .worker .proceed, .worker .proceed, .worker .proceed, .worker .proceed, .worker .proceed,
    .worker .proceed, .caller 0]

/-- Of two waiters the second one gets its answer when its time is up, and not before. -/
theorem twoWaiters_released :
    ∃ s, (System.new "courier" 1).run twoWaiters = some s ∧ s.station.phase = .finished ∧
      s.Waits 1 ∧ (∃ t, s.run [.timeOut 1, .caller 1] = some t ∧ t.Told 1) ∧
      ∀ actions t, .timeOut 1 ∉ actions → s.run actions = some t → t.Waits 1 := by
  have hrun : ((System.new "courier" 1).run twoWaiters).any (fun s =>
      s.station.phase == .finished && s.callers[1]? == some (.stop .blocked) &&
      (s.act (.caller 1)).isNone) = true := by decide +kernel
  obtain ⟨s, hs, hall⟩ := exists_of_any hrun
  simp only [Bool.and_eq_true, beq_iff_eq, Option.isNone_iff_eq_none] at hall
  obtain ⟨⟨hfinished, hwaits⟩, hnone⟩ := hall
  have hp : s.station.phase.isSignalled = true := by rw [hfinished]; rfl
  obtain ⟨-, hreleased⟩ := released_when_signalled ⟨twoWaiters, hs⟩ hp 1
  obtain ⟨htimesOut, ⟨t, ht, -⟩ | ⟨-, hbehind⟩⟩ := hreleased hwaits
  · -- the second one cannot take a message, so it is behind
    rw [hnone] at ht
    cases ht
  · exact ⟨s, hs, hfinished, hwaits, htimesOut, hbehind⟩

/-- The worker is over, and one of two callers waits for a message that does not come. -/
theorem twoWaiters_stranded :
    ∃ s, (System.new "courier" 1).run twoWaiters = some s ∧ s.station.phase = .finished ∧
      s.station.stopped = true ∧ s.Waits 1 ∧ s.station.donesWaiting = 0 := by
  have hrun : ((System.new "courier" 1).run twoWaiters).any (fun s =>
      s.station.phase == .finished && s.station.stopped &&
      s.callers[1]? == some (.stop .blocked) && s.station.donesWaiting == 0) = true := by
    decide +kernel
  obtain ⟨s, hs, hall⟩ := exists_of_any hrun
  simp only [Bool.and_eq_true, beq_iff_eq] at hall
  obtain ⟨⟨⟨hfinished, hstopped⟩, hwaits⟩, hempty⟩ := hall
  exact ⟨s, hs, hfinished, hstopped, hwaits, hempty⟩

end System

end MetricCourier
