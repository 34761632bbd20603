import MetricCourier.Delivery.Progress
import MetricCourier.Proofs.Delivery.Lifecycle

/-!
# A worker that is asked to stop comes to its end

Once the stop flag is up the worker has work for so many calls of the sink as there are lines that
are `owed`: those that wait, and the one that it has taken and whose call has not ended. It makes
exactly these calls, however they end, and is then over.

* The request is not lost. It is carried by the flag and by a message, and a worker that waits has
  not taken the message; so it waits in vain only until whoever raised the flag has sent it
  (`Messages.stop_arrives`). Until then it may be without an access to make, although nobody submits
  anything (`raisedStop_starves`).
* No line is added. A producer that looks at the flags from now on is turned away, so with nobody
  past that look what was accepted stays as it is (`Shut`, `shut_of_access`).
* Each access of the worker brings the end closer (`winds_of_worker`), nobody else puts it off
  (`winds_of_outside`), and each call of the sink that ends is one less that is owed (`Winds.owed`).
* The worker never runs out of accesses before it is over (`Reachable.has_next`): while nobody is in
  the middle of a submission the lock is free.

What one access does is put together in `winds_of_act`, and what a sequence of them does in
`winds_of_run`.
-/

namespace MetricCourier

/-- Does the worker wait, or is it busy with a line that it took from the open queue? -/
def Phase.isServing : Phase → Bool
  | waiting => true
  | taken loop _ | counted loop _ | sending loop _ | failing loop _ _ | reporting loop _ _ =>
    loop = .serving
  | _ => false

/-- Is the access one of the worker? -/
def Action.isWorker : Action → Bool
  | worker _ => true
  | _ => false

/-- How the calls of the sink end that end with these accesses, in order. -/
def completions (actions : List Action) : List (Call Reply) :=
  actions.filterMap Action.completion?

theorem completions_append (first second : List Action) :
    completions (first ++ second) = completions first ++ completions second :=
  List.filterMap_append

theorem completions_singleton (action : Action) :
    completions [action] = action.completion?.toList := by
  rw [completions, List.filterMap_cons]
  cases action.completion? <;> rfl

namespace Station

/-- The line that the worker has taken and for which the sink's call has not ended, if there is
one. -/
def unfinished (s : Station) : List Line := s.phase.held.toList ++ s.phase.inFlight.toList

/-- How many calls of the sink have yet to end for the lines that were accepted. -/
def owed (s : Station) : Nat := s.waiting.length + s.unfinished.length

variable {s t : Station} {m : Move}

theorem unfinished_le (s : Station) : s.unfinished.length ≤ 1 := by
  unfold unfinished
  cases s.phase <;> simp [Phase.held, Phase.inFlight]

/-- What was accepted has ended or is owed. -/
theorem Ledger.owed (hI : s.Ledger) : s.accepted.length = s.ended.length + s.owed := by
  have horder := congrArg List.length hI.order
  have houtcome := congrArg List.length hI.outcome
  rw [List.length_append, List.length_append] at horder
  rw [List.length_append, List.length_map] at houtcome
  rw [Station.owed, unfinished, List.length_append]
  -- accepted is handed, held and waiting, and handed is ended and in flight
  omega

theorem rank_eq (s : Station) : s.rank = 16 * s.waiting.length + weight s.phase := by
  rw [rank, waiting, Queue.size_eq_length]

/-- A worker that was asked to stop takes no line from the open queue any more, once it is through
with the one that it may have. -/
theorem isServing_of_access (hs : s.stopping = true) (hI : s.phase.isServing = false)
    (h : Access m s t) : t.phase.isServing = false := by
  cases h with
  -- the two ways into the open queue: to wait the flag would have to be down, to take a line the
  -- worker would have to wait
  | findNoStop _ hno => rw [hs] at hno; cases hno
  | receiveLine hp _ => rw [hp] at hI; cases hI
  | count hp | hand hp | endFailed _ hp | countFailure hp => rw [hp] at hI; exact hI
  | @endWritten _ loop _ _ _ | @report _ loop _ _ _ => cases loop <;> rfl
  | _ => rfl

/-- A call of the sink may end in any way. -/
theorem exists_finish {loop : Loop} {line : Line} (hp : s.phase = .sending loop line)
    (call : Call Reply) : ∃ t, s.move (.finish call) = some t := by
  simp only [move, finish, hp]
  cases call with
  | unwound => exact ⟨_, rfl⟩
  | returned reply => cases reply <;> exact ⟨_, rfl⟩

theorem exists_receiveStop (hp : s.phase = .waiting)
    (h : s.stopMessage.waiting.toList ≠ []) : ∃ t, s.move .receiveStop = some t := by
  cases hm : s.stopMessage.tryReceive with
  | none => exact absurd (Channel.tryReceive_eq_none_iff.mp hm) h
  | some received =>
    refine ⟨{ s with stopMessage := received.2, phase := .closing }, ?_⟩
    rw [move, receiveStop, if_pos hp, takeStop, hm]
    rfl

/-- A worker that waits can receive what is there. -/
theorem exists_receive (hp : s.phase = .waiting)
    (h : s.waiting ≠ [] ∨ s.stopMessage.waiting.toList ≠ []) :
    ∃ m t, s.move m = some t ∧ m.completion? = none := by
  obtain hline | hmessage := h
  · -- there is a line, so taking one cannot fail
    cases hl : s.takeLine .serving with
    | none => exact absurd (Channel.tryReceive_eq_none_iff.mp (takeLine_eq_none_iff.mp hl)) hline
    | some t =>
      refine ⟨.receiveLine, t, ?_, rfl⟩
      rw [move, receiveLine, if_pos hp, hl]
  · obtain ⟨t, ht⟩ := exists_receiveStop hp hmessage
    exact ⟨.receiveStop, t, ht, rfl⟩

/-- A worker that is not over has an access to make, where it need not wait for the lock, for a line
or for a message. -/
theorem exists_move (hp : s.phase ≠ .finished)
    (hsending : ∀ loop line, s.phase ≠ .sending loop line)
    (hlock : s.phase = .closing → s.readers = 0 ∧ s.writer = false)
    (hwait : s.phase = .waiting → s.waiting ≠ [] ∨ s.stopMessage.waiting.toList ≠ []) :
    ∃ m t, s.move m = some t ∧ m.completion? = none := by
  have hproceed : s.proceed.isSome = true →
      ∃ m t, s.move m = some t ∧ m.completion? = none := by
    intro hsome
    obtain ⟨t, ht⟩ := Option.isSome_iff_exists.mp hsome
    exact ⟨.proceed, t, ht, rfl⟩
  cases h : s.phase with
  | finished => exact absurd h hp
  | sending loop line => exact absurd h (hsending loop line)
  | waiting => exact exists_receive h (hwait h)
  | starting =>
    refine ⟨.enter true, { s with inContext := true, phase := .checking }.note (.entered true), ?_,
      rfl⟩
    rw [move, enter, if_pos h]
  | closing =>
    -- the write side of the lock is free to be taken
    refine hproceed ?_
    simp only [proceed, h]
    rw [if_pos (hlock h)]
    rfl
  | draining =>
    refine hproceed ?_
    -- with a line or without, there is an access
    simp only [proceed, h]
    cases s.takeLine .draining <;> rfl
  | signalling =>
    refine hproceed ?_
    simp only [proceed, h]
    -- and so is there with room for the message or without
    cases s.doneMessage.trySend () <;> rfl
  | _ => exact hproceed (by simp only [proceed, h]; rfl)

end Station

namespace System

variable {s t u : System}

/-! ### What a request to stop does to the system -/

/-- The stop flag is up, and nobody is past it with a line. -/
structure Shut (s : System) : Prop where
  stopping : s.station.stopping = true
  quiet : ∀ call ∈ s.callers, call.isAdmitting = false

/-- Nobody is past the stop flag while nobody is in the middle of a submission. -/
theorem Shut.of_idle (hstop : s.station.stopping = true)
    (hidle : ∀ call ∈ s.callers, call.holdsLock = false) : s.Shut where
  stopping := hstop
  quiet call hmem := Caller.isAdmitting_of_holdsLock (hidle call hmem)

/-- A submission that looks at the flags is turned away from now on. -/
theorem shut_of_access {action : Action} (hI : s.Shut) (h : Access action s t) : t.Shut := by
  refine ⟨(flags_of_access h).1 hI.stopping, ?_⟩
  cases h with
  | worker _ => exact hI.quiet
  | arrive hnew =>
    intro call hcall
    -- the new call has not got past the flags, and all others were quiet
    obtain hold | hlast := List.mem_append.mp hcall
    · exact hI.quiet call hold
    · rw [List.mem_singleton.mp hlast]
      exact (Caller.idle_of_isNew hnew).1
  | submission hi h =>
    have hquiet := hI.quiet _ (List.mem_of_getElem? hi)
    refine forall_mem_set hI.quiet ?_
    cases h with
    -- the flag is up for all who look from now on
    | pass hr => simp [Station.refuses, hI.stopping] at hr
    | post _ => cases hquiet
    | _ => rfl
  | stop _ _ | stats _ _ | timeOut _ => exact forall_mem_set hI.quiet rfl

/-- Nobody but the worker does anything to the lines of a system that is shut. -/
theorem Shut.posts {action : Action} (hI : s.Shut) (h : Access action s t)
    (hne : action.isWorker = false) : Station.Posts [] s.station t.station := by
  have hsame : Station.Posts [] s.station s.station :=
    ⟨(List.append_nil _).symm, (List.append_nil _).symm, rfl, rfl, rfl, rfl, rfl, rfl, rfl⟩
  cases h with
  | worker _ => cases hne
  | submission hi h =>
    obtain ⟨line, rfl, -, -⟩ | ⟨-, -, hposts⟩ := h.posts
    · -- a submission about to post would be past the flags
      cases hI.quiet _ (List.mem_of_getElem? hi)
    · exact hposts
  | stop _ h => exact h.posts
  | arrive _ | stats _ _ | timeOut _ => exact hsame

/-- What accesses do to a system that is shut. -/
structure Winds (s t : System) (actions : List Action) : Prop where
  /-- No line is accepted. -/
  accepted : t.station.accepted = s.station.accepted
  /-- The calls of the sink end that these accesses say. -/
  ended : t.station.ended.map Prod.snd = s.station.ended.map Prod.snd ++ completions actions
  /-- Each access of the worker costs it something of its rank. -/
  accesses : actions.countP Action.isWorker + t.station.rank ≤ s.station.rank
  /-- The worker does not go back to the open queue. -/
  serving : s.station.phase.isServing = false → t.station.phase.isServing = false

theorem Winds.refl (s : System) : Winds s s [] where
  accepted := rfl
  ended := (List.append_nil _).symm
  accesses := Nat.le_of_eq (Nat.zero_add _)
  serving := id

theorem Winds.trans {first second : List Action} (h : Winds s t first) (h' : Winds t u second) :
    Winds s u (first ++ second) where
  accepted := h'.accepted.trans h.accepted
  ended := by
    rw [h'.ended, h.ended, completions_append, List.append_assoc]
  accesses := by
    have hfirst := h.accesses
    have hsecond := h'.accesses
    rw [List.countP_append]
    omega
  serving := h'.serving ∘ h.serving

/-- The worker brings a system that is shut closer to its end. -/
theorem winds_of_worker (hI : s.Shut) {m : Station.Move} (h : s.act (.worker m) = some t) :
    Winds s t [.worker m] := by
  have haccess := access_of_act h
  simp only [act, Option.map_eq_some_iff] at h
  obtain ⟨station, hm, rfl⟩ := h
  have hworker := Station.access_of_move hm
  refine ⟨hworker.accepted_eq, ?_, ?_,
    fun hserving => Station.isServing_of_access hI.stopping hserving hworker⟩
  · -- the journal has the end of a call exactly where the access is one
    cases hends : m.completion? with
    | some call =>
      have hcompletes : (Action.worker m).completion? = some call := hends
      obtain ⟨loop, line, -, hended⟩ := ended_of_finish hcompletes haccess
      rw [hended, List.map_append, completions_singleton, hcompletes]
      rfl
    | none =>
      have hcompletes : (Action.worker m).completion? = none := hends
      rw [ended_of_access hcompletes haccess, completions_singleton, hcompletes]
      exact (List.append_nil _).symm
  · -- what the access costs is taken off the rank
    have hlt := Station.rank_of_move hm
    change 1 + station.rank ≤ s.station.rank
    omega

/-- Nobody else holds a system up that is shut. -/
theorem winds_of_outside (hI : s.Shut) {action : Action} (hne : action.isWorker = false)
    (h : s.act action = some t) : Winds s t [action] := by
  have hposts := hI.posts (access_of_act h) hne
  -- calls of the sink end with accesses of the worker
  have hnone : completions [action] = [] := by
    cases action with
    | worker m => cases hne
    | _ => rfl
  refine ⟨hposts.accepted.trans (List.append_nil _), ?_, ?_, ?_⟩
  · rw [hposts.ended, hnone, List.append_nil]
  · -- the rank is made of the lines that wait and of the phase, which both stay
    rw [List.countP_singleton, hne, Station.rank_eq, Station.rank_eq, hposts.waiting,
      hposts.phase, List.append_nil]
    exact Nat.le_of_eq (Nat.zero_add _)
  · rw [hposts.phase]
    exact id

theorem winds_of_act (hI : s.Shut) {action : Action} (h : s.act action = some t) :
    Winds s t [action] := by
  cases action with
  | worker m => exact winds_of_worker hI h
  | _ => exact winds_of_outside hI rfl h

/-- **A system that is shut winds down with every sequence of accesses.** -/
theorem winds_of_run (hI : s.Shut) {actions : List Action} (hrun : s.run actions = some t) :
    Winds s t actions := by
  induction actions generalizing s with
  | nil =>
    rw [run_nil] at hrun
    cases hrun
    exact Winds.refl _
  | cons action rest ih =>
    rw [run_cons, Option.bind_eq_some_iff] at hrun
    obtain ⟨u, hu, hrest⟩ := hrun
    -- the first access leaves the system shut, so the rest winds it down as well
    exact (winds_of_act hI hu).trans (ih (shut_of_access hI (access_of_act hu)) hrest)

/-! ### What is left to do -/

/-- The calls of the sink that end are no longer owed. -/
theorem Winds.owed {actions : List Action} (h : Winds s t actions) (hs : s.station.Ledger)
    (ht : t.station.Ledger) :
    (completions actions).length + t.station.owed = s.station.owed := by
  have hended := congrArg List.length h.ended
  rw [List.length_map, List.length_append, List.length_map] at hended
  -- as much was accepted before as after, and each of it has ended or is owed
  have hbefore := hs.owed
  have hafter := ht.owed
  rw [h.accepted] at hafter
  omega

/-- The worker is restarted once for each call of the sink that unwinds. -/
theorem Winds.restarts {actions : List Action} (h : Winds s t actions) (hs : s.station.Ledger)
    (ht : t.station.Ledger) :
    t.station.restarts + t.station.phase.isUnwinding.toNat =
      s.station.restarts + s.station.phase.isUnwinding.toNat +
        (completions actions).countP Call.isUnwound := by
  have hcount : ∀ ended : List (Line × Call Reply),
      ended.countP (·.2.isUnwound) = (ended.map Prod.snd).countP Call.isUnwound := by
    intro ended
    rw [List.countP_map]
    rfl
  -- both ledgers count the calls that unwound, and the new ones stand behind the old
  rw [ht.restarts, hs.restarts, hcount, hcount, h.ended, List.countP_append]

theorem Lifecycle.owed_of_finished (hI : s.Lifecycle) (hp : s.station.phase = .finished) :
    s.station.owed = 0 := by
  have hempty : s.station.waiting = [] := hI.flags.emptied (by rw [hp]; rfl)
  rw [Station.owed, Station.unfinished, hempty, hp]
  rfl

/-- The call with this number was the first to raise the stop flag, and is about to send the stop
message. -/
def Sends (s : System) (number : Nat) : Prop :=
  ∃ waits, s.callers[number]? = some (.stop (.sending waits))

/-- **A request to stop arrives.** Where the flag is up and a worker waits with nothing to receive,
whoever raised the flag is about to send the message. -/
theorem Messages.stop_arrives (hI : s.Messages) (hstop : s.station.stopping = true)
    (hp : s.station.phase = .waiting) (hmessage : s.station.stopMessage.waiting.toList = []) :
    ∃ i, s.Sends i := by
  have hwaiting := hI.stops_wait hp
  have hstops := hI.stops
  rw [hstop, Bool.toNat_true, ← hwaiting, Station.stopsWaiting, hmessage, List.length_nil,
    Nat.zero_add] at hstops
  -- a flag that is up without a message sent leaves one call that is about to send it
  have hpos : 0 < s.callers.countP Caller.isSending := by omega
  obtain ⟨call, hmem, hsending⟩ := List.countP_pos_iff.mp hpos
  obtain ⟨i, hi⟩ := List.mem_iff_getElem?.mp hmem
  cases call with
  | stop c =>
    cases c with
    | sending waits => exact ⟨i, waits, hi⟩
    | _ => cases hsending
  | _ => cases hsending

/-- A call that is about to send the stop message does so. -/
theorem Messages.act_sending (hI : s.Messages) {i : Nat} (h : s.Sends i) :
    ∃ waits t, s.act (.caller i) = some t ∧
      t.callers = s.callers.set i (.stop (.asked waits)) ∧
      t.station.phase = s.station.phase ∧ t.station.stopMessage.waiting.toList ≠ [] := by
  obtain ⟨waits, hi⟩ := h
  obtain ⟨-, stopMessage, hm⟩ := hI.trySend_stop (List.mem_of_getElem? hi) rfl
  refine ⟨waits, {
    station := s.station.sendStop
    callers := s.callers.set i (.stop (.asked waits))
    admitted := s.admitted }, ?_, rfl, ?_, ?_⟩
  · simp only [act, hi, Option.bind_eq_bind, Option.bind_some]
    rfl
  · rw [Station.sendStop_eq hm]
    rfl
  · rw [Station.sendStop_eq hm]
    change stopMessage.waiting.toList ≠ []
    rw [Channel.toList_of_trySend hm]
    exact List.append_ne_nil_of_right_ne_nil _ (List.cons_ne_nil _ _)

variable {threadName : String} {capacity : Nat}

/-- The worker waits, and there is neither a line nor a stop message to receive. -/
def Starved (s : System) : Prop :=
  s.station.phase = .waiting ∧ s.station.waiting = [] ∧
    s.station.stopMessage.waiting.toList = []

/-- **A worker that was asked to stop has an access to make until it is over**, while nobody is in
the middle of a submission and unless it is starved; if it is in a call of the sink, any end of that
call is one. -/
theorem Reachable.has_next (h : Reachable threadName capacity s)
    (hidle : ∀ call ∈ s.callers, call.holdsLock = false) (hp : s.station.phase ≠ .finished)
    (hfed : ¬ s.Starved) :
    (∃ m t, s.act (.worker m) = some t ∧ m.completion? = none) ∨
      (s.station.phase.inFlight.isSome ∧
        ∀ call, ∃ t, s.act (.worker (.finish call)) = some t) := by
  have hact : ∀ m t, s.station.move m = some t →
      s.act (.worker m) = some { s with station := t } := by
    intro m t hm
    simp only [System.act, hm, Option.map_some]
  by_cases hsending : ∃ loop line, s.station.phase = .sending loop line
  · obtain ⟨loop, line, hsending⟩ := hsending
    refine Or.inr ⟨by rw [hsending]; rfl, fun call => ?_⟩
    obtain ⟨t, hm⟩ := Station.exists_finish hsending call
    exact ⟨_, hact _ t hm⟩
  · refine Or.inl ?_
    -- nobody reads under the lock, and the worker would be past it if it held the write side
    have hlock : s.station.phase = .closing → s.station.readers = 0 ∧ s.station.writer = false := by
      intro hclosing
      refine ⟨?_, by rw [h.lifecycle.flags.writer, hclosing]; rfl⟩
      rw [h.books.readers, List.countP_eq_zero]
      intro call hmem
      rw [hidle call hmem]
      exact Bool.false_ne_true
    have hwait : s.station.phase = .waiting →
        s.station.waiting ≠ [] ∨ s.station.stopMessage.waiting.toList ≠ [] := by
      intro hwaiting
      by_contra hnothing
      rw [not_or, not_not, not_not] at hnothing
      exact hfed ⟨hwaiting, hnothing⟩
    obtain ⟨m, t, hm, hne⟩ := Station.exists_move hp
      (fun loop line hs => hsending ⟨loop, line, hs⟩) hlock hwait
    exact ⟨m, _, hact m t hm, hne⟩

/-- A starved worker has no access to make: it can only receive, and there is nothing to receive. -/
theorem Starved.act_worker (h : s.Starved) (m : Station.Move) : s.act (.worker m) = none := by
  obtain ⟨hp, hlines, hmessage⟩ := h
  have hmove : s.station.move m = none := by
    cases m with
    | enter answer => simp only [Station.move, Station.enter, hp, reduceCtorEq, if_false]
    | receiveLine =>
      have hnone : s.station.lines.tryReceive = none := Channel.tryReceive_eq_none_iff.mpr hlines
      simp only [Station.move, Station.receiveLine, hp, if_true, Station.takeLine, hnone,
        Option.map_none]
    | receiveStop =>
      have hnone : s.station.stopMessage.tryReceive = none :=
        Channel.tryReceive_eq_none_iff.mpr hmessage
      simp only [Station.move, Station.receiveStop, hp, if_true, Station.takeStop, hnone,
        Option.map_none]
    | finish call => simp only [Station.move, Station.finish, hp]
    | proceed => simp only [Station.move, Station.proceed, hp]
  simp only [System.act, hmove, Option.map_none]

/-- A starved worker of a station that is stopping gets the stop message once it is sent, and goes
on. -/
theorem Reachable.next_of_starved (h : Reachable threadName capacity s)
    (hstop : s.station.stopping = true) (hstarved : s.Starved) :
    ∃ i t u, s.Sends i ∧ s.act (.caller i) = some t ∧ t.act (.worker .receiveStop) = some u := by
  obtain ⟨hp, -, hmessage⟩ := hstarved
  obtain ⟨i, hsends⟩ := h.messages.stop_arrives hstop hp hmessage
  obtain ⟨_, t, ht, -, hphase, hthere⟩ := h.messages.act_sending hsends
  obtain ⟨station, hm⟩ := Station.exists_receiveStop (hphase.trans hp) hthere
  refine ⟨i, t, { t with station }, hsends, ht, ?_⟩
  simp only [System.act, hm, Option.map_some]

/-- While the worker of a station that is stopping is not over there is an access that brings the
end closer: one of its own, with the end of the sink's call that is asked for if it is in one, or
the sending of the stop message. -/
theorem Reachable.exists_closer (h : Reachable threadName capacity s)
    (hstop : s.station.stopping = true) (hidle : ∀ call ∈ s.callers, call.holdsLock = false)
    (hp : s.station.phase ≠ .finished) {calls : List (Call Reply)}
    (hcalls : calls.length = s.station.owed) :
    ∃ action t rest, s.act action = some t ∧ completions [action] ++ rest = calls ∧
      (∀ call ∈ t.callers, call.holdsLock = false) ∧
      t.station.rank + t.callers.countP Caller.isSending <
        s.station.rank + s.callers.countP Caller.isSending := by
  have hworker : ∀ m t, s.act (.worker m) = some t →
      t.callers = s.callers ∧ t.station.rank < s.station.rank := by
    intro m t ht
    simp only [System.act, Option.map_eq_some_iff] at ht
    obtain ⟨station, hm, rfl⟩ := ht
    exact ⟨rfl, Station.rank_of_move hm⟩
  by_cases hstarved : s.Starved
  · -- sending the message costs one call that is about to send, and no rank
    obtain ⟨i, t, _, hsends, ht, -⟩ := h.next_of_starved hstop hstarved
    obtain ⟨waits, t', ht', hcallers, -⟩ := h.messages.act_sending hsends
    rw [ht] at ht'
    cases ht'
    obtain ⟨waits', hi⟩ := hsends
    have hcount := countP_set_add (b := Caller.stop (.asked waits)) Caller.isSending hi
    rw [← hcallers, StopCall.Access.isSending_asked] at hcount
    have hrank := (winds_of_outside (Shut.of_idle hstop hidle) rfl ht).accesses
    refine ⟨.caller i, t, calls, ht, rfl, ?_, ?_⟩
    · rw [hcallers]
      exact forall_mem_set hidle rfl
    · change _ + 1 = _ + 0 at hcount
      change 0 + t.station.rank ≤ s.station.rank at hrank
      omega
  · obtain ⟨m, t, ht, hne⟩ | ⟨hflight, hfinish⟩ := h.has_next hidle hp hstarved
    · -- an access of the worker that ends no call: what is asked for stays as it is
      obtain ⟨hcallers, hrank⟩ := hworker m t ht
      refine ⟨.worker m, t, calls, ht, ?_, hcallers ▸ hidle, by rw [hcallers]; omega⟩
      rw [completions_singleton, Action.completion?, hne]
      rfl
    · -- a call of the sink is in progress, so at least one end is asked for
      cases calls with
      | nil =>
        rw [Station.owed, Station.unfinished, List.length_append, List.length_nil] at hcalls
        obtain ⟨line, hline⟩ := Option.isSome_iff_exists.mp hflight
        rw [hline, Option.toList_some, List.length_singleton] at hcalls
        omega
      | cons call rest =>
        obtain ⟨t, ht⟩ := hfinish call
        obtain ⟨hcallers, hrank⟩ := hworker _ t ht
        exact ⟨_, t, rest, ht, rfl, hcallers ▸ hidle, by rw [hcallers]; omega⟩

/-- Whatever the ends of the calls that are owed, the worker comes to its end with them. -/
theorem Reachable.exists_drain (h : Reachable threadName capacity s)
    (hstop : s.station.stopping = true) (hidle : ∀ call ∈ s.callers, call.holdsLock = false)
    {calls : List (Call Reply)} (hcalls : calls.length = s.station.owed) :
    ∃ actions t, s.run actions = some t ∧ t.station.phase = .finished ∧
      completions actions = calls := by
  -- each access takes something off the rank or off the calls that are about to send
  generalize hn : s.station.rank + s.callers.countP Caller.isSending = n
  induction n using Nat.strongRecOn generalizing s calls with
  | _ n ih =>
    by_cases hp : s.station.phase = .finished
    · -- nothing is owed, so no end of a call was asked for
      rw [h.lifecycle.owed_of_finished hp] at hcalls
      exact ⟨[], s, rfl, hp, (List.length_eq_zero_iff.mp hcalls).symm⟩
    · -- the ends that are left are as many as the calls still owed
      obtain ⟨action, t, rest, hact, hends, hidle', hlt⟩ := h.exists_closer hstop hidle hp hcalls
      have hwinds := winds_of_act (Shut.of_idle hstop hidle) hact
      have ht : Reachable threadName capacity t := h.act hact
      have hrest : rest.length = t.station.owed := by
        have howed := hwinds.owed h.ledger ht.ledger
        rw [← hcalls, ← hends, List.length_append] at howed
        omega
      obtain ⟨actions, u, hrun, hfinished, hcompletions⟩ :=
        ih _ (hn ▸ hlt) ht ((flags_of_access (access_of_act hact)).1 hstop) hidle' hrest rfl
      refine ⟨action :: actions, u, ?_, hfinished, ?_⟩
      · rw [run_cons, hact]
        exact hrun
      · rw [← hends, ← hcompletions, ← completions_append]
        rfl

/-- The worker is over, or it has an access to make, or it is starved and gets one with the stop
message that a call is about to send. -/
def GoesOn (s : System) : Prop :=
  s.station.phase = .finished ∨ (∃ m t, s.act (.worker m) = some t) ∨
    s.Starved ∧ ∃ i t u, s.Sends i ∧ s.act (.caller i) = some t ∧
      t.act (.worker .receiveStop) = some u

/-- A worker that was asked to stop goes on until it is over. -/
theorem Reachable.goesOn (h : Reachable threadName capacity s)
    (hstop : s.station.stopping = true) (hidle : ∀ call ∈ s.callers, call.holdsLock = false) :
    s.GoesOn := by
  by_cases hp : s.station.phase = .finished
  · exact Or.inl hp
  by_cases hstarved : s.Starved
  · exact Or.inr (Or.inr ⟨hstarved, h.next_of_starved hstop hstarved⟩)
  · obtain ⟨m, t, ht, -⟩ | ⟨-, hfinish⟩ := h.has_next hidle hp hstarved
    · exact Or.inr (Or.inl ⟨m, t, ht⟩)
    · obtain ⟨t, ht⟩ := hfinish .unwound
      exact Or.inr (Or.inl ⟨_, t, ht⟩)

/-- **A request to stop is never lost, and the drain ends.** With the stop flag up a worker is
starved only while a call is about to send the stop message. At most one such message is sent, and
one that the worker is done, and both find room.

With the flag up and nobody in the middle of a submission the system winds down, whatever happens
next: no line is accepted, each access of the worker lowers its rank, a worker that is restarted,
once for each call that unwinds, does not go back to the open queue, and whenever nobody is in the
middle of a submission the worker goes on. It is over after exactly as many further calls of the
sink as there are lines that wait or were taken and not finished, and it gets there however these
calls end. -/
theorem stop_request_ends_worker (h : Reachable threadName capacity s) :
    (s.station.stopping = true → (∀ i, ¬ s.Sends i) → ¬ s.Starved) ∧
    (s.station.stopsSent ≤ 1 ∧ s.station.donesSent ≤ 1 ∧
      (∀ i, s.Sends i → ∃ stopMessage, s.station.stopMessage.trySend () = .ok stopMessage) ∧
      (s.station.phase = .signalling →
        ∃ doneMessage, s.station.doneMessage.trySend () = .ok doneMessage)) ∧
    (s.station.stopping = true → (∀ call ∈ s.callers, call.holdsLock = false) →
      s.station.unfinished.length ≤ 1 ∧
      (∀ actions t, s.run actions = some t → Winds s t actions ∧
        ((∀ call ∈ t.callers, call.holdsLock = false) → t.GoesOn) ∧
        t.station.restarts + t.station.phase.isUnwinding.toNat =
          s.station.restarts + s.station.phase.isUnwinding.toNat +
            (completions actions).countP Call.isUnwound ∧
        (t.station.phase = .finished → (completions actions).length =
          s.station.waiting.length + s.station.unfinished.length)) ∧
      ∀ calls : List (Call Reply),
        calls.length = s.station.waiting.length + s.station.unfinished.length →
        ∃ actions t, s.run actions = some t ∧ t.station.phase = .finished ∧
          completions actions = calls) := by
  have hmessages := h.messages
  refine ⟨?_, ⟨?_, ?_, ?_, hmessages.trySend_done⟩, ?_⟩
  · intro hstop hnobody hstarved
    obtain ⟨i, hsends⟩ := hmessages.stop_arrives hstop hstarved.1 hstarved.2.2
    exact hnobody i hsends
  · exact Nat.le_trans (Nat.le_add_right _ _) hmessages.stops_le
  · rw [hmessages.dones]
    exact Bool.toNat_le _
  · rintro i ⟨waits, hi⟩
    exact (hmessages.trySend_stop (List.mem_of_getElem? hi) rfl).2
  · intro hstop hidle
    refine ⟨s.station.unfinished_le, ?_, fun calls hcalls => h.exists_drain hstop hidle hcalls⟩
    intro actions t hrun
    have ht : Reachable threadName capacity t := h.run hrun
    have hwinds := winds_of_run (Shut.of_idle hstop hidle) hrun
    have hstop' : t.station.stopping = true := (flags_of_run hrun).1 hstop
    refine ⟨hwinds, ht.goesOn hstop', hwinds.restarts h.ledger ht.ledger, ?_⟩
    intro hfinished
    have howed := hwinds.owed h.ledger ht.ledger
    rw [ht.lifecycle.owed_of_finished hfinished, Nat.add_zero] at howed
    exact howed

/-- The worker is asked to stop while it is in a call of the sink and another line waits. -/
def stopMidway : List Action :=
  [.arrive (.submission (.arriving ⟨"first:1|c"⟩)), .caller 0, .caller 0, .caller 0, .caller 0,
    .caller 0, .worker (.enter true), .worker .proceed, .worker .receiveLine, .worker .proceed,
    .worker .proceed, .arrive (.submission (.arriving ⟨"second:1|c"⟩)), .caller 1, .caller 1,
    .caller 1, .caller 1, .caller 1, .arrive (.stop (.raising false)), .caller 2]

/-- A worker that is stopped midway comes to its end with two calls, also if both unwind. -/
theorem stopMidway_ends :
    ∃ s, (System.new "courier" 2).run stopMidway = some s ∧ s.station.waiting.length = 1 ∧
      s.station.unfinished.length = 1 ∧ ∃ actions t, s.run actions = some t ∧
        t.station.phase = .finished ∧ completions actions = [.unwound, .unwound] := by
  have hrun : ((System.new "courier" 2).run stopMidway).any (fun s => s.station.stopping &&
      s.callers.all (fun call => !call.holdsLock) && s.station.waiting.length == 1 &&
      s.station.unfinished.length == 1) = true := by decide +kernel
  obtain ⟨s, hs, hall⟩ := exists_of_any hrun
  simp only [Bool.and_eq_true, beq_iff_eq, List.all_eq_true, Bool.not_eq_true'] at hall
  obtain ⟨⟨⟨hstop, hidle⟩, hwaiting⟩, hunfinished⟩ := hall
  refine ⟨s, hs, hwaiting, hunfinished, ?_⟩
  obtain ⟨-, -, hends⟩ := stop_request_ends_worker ⟨stopMidway, hs⟩
  exact (hends hstop hidle).2.2 _ (by rw [hwaiting, hunfinished]; rfl)

/-- A call raises the stop flag while the worker waits, and has not sent the message yet. -/
def raisedStop : List Action :=
  [.worker (.enter true), .worker .proceed, .arrive (.stop (.raising false)), .caller 0]

/-- With the flag up and no submission under way, a worker that is not over can be without an access
to make: whoever raised the flag has the message still to send. -/
theorem raisedStop_starves :
    ∃ s, (System.new "courier" 1).run raisedStop = some s ∧ s.station.stopping = true ∧
      s.callers = [.stop (.sending false)] ∧ s.station.phase ≠ .finished ∧
      ∀ m, s.act (.worker m) = none := by
  have hrun : ((System.new "courier" 1).run raisedStop).any (fun s => s.station.stopping &&
      s.callers == [.stop (.sending false)] && s.station.phase == .waiting &&
      s.station.waiting == [] && s.station.stopMessage.waiting.toList == []) = true := by
    decide +kernel
  obtain ⟨s, hs, hall⟩ := exists_of_any hrun
  simp only [Bool.and_eq_true, beq_iff_eq] at hall
  obtain ⟨⟨⟨⟨hstop, hcallers⟩, hwaiting⟩, hlines⟩, hmessage⟩ := hall
  have hstarved : s.Starved := ⟨hwaiting, hlines, hmessage⟩
  refine ⟨s, hs, hstop, hcallers, ?_, hstarved.act_worker⟩
  rw [hwaiting]
  exact fun h => nomatch h

end System

end MetricCourier
