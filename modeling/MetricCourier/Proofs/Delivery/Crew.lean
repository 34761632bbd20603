import MetricCourier.Delivery.Crew
import MetricCourier.Proofs.Delivery.Access

/-!
# A crew works like one worker

Of the threads of a crew at most the last one has anything left to do (`Crew.Relayed`): a thread is
over when it starts the next one. So a crew does what the system does in which the last thread is
the worker, `Crew.sole`: each access of the crew is an access of that system (`sole_of_act`), also
the one in which a thread hands over to the next, and what is true of every reachable system is true
of the crew (`Reachable.sole`).

The accesses from outside do not read the phase of the worker, so it makes no difference to them
which thread the station is manned with (`System.act_manned`).
-/

namespace MetricCourier

/-- Has a thread in this phase unwound, and left its context? -/
def Phase.hasUnwound : Phase → Bool
  | unwound | restarting => true
  | _ => false

namespace Station

variable {s t : Station} {m : Move}

theorem move_eq_none_of_finished (h : s.phase = .finished) : s.move m = none := by
  cases hm : s.move m with
  | none => rfl
  | some t =>
    have haccess := access_of_move hm
    cases haccess <;> simp_all

/-- A worker that restarts goes back to the start, with its context as it was. -/
theorem thread_of_restart (hp : s.phase = .restarting) (h : Access m s t) :
    t.thread = { phase := .starting, inContext := s.inContext } := by
  cases h with
  | restart _ => rfl
  | _ => simp_all

/-- A worker leaves its context when it unwinds. -/
theorem inContext_of_access (hI : s.phase.hasUnwound = true → s.inContext = false)
    (h : Access m s t) : t.phase.hasUnwound = true → t.inContext = false := by
  cases h with
  -- whether there was a context to leave or not, there is none after this
  | unwindLeaving _ _ => exact fun _ => rfl
  | unwindLeavingNothing _ hc => exact fun _ => hc
  | countRestart hp => exact fun _ => hI (by rw [hp]; rfl)
  | @endWritten _ loop _ _ _ | @report _ loop _ _ _ => cases loop <;> exact nofun
  | _ => exact nofun

/-! ### Accesses from outside -/

theorem post_manned (thread : Thread) (line : Line) (s : Station) :
    (s.manned thread).post line = (s.post line).map (manned thread) := by
  have hlines : (s.manned thread).lines = s.lines := rfl
  unfold post
  rw [hlines]
  -- posting looks at the queue only, which all threads share
  cases s.lines.trySend line with
  | ok lines => rfl
  | error why => cases why <;> rfl

theorem sendStop_manned (thread : Thread) (s : Station) :
    (s.manned thread).sendStop = s.sendStop.manned thread := by
  have hmessage : (s.manned thread).stopMessage = s.stopMessage := rfl
  unfold sendStop
  rw [hmessage]
  -- nor does the message depend on who will receive it
  cases s.stopMessage.trySend () <;> rfl

end Station

/-- A submission does the same whoever is the worker. -/
theorem Submission.move_manned (thread : Thread) (s : Station) (c : Submission) :
    c.move (s.manned thread) = (c.move s).map fun (d, t) => (d, t.manned thread) := by
  cases c with
  | arriving line =>
    simp only [move]
    -- the lock is the same for all threads
    change (if s.writer then _ else _) = _
    split <;> rfl
  | posting line =>
    simp only [move, Station.post_manned]
    cases s.post line <;> rfl
  | _ => rfl

theorem StopCall.move_manned (thread : Thread) (s : Station) (c : StopCall) :
    c.move (s.manned thread) = (c.move s).map fun (d, t) => (d, t.manned thread) := by
  cases c with
  | sending waits => simp only [move, Station.sendStop_manned]; rfl
  | blocked =>
    -- the message is taken out of a channel that the thread is no part of
    simp only [move, Station.receiveDone, Option.map_map]
    rfl
  | _ => rfl

theorem StatsCall.move_manned (thread : Thread) (s : Station) (c : StatsCall) :
    c.move (s.manned thread) = c.move s := by
  cases c <;> rfl

theorem Caller.move_manned (thread : Thread) (s : Station) (call : Caller) :
    call.move (s.manned thread) = (call.move s).map fun (next, t) => (next, t.manned thread) := by
  cases call with
  | submission c => simp only [move, Submission.move_manned, Option.map_map]; rfl
  | stop c => simp only [move, StopCall.move_manned, Option.map_map]; rfl
  | stats c => simp only [move, StatsCall.move_manned, Option.map_map]; rfl

namespace System

/-- The system with the given thread as its worker. -/
def manned (thread : Thread) (s : System) : System :=
  { s with station := s.station.manned thread }

/-- What a call from outside does is the same whoever is the worker. -/
theorem act_manned (thread : Thread) {s t : System} {action : Action}
    (houtside : ∀ m, action ≠ .worker m) (h : s.act action = some t) :
    (s.manned thread).act action = some (t.manned thread) := by
  cases action with
  | worker m => exact absurd rfl (houtside m)
  | arrive call =>
    simp only [act] at h ⊢
    split at h
    · next hnew => cases h; rw [if_pos hnew]; rfl
    · cases h
  | caller i =>
    simp only [act, Option.bind_eq_bind, Option.bind_eq_some_iff] at h ⊢
    obtain ⟨call, hi, ⟨next, station⟩, hm, heq⟩ := h
    cases heq
    -- the call moves as before, on the station with another thread
    refine ⟨call, hi, (next, station.manned thread), ?_, rfl⟩
    change call.move (s.station.manned thread) = _
    rw [Caller.move_manned, hm]
    rfl
  | timeOut i =>
    simp only [act, Option.bind_eq_bind, Option.bind_eq_some_iff] at h ⊢
    obtain ⟨call, hi, next, hm, heq⟩ := h
    cases heq
    -- a time that is up shows in the list of calls alone
    exact ⟨call, hi, next, hm, rfl⟩

end System

namespace Crew

/-- The thread that was started last. -/
def current (c : Crew) : Thread := c.threads.getLast?.getD {}

/-- The crew as a system in which the last thread is the worker. -/
def sole (c : Crew) : System := c.system.manned c.current

/-- Each thread was over before the next one was started. -/
structure Relayed (c : Crew) : Prop where
  relay : ∃ before, c.threads = before ++ [c.current] ∧
    ∀ thread ∈ before, thread.phase = .finished
  /-- A thread that has unwound is out of its context. -/
  left : c.current.phase.hasUnwound = true → c.current.inContext = false

variable {c d : Crew}

theorem current_of_threads {before : List Thread} {thread : Thread}
    (h : c.threads = before ++ [thread]) : c.current = thread := by
  rw [current, h, List.getLast?_concat, Option.getD_some]

theorem Relayed.new (threadName : String) (capacity : Nat) :
    (Crew.new threadName capacity).Relayed where
  relay := ⟨[], rfl, fun _ h => absurd h List.not_mem_nil⟩
  left := nofun

/-- The threads before the current one count for nothing that a thread that is over is not. -/
theorem Relayed.countP_eq (hI : c.Relayed) {p : Thread → Bool}
    (hp : ∀ thread, thread.phase = .finished → p thread = false) :
    c.threads.countP p = (p c.current).toNat := by
  obtain ⟨before, hthreads, hover⟩ := hI.relay
  -- all but the last are over, and so are not counted
  have hidle : before.countP p = 0 := by
    rw [List.countP_eq_zero]
    intro thread hmem
    rw [hp thread (hover thread hmem)]
    exact Bool.false_ne_true
  rw [hthreads, List.countP_append, hidle, Nat.zero_add, List.countP_singleton]
  cases p c.current <;> rfl

theorem Relayed.current_mem (hI : c.Relayed) : c.current ∈ c.threads := by
  obtain ⟨before, hthreads, -⟩ := hI.relay
  rw [hthreads]
  exact List.mem_append_right _ (List.mem_singleton_self _)

/-- A thread that makes an access is the last one. -/
theorem Relayed.current_of_move (hI : c.Relayed) {number : Nat} {thread : Thread} {m : Station.Move}
    {station : Station} (hthread : c.threads[number]? = some thread)
    (hm : (c.system.station.manned thread).move m = some station) :
    thread = c.current ∧ c.threads.set number = fun last => c.threads.dropLast ++ [last] := by
  obtain ⟨before, hthreads, hover⟩ := hI.relay
  -- an earlier thread is over, and would not have made the access
  have hnumber : ¬ number < before.length := by
    intro hlt
    rw [hthreads, List.getElem?_append_left hlt] at hthread
    have hfinished := hover thread (List.mem_of_getElem? hthread)
    rw [Station.move_eq_none_of_finished hfinished] at hm
    cases hm
  -- so it stands at the end of the list, and replacing it replaces the last
  have heq : number = before.length := by
    have hlt := (List.getElem?_eq_some_iff.mp hthread).1
    rw [hthreads, List.length_append, List.length_singleton] at hlt
    omega
  subst heq
  rw [hthreads, List.getElem?_append_right (Nat.le_refl _), Nat.sub_self] at hthread
  refine ⟨(Option.some.inj hthread).symm, funext fun last => ?_⟩
  rw [hthreads, List.set_append_right _ _ (Nat.le_refl _), Nat.sub_self, List.dropLast_concat]
  rfl

/-- What a thread does is what the worker of the system does, and at most the last thread is
left with something to do. -/
theorem sole_of_work (hI : c.Relayed) {number : Nat} {m : Station.Move}
    (h : c.work number m = some d) :
    d.Relayed ∧ c.sole.act (.worker m) = some d.sole := by
  simp only [work, Option.bind_eq_bind, Option.bind_eq_some_iff] at h
  obtain ⟨thread, hthread, station, hm, heq⟩ := h
  obtain ⟨hcurrent, hset⟩ := hI.current_of_move hthread hm
  have haccess := Station.access_of_move hm
  obtain ⟨before, hthreads, hover⟩ := hI.relay
  have hbefore : c.threads.dropLast = before := by rw [hthreads, List.dropLast_concat]
  -- on the system with this worker the same access can be made
  have hact : c.sole.act (.worker m) = some { c.system with station } := by
    change ((c.system.station.manned c.current).move m).map _ = _
    rw [← hcurrent, hm]
    rfl
  rw [hset, hbefore] at heq
  cases heq
  -- either way the new list of threads ends with the worker of the system after the access
  by_cases hp : thread.phase = .restarting
  · -- the thread hands over: its phase in the system goes back to that of a new thread
    have hleft : thread.inContext = false := by
      rw [hcurrent] at hp ⊢
      exact hI.left (by rw [hp]; rfl)
    have hnew : station.thread = {} := by
      rw [Station.thread_of_restart hp haccess]
      change ({ phase := .starting, inContext := thread.inContext } : Thread) = {}
      rw [hleft]
    rw [if_pos hp]
    have hlast := current_of_threads (c := {
      system := { c.system with station }
      threads := before ++ [{ thread with phase := .finished }] ++ [{}] }) rfl
    refine ⟨⟨⟨before ++ [{ thread with phase := .finished }], by rw [hlast], ?_⟩, ?_⟩, ?_⟩
    · -- who was over stays over, and the one that handed over is over now
      intro other hother
      obtain hold | hself := List.mem_append.mp hother
      · exact hover other hold
      · rw [List.mem_singleton.mp hself]
    · rw [hlast]
      exact nofun
    · rw [hact, sole, hlast, ← hnew]
      rfl
  · -- the thread goes on, with its new phase
    rw [if_neg hp]
    have hlast := current_of_threads (c := {
      system := { c.system with station }, threads := before ++ [station.thread] }) rfl
    refine ⟨⟨⟨before, by rw [hlast], hover⟩, ?_⟩, ?_⟩
    · rw [hlast]
      refine Station.inContext_of_access ?_ haccess
      rw [hcurrent]
      exact hI.left
    · rw [hact, sole, hlast]
      rfl

/-- **Each access of a crew is an access of the system in which the last thread is the worker.** -/
theorem sole_of_act (hI : c.Relayed) {action : Action} (h : c.act action = some d) :
    d.Relayed ∧ ∃ action', c.sole.act action' = some d.sole := by
  -- an access from outside is the same access of the system
  have houtside : ∀ action' : MetricCourier.Action, (∀ m, action' ≠ .worker m) →
      (c.system.act action').map (fun system => { c with system }) = some d →
      d.Relayed ∧ ∃ action', c.sole.act action' = some d.sole := by
    intro action' hne hact
    rw [Option.map_eq_some_iff] at hact
    obtain ⟨system, hsystem, rfl⟩ := hact
    exact ⟨⟨hI.relay, hI.left⟩, action', System.act_manned c.current hne hsystem⟩
  cases action with
  | thread number m =>
    obtain ⟨hrelayed, hact⟩ := sole_of_work hI h
    exact ⟨hrelayed, _, hact⟩
  | outside action' =>
    cases action' with
    | worker m => cases h
    | arrive call => exact houtside (.arrive call) nofun h
    | caller i => exact houtside (.caller i) nofun h
    | timeOut i => exact houtside (.timeOut i) nofun h

/-- A run of a crew is a run of the system in which the last thread is the worker. -/
theorem sole_of_run (hI : c.Relayed) {actions : List Action} (h : c.run actions = some d) :
    d.Relayed ∧ ∃ actions', c.sole.run actions' = some d.sole := by
  -- the run of the system is put together access by access
  induction actions generalizing c with
  | nil =>
    rw [run_nil] at h
    cases h
    exact ⟨hI, [], rfl⟩
  | cons action rest ih =>
    rw [run_cons, Option.bind_eq_some_iff] at h
    obtain ⟨e, he, hrest⟩ := h
    obtain ⟨hrelayed, action', hact⟩ := sole_of_act hI he
    obtain ⟨hlast, actions', hrun⟩ := ih hrelayed hrest
    refine ⟨hlast, action' :: actions', ?_⟩
    rw [System.run_cons, hact]
    exact hrun

/-- Going on from a reachable crew leads to reachable crews. -/
theorem Reachable.run {threadName : String} {capacity : Nat} {actions : List Action}
    (h : Reachable threadName capacity c) (hrun : c.run actions = some d) :
    Reachable threadName capacity d := by
  obtain ⟨before, hbefore⟩ := h
  refine ⟨before ++ actions, ?_⟩
  rw [Crew.run, List.foldlM_append]
  exact Option.bind_eq_some_iff.mpr ⟨c, hbefore, hrun⟩

/-- **A reachable crew is a reachable system in which the last thread is the worker.** -/
theorem Reachable.sole {threadName : String} {capacity : Nat}
    (h : Reachable threadName capacity c) :
    c.Relayed ∧ System.Reachable threadName capacity c.sole := by
  obtain ⟨actions, hrun⟩ := h
  exact sole_of_run (Relayed.new threadName capacity) hrun

end Crew

end MetricCourier
