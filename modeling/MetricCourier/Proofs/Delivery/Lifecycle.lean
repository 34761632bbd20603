import MetricCourier.Proofs.Delivery.Messages

/-!
# The life of a station

A station goes from accepting lines to being stopped, and never back. Its flags are raised in the
order `stopping`, `closed`, `stopped`, and each phase of the worker tells how many of them have to
be up by then (`Station.Flags`): a worker closes the queue only when it has been asked to stop,
drains only a closed queue, and says that it is done only when it has found the queue empty.

What makes the last of these final is the lock. The worker closes the queue while no producer is
between its look at the flags and the counting of its line, and a producer that looks later finds
the queue closed. So with the queue closed nobody is about to post a line
(`System.Lifecycle.quiet`), and the queue that the worker found empty stays empty.

`System.Lifecycle` puts this together with what callers learn: none is told that the worker is done
before it is (`told`).
-/

namespace MetricCourier

namespace Phase

/-- Is the worker about to close the queue? -/
def isClosing : Phase → Bool
  | closing | locked => true
  | _ => false

/-- Has the worker found the closed queue empty? -/
def isEmptied : Phase → Bool
  | announcing | marking | signalling | leaving | finished => true
  | _ => false

/-- Has the worker closed the queue in this run? -/
def isDraining : Phase → Bool
  | taken loop _ | counted loop _ | sending loop _ | failing loop _ _ | reporting loop _ _ =>
    loop = .draining
  | draining | announcing | marking | signalling | leaving | finished => true
  | _ => false

/-- Has the worker set the flag that it is done? -/
def isMarked : Phase → Bool
  | signalling | leaving | finished => true
  | _ => false

/-- A worker finds the queue empty only after it has closed it. -/
theorem isDraining_of_isEmptied {p : Phase} (h : p.isEmptied = true) : p.isDraining = true := by
  cases p with
  | announcing | marking | signalling | leaving | finished => rfl
  | _ => cases h

/-- A worker that has set the flag is through with the queue and with all lines. -/
theorem nothing_left {p : Phase} (h : p.isMarked = true) :
    p.isEmptied = true ∧ p.held = none ∧ p.inFlight = none ∧ p.isCounted = false := by
  cases p with
  | signalling | leaving | finished => exact ⟨rfl, rfl, rfl, rfl⟩
  | _ => cases h

end Phase

namespace Station

/-- The flags are up that the phase of the worker and the other flags ask for. -/
structure Flags (s : Station) : Prop where
  /-- The write side of the lock is held by the worker that is about to close the queue. -/
  writer : s.writer = decide (s.phase = .locked)
  closing : s.phase.isClosing = true → s.stopping = true
  closed : s.closed = true → s.stopping = true
  draining : s.phase.isDraining = true → s.closed = true
  stopped : s.stopped = s.phase.isMarked
  emptied : s.phase.isEmptied = true → s.waiting = []

variable {s t : Station} {m : Move}

theorem Flags.new (threadName : String) (capacity : Nat) :
    (Station.new threadName capacity).Flags := by
  constructor <;> simp [Station.new, Phase.isClosing, Phase.isDraining, Phase.isMarked,
    Phase.isEmptied]

/-- The worker holds the write side of the lock for one access. -/
theorem writer_of_access (hI : s.writer = decide (s.phase = .locked)) (h : Access m s t) :
    t.writer = decide (t.phase = .locked) := by
  cases h with
  | lock hp hr hw | close hp => rfl
  | @endWritten _ loop _ _ hp | @report _ loop _ _ hp =>
    cases loop <;> simpa [hp, note, log, Loop.next] using hI
  | _ => simp [note, log, *]

/-- The worker begins to close the queue when it finds the stop flag up or the stop message. -/
theorem closing_of_access (hI : s.phase.isClosing = true → s.stopping = true)
    (hmessage : s.stopMessage.waiting.toList ≠ [] → s.stopping = true) (h : Access m s t) :
    t.phase.isClosing = true → t.stopping = true := by
  rw [h.stopping_eq]
  cases h with
  | findStop _ hs => exact fun _ => hs
  | receiveStop _ hm =>
    intro _
    -- the message was there to be received
    apply hmessage
    rw [Channel.toList_of_tryReceive hm]
    exact List.cons_ne_nil _ _
  | lock hp _ _ => exact fun _ => hI (by rw [hp]; rfl)
  | @endWritten _ loop _ _ _ | @report _ loop _ _ _ => cases loop <;> exact nofun
  | _ => exact nofun

/-- The queue is closed by a worker that was asked to stop. -/
theorem closed_of_access (hI : s.closed = true → s.stopping = true)
    (hclosing : s.phase.isClosing = true → s.stopping = true) (h : Access m s t) :
    t.closed = true → t.stopping = true := by
  rw [h.stopping_eq]
  cases h with
  -- only a worker on its way out closes the queue, and `hclosing` says why it is
  | close hp => exact fun _ => hclosing (by rw [hp]; rfl)
  | _ => exact hI

/-- The worker drains the queue that it has closed. -/
theorem draining_of_access (hI : s.phase.isDraining = true → s.closed = true) (h : Access m s t) :
    t.phase.isDraining = true → t.closed = true := by
  cases h with
  | close hp => exact fun _ => rfl
  | @endWritten _ loop _ _ hp | @report _ loop _ _ hp =>
    -- back in the loop that the line was taken in, which is known from the phase
    cases loop <;> simp_all [note, log, Phase.isDraining, Loop.next]
  | _ => simp_all [note, log, Phase.isDraining]

/-- The flag that the worker is done is set once, and says how far the worker has got. -/
theorem stopped_of_access (hI : s.stopped = s.phase.isMarked) (h : Access m s t) :
    t.stopped = t.phase.isMarked := by
  cases h with
  | @endWritten _ loop _ _ hp | @report _ loop _ _ hp =>
    -- a worker that delivers lines has not come so far as to set the flag
    cases loop <;> simpa [hp, note, log, Phase.isMarked, Loop.next] using hI
  | _ => simp [note, log, Phase.isMarked, *]

/-- The worker stops draining when it finds the queue empty. -/
theorem emptied_of_access (hI : s.phase.isEmptied = true → s.waiting = []) (h : Access m s t) :
    t.phase.isEmptied = true → t.waiting = [] := by
  unfold waiting at *
  cases h with
  -- this is how a worker gets past the draining
  | findEmpty _ hl => exact fun _ => Channel.tryReceive_eq_none_iff.mp hl
  | @endWritten _ loop _ _ _ | @report _ loop _ _ _ => cases loop <;> exact nofun
  | _ => simp_all [note, log, Phase.isEmptied]

/-- The worker keeps the flags in order. -/
theorem Flags.access (hI : s.Flags)
    (hmessage : s.stopMessage.waiting.toList ≠ [] → s.stopping = true) (h : Access m s t) :
    t.Flags where
  writer := writer_of_access hI.writer h
  closing := closing_of_access hI.closing hmessage h
  closed := closed_of_access hI.closed hI.closing h
  draining := draining_of_access hI.draining h
  stopped := stopped_of_access hI.stopped h
  emptied := emptied_of_access hI.emptied h

/-- Accesses from outside keep the flags in order: the only flag that they raise is the first one,
and where the worker has found the queue empty they add no line. -/
theorem Flags.congr (hI : s.Flags) (hwriter : t.writer = s.writer) (hphase : t.phase = s.phase)
    (hstopping : s.stopping = true → t.stopping = true) (hclosed : t.closed = s.closed)
    (hstopped : t.stopped = s.stopped)
    (hwaiting : s.phase.isEmptied = true → t.waiting = s.waiting) : t.Flags where
  writer := by rw [hwriter, hphase, hI.writer]
  -- a flag that follows from another one does so still, since none is taken down
  closing := by
    rw [hphase]
    exact fun hp => hstopping (hI.closing hp)
  closed := by
    rw [hclosed]
    exact fun hc => hstopping (hI.closed hc)
  draining := by
    rw [hphase, hclosed]
    exact hI.draining
  stopped := by rw [hphase, hstopped, hI.stopped]
  emptied := by
    rw [hphase]
    exact fun hp => (hwaiting hp).trans (hI.emptied hp)

/-- The worker takes no flag down. -/
theorem flags_of_access (h : Access m s t) :
    (s.stopping = true → t.stopping = true) ∧ (s.closed = true → t.closed = true) ∧
      (s.stopped = true → t.stopped = true) := by
  refine ⟨fun hs => h.stopping_eq.trans hs, ?_, ?_⟩
  · cases h with
    | close _ => exact fun _ => rfl
    | _ => exact id
  · cases h with
    | mark _ => exact fun _ => rfl
    | _ => exact id

end Station

theorem StopCall.Access.stopping_of {s t : Station} {c d : StopCall} (h : Access s c t d)
    (hs : s.stopping = true) : t.stopping = true := by
  cases h with
  | raise _ | raiseAgain _ => rfl
  | send => unfold Station.sendStop; split <;> exact hs
  | _ => exact hs

/-! ### Producers at the closed queue -/

/-- Is the call past its look at the flags, with a line that is not counted yet? -/
def Caller.isAdmitting : Caller → Bool
  | submission (.posting _) | submission (.counting _) => true
  | _ => false

/-- Has the call been told that the worker is done? -/
def Caller.isTold : Caller → Bool
  | stop (.returned (some true)) => true
  | _ => false

namespace Caller

/-- A call that does not hold the lock is not about to post or count its line. -/
theorem isAdmitting_of_holdsLock {call : Caller} (h : call.holdsLock = false) :
    call.isAdmitting = false := by
  cases call with
  | submission c =>
    -- both are steps that a submission takes under the lock
    cases c with
    | posting line | counting line => cases h
    | _ => rfl
  | _ => rfl

/-- A call that has just arrived has neither passed the flags nor been told anything. -/
theorem idle_of_isNew {call : Caller} (h : call.isNew = true) :
    call.isAdmitting = false ∧ call.isTold = false := by
  cases call with
  | submission c =>
    cases c with
    | arriving line => exact ⟨rfl, rfl⟩
    | _ => cases h
  | stop c =>
    cases c with
    | raising waits => exact ⟨rfl, rfl⟩
    | lookingAgain => exact ⟨rfl, rfl⟩
    | _ => cases h
  | stats c => exact ⟨rfl, rfl⟩

end Caller

namespace System

/-- How far a system has come in its life. -/
structure Lifecycle (s : System) : Prop where
  flags : s.station.Flags
  /-- Nobody holds the read side of the lock while the worker holds the write side. -/
  alone : s.station.phase = .locked → s.station.readers = 0
  /-- Nobody is about to post a line once the queue is closed. -/
  quiet : s.station.closed = true → ∀ call ∈ s.callers, call.isAdmitting = false
  /-- Nobody is told that the worker is done before it is. -/
  told : ∀ call ∈ s.callers, call.isTold = true → s.station.stopped = true

variable {s t : System}

theorem Lifecycle.new (threadName : String) (capacity : Nat) :
    (System.new threadName capacity).Lifecycle where
  flags := Station.Flags.new threadName capacity
  alone _ := rfl
  quiet _ _ h := absurd h List.not_mem_nil
  told _ h := absurd h List.not_mem_nil

/-- While nobody holds the read side of the lock nobody is about to post a line. -/
theorem Books.quiet_of_readers (hI : s.Books) (h : s.station.readers = 0) :
    ∀ call ∈ s.callers, call.isAdmitting = false := by
  rw [hI.readers, List.countP_eq_zero] at h
  intro call hmem
  exact Caller.isAdmitting_of_holdsLock (Bool.eq_false_iff.mpr (h call hmem))

/-- Where a stop message waits the stop flag is up. -/
theorem Messages.stopping_of_waiting (hI : s.Messages)
    (h : s.station.stopMessage.waiting.toList ≠ []) : s.station.stopping = true := by
  have hpos : 0 < s.station.stopsWaiting := List.length_pos_iff.mpr h
  have hle := hI.stopsWaiting_le
  have hstops := hI.stops
  cases hs : s.station.stopping with
  | true => rfl
  | false =>
    rw [hs, Bool.toNat_false] at hstops
    -- with the flag down none was sent, and none could wait
    omega

/-- Where the message waits that the worker is done, it is. -/
theorem Messages.stopped_of_waiting (hI : s.Messages) (hflags : s.station.Flags)
    (h : s.station.doneMessage.waiting.toList ≠ []) : s.station.stopped = true := by
  have hpos : 0 < s.station.donesWaiting := List.length_pos_iff.mpr h
  have hle := hI.donesWaiting_le
  have hdones := hI.dones
  rw [hflags.stopped]
  -- a message that waits was sent, and that is done in the last phases only
  cases hp : s.station.phase with
  | leaving | finished => rfl
  | _ =>
    rw [hp] at hdones
    change s.station.donesSent = 0 at hdones
    omega

/-- What the worker does keeps a system in its life. -/
theorem Lifecycle.worker (hI : s.Lifecycle) (hbooks : s.Books) (hmessages : s.Messages)
    {m : Station.Move} {station : Station} (h : Station.Access m s.station station) :
    Lifecycle { s with station } where
  flags := hI.flags.access hmessages.stopping_of_waiting h
  alone := by
    change station.phase = .locked → station.readers = 0
    rw [h.readers_eq]
    cases h with
    -- the lock is not taken over the heads of those who read
    | lock _ hr _ => exact fun _ => hr
    | @endWritten _ loop _ _ _ | @report _ loop _ _ _ => cases loop <;> exact nofun
    | findStop _ _ | findNoStop _ _ | _ => exact nofun
  quiet := by
    change station.closed = true → ∀ call ∈ s.callers, call.isAdmitting = false
    cases h with
    -- here the queue becomes final: nobody reads under the lock that the worker holds
    | close hp => exact fun _ => hbooks.quiet_of_readers (hI.alone hp)
    | _ => exact hI.quiet
  told call hmem htold := (Station.flags_of_access h).2.2 (hI.told call hmem htold)

/-- With the queue closed a submission is not about to post its line, and does not come to it. -/
theorem Lifecycle.not_admitting (hI : s.Lifecycle) (hclosed : s.station.closed = true)
    {c d : Submission} {station : Station} (hmem : Caller.submission c ∈ s.callers)
    (h : Submission.Access s.station c station d) :
    (Caller.submission d).isAdmitting = false ∧ station.waiting = s.station.waiting := by
  have hquiet := hI.quiet hclosed _ hmem
  constructor
  · cases h with
    -- a submission that looks now is turned away, and none is past its look
    | pass hr => simp [Station.refuses, hclosed] at hr
    | post hl => cases hquiet
    | _ => rfl
  · obtain ⟨line, rfl, -, -⟩ | ⟨-, -, hposts⟩ := h.posts
    · cases hquiet
    · rw [hposts.waiting, List.append_nil]

/-- What a submission does keeps a system in its life. -/
theorem Lifecycle.submission (hI : s.Lifecycle) {i : Nat} {c d : Submission}
    {station : Station} {admitted : List Nat}
    (hi : s.callers[i]? = some (.submission c)) (h : Submission.Access s.station c station d) :
    Lifecycle { station, callers := s.callers.set i (.submission d), admitted } := by
  have hmem := List.mem_of_getElem? hi
  obtain ⟨hstopping, hclosed, hstopped, hwriter, hphase, -, -⟩ := h.frame
  refine ⟨?_, ?_, ?_, ?_⟩
  · refine hI.flags.congr hwriter hphase hstopping.trans hclosed hstopped fun hp => ?_
    -- the queue that was found empty is closed, so no line comes into it
    have hc := hI.flags.draining (Phase.isDraining_of_isEmptied hp)
    exact (hI.not_admitting hc hmem h).2
  · intro hp
    have hp : s.station.phase = .locked := hphase ▸ hp
    have hnone := hI.alone hp
    -- the write side is held, so no call can have taken the read side
    have hlocked := hI.flags.writer
    rw [hp] at hlocked
    cases h with
    | arrive hw => rw [hw] at hlocked; cases hlocked
    | depart refusal => change s.station.readers - 1 = 0; omega
    | post _ => exact hnone
    | _ => exact hnone
  · intro hc
    have hc : s.station.closed = true := hclosed ▸ hc
    exact forall_mem_set (hI.quiet hc) (hI.not_admitting hc hmem h).1
  · change ∀ call ∈ s.callers.set i (.submission d), call.isTold = true → station.stopped = true
    rw [hstopped]
    exact forall_mem_set hI.told nofun

/-- A call learns that the worker is done only when it is. -/
theorem Lifecycle.told_of_access (hI : s.Lifecycle) (hmessages : s.Messages) {c d : StopCall}
    {station : Station} (h : StopCall.Access s.station c station d)
    (htold : (Caller.stop d).isTold = true) : s.station.stopped = true := by
  cases h with
  | findDone hs => exact hs
  | receive hm =>
    -- the message was sent by a worker that had set the flag
    refine hmessages.stopped_of_waiting hI.flags ?_
    rw [Channel.toList_of_tryReceive hm]
    exact List.cons_ne_nil _ _
  | lookAgain =>
    -- the answer is the flag itself
    cases hs : s.station.stopped with
    | true => rfl
    | false => rw [hs] at htold; cases htold
  | @raiseAgain waits hs | @send waits => cases waits <;> cases htold
  | _ => cases htold

/-- What a call to stop the worker does keeps a system in its life. -/
theorem Lifecycle.stop (hI : s.Lifecycle) (hmessages : s.Messages) {i : Nat} {c d : StopCall}
    {station : Station} (h : StopCall.Access s.station c station d) :
    Lifecycle { s with station, callers := s.callers.set i (.stop d) } := by
  obtain ⟨hreaders, -, -, hlines, hclosed, hstopped, hwriter, hphase⟩ := h.frame
  refine ⟨?_, ?_, ?_, ?_⟩
  · refine hI.flags.congr hwriter hphase h.stopping_of hclosed hstopped fun _ => ?_
    -- it has nothing to do with the queue
    rw [Station.waiting, hlines, Station.waiting]
  · change station.phase = .locked → station.readers = 0
    rw [hphase, hreaders]
    exact hI.alone
  · intro hc
    -- a call to stop admits no line, wherever it stands
    exact forall_mem_set (hI.quiet (hclosed ▸ hc)) rfl
  · change ∀ call ∈ s.callers.set i (.stop d), call.isTold = true → station.stopped = true
    rw [hstopped]
    exact forall_mem_set hI.told (hI.told_of_access hmessages h)

/-- Calls that neither pass the flags nor are told anything may come and go. -/
theorem Lifecycle.callers (hI : s.Lifecycle) {callers : List Caller}
    (hcallers : ∀ call ∈ callers,
      call ∈ s.callers ∨ (call.isAdmitting = false ∧ call.isTold = false)) :
    Lifecycle { s with callers } where
  flags := hI.flags
  alone := hI.alone
  quiet hc call hcall := by
    -- who was there before is quiet, and who is new has not passed the flags
    obtain hold | ⟨hidle, -⟩ := hcallers call hcall
    · exact hI.quiet hc call hold
    · exact hidle
  told call hcall htold := by
    obtain hold | ⟨-, hidle⟩ := hcallers call hcall
    · exact hI.told call hold htold
    · rw [hidle] at htold
      cases htold

/-- **Every access keeps a system in its life.** -/
theorem Lifecycle.access {action : Action} (hI : s.Lifecycle) (hbooks : s.Books)
    (hmessages : s.Messages) (h : Access action s t) : t.Lifecycle := by
  cases h with
  | worker h => exact hI.worker hbooks hmessages h
  | submission hi h => exact hI.submission hi h
  | stop _ h => exact hI.stop hmessages h
  | arrive hnew =>
    refine hI.callers fun call hcall => ?_
    -- the new call stands last, and all others stay
    obtain hold | hlast := List.mem_append.mp hcall
    · exact Or.inl hold
    · rw [List.mem_singleton.mp hlast]
      exact Or.inr (Caller.idle_of_isNew hnew)
  | stats _ _ | timeOut _ =>
    exact hI.callers (forall_mem_set (fun _ hold => Or.inl hold) (Or.inr ⟨rfl, rfl⟩))

/-- No access takes a flag down. -/
theorem flags_of_access {action : Action} (h : Access action s t) :
    (s.station.stopping = true → t.station.stopping = true) ∧
      (s.station.closed = true → t.station.closed = true) ∧
      (s.station.stopped = true → t.station.stopped = true) := by
  cases h with
  | worker h => exact Station.flags_of_access h
  | submission _ h =>
    obtain ⟨hstopping, hclosed, hstopped, -⟩ := h.frame
    exact ⟨hstopping.trans, hclosed.trans, hstopped.trans⟩
  | stop _ h =>
    obtain ⟨-, -, -, -, hclosed, hstopped, -⟩ := h.frame
    exact ⟨h.stopping_of, hclosed.trans, hstopped.trans⟩
  | arrive _ | stats _ _ | timeOut _ => exact ⟨id, id, id⟩

/-- No sequence of accesses takes a flag down. -/
theorem flags_of_run {actions : List Action} (hrun : s.run actions = some t) :
    (s.station.stopping = true → t.station.stopping = true) ∧
      (s.station.closed = true → t.station.closed = true) ∧
      (s.station.stopped = true → t.station.stopped = true) := by
  refine keeps_of_run (motive := fun u => (s.station.stopping = true → u.station.stopping = true) ∧
      (s.station.closed = true → u.station.closed = true) ∧
      (s.station.stopped = true → u.station.stopped = true)) ?_ ⟨id, id, id⟩ hrun
  intro u action v hu hact
  obtain ⟨hstopping, hclosed, hstopped⟩ := flags_of_access (access_of_act hact)
  exact ⟨hstopping ∘ hu.1, hclosed ∘ hu.2.1, hstopped ∘ hu.2.2⟩

variable {threadName : String} {capacity : Nat}

/-- **Every reachable system is in its life.** -/
theorem Reachable.lifecycle (h : Reachable threadName capacity s) : s.Lifecycle := by
  -- what an access keeps of the life depends on the books and on the messages
  have hall : s.Books ∧ s.Messages ∧ s.Lifecycle := by
    refine h.induction (motive := fun u => u.Books ∧ u.Messages ∧ u.Lifecycle)
      ⟨Books.new _ _, Messages.new _ _, Lifecycle.new _ _⟩ ?_
    intro u action v ⟨hbooks, hmessages, hlife⟩ hact
    have haccess := access_of_act hact
    exact ⟨hbooks.access haccess, hmessages.access haccess,
      hlife.access hbooks hmessages haccess⟩
  exact hall.2.2

end System

end MetricCourier
