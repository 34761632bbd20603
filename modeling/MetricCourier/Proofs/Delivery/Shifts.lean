import MetricCourier.Proofs.Delivery.Books
import MetricCourier.Proofs.Delivery.Crew

/-!
# Shifts

A worker that is started enters its context, hands one line after the other to the sink, and at the
end leaves the context if that had been entered. When a call of the sink unwinds the worker unwinds
with it: it leaves the context all the same, and only then is the next worker started. A `Shift` is
what one worker does to its context and to the sink, from its entering on.

The dealings of a station with context and sink are one shift after the other (`Station.Roster`).
Those that are past have unwound, and left the context before the next one began; the current one
has got as far as the phase of the worker says (`Station.OnShift`). No access from outside has
anything to do with it, so what an access of the worker keeps (`Roster.access`) is kept by every
access of a system, and of a crew.

In a shift the context is entered once, and it is left once if the shift is over and the context
had been entered; what the roster counts follows from that (`Roster.enters_add`,
`Roster.granted_eq`). That the calls of the sink that unwound are counted is a clause of the
worker's books (`Station.Ledger.restarts`).
-/

namespace MetricCourier

/-- How far a worker has got with its shift. -/
inductive Standing
  /-- It is not calling the sink. -/
  | working
  /-- It is calling the sink with this line. -/
  | calling (line : Line)
  /-- The call for this line unwound, and the context is yet to be left. -/
  | unwinding (line : Line)
  /-- The call for this line unwound, and the context has been left. -/
  | unwound (line : Line)
  /-- It is through, and the context has been left. -/
  | done
  deriving DecidableEq

/-- What one worker does to its context and to the sink. -/
structure Shift where
  /-- What the context answered when it was entered: whether it has to be left. -/
  answer : Bool
  /-- The calls of the sink that returned, in order. -/
  calls : List (Line × Reply) := []
  standing : Standing := .working
  deriving DecidableEq

/-- The leaving of a context that had given this answer. -/
def leaving (answer : Bool) : List Entry := if answer then [.left] else []

/-- What has happened in a shift since the last call of the sink that returned. -/
def Standing.entries (answer : Bool) : Standing → List Entry
  | working => []
  | calling line => [.handed line]
  | unwinding line => [.handed line, .ended line .unwound]
  | unwound line => [.handed line, .ended line .unwound] ++ leaving answer
  | done => leaving answer

/-- Has the context been left, if it had to be? -/
def Standing.isOver : Standing → Bool
  | unwound _ | done => true
  | _ => false

/-- What has happened in a shift: the context was entered, then the sink was called, and at the end,
whichever end it was, the context was left if it had been entered. -/
def Shift.entries (shift : Shift) : List Entry :=
  .entered shift.answer ::
    (shift.calls.flatMap fun (line, reply) => [.handed line, .ended line (.returned reply)]) ++
      shift.standing.entries shift.answer

namespace Entry

/-- What a worker does to its context or to the sink. -/
def dealing? : Entry → Option Entry
  | entered answer => some (entered answer)
  | left => some left
  | handed line => some (handed line)
  | ended line call => some (ended line call)
  | _ => none

/-- Was the context entered such that it has to be left? -/
def isGrant : Entry → Bool
  | entered answer => answer
  | _ => false

end Entry

/-- Will the worker enter the context, or start another one that will, without having to do anything
else before? -/
def Phase.isPending : Phase → Bool
  | starting | restarting => true
  | _ => false

/-- Has the worker unwound, and left its context, without having been counted yet? -/
def Phase.isUncounted : Phase → Bool
  | unwound => true
  | _ => false

namespace Shift

/-! ### How a shift goes on -/

section GoesOn

variable {answer : Bool} {calls : List (Line × Reply)} {line : Line}

theorem entries_calling : entries ⟨answer, calls, .calling line⟩ =
    entries ⟨answer, calls, .working⟩ ++ [.handed line] := by
  simp [entries, Standing.entries]

theorem entries_returned (reply : Reply) : entries ⟨answer, calls ++ [(line, reply)], .working⟩ =
    entries ⟨answer, calls, .calling line⟩ ++ [.ended line (.returned reply)] := by
  simp [entries, Standing.entries]

theorem entries_unwinding : entries ⟨answer, calls, .unwinding line⟩ =
    entries ⟨answer, calls, .calling line⟩ ++ [.ended line .unwound] := by
  simp [entries, Standing.entries]

theorem entries_unwound : entries ⟨answer, calls, .unwound line⟩ =
    entries ⟨answer, calls, .unwinding line⟩ ++ leaving answer := by
  simp [entries, Standing.entries]

theorem entries_done : entries ⟨answer, calls, .done⟩ =
    entries ⟨answer, calls, .working⟩ ++ leaving answer := by
  simp [entries, Standing.entries]

end GoesOn

/-! ### What is counted of shifts -/

/-- Of a kind that calls of the sink are not of, a shift has its entering and its leaving. -/
theorem countP_entries {kind : Entry → Bool} (hhanded : ∀ line, kind (.handed line) = false)
    (hended : ∀ line call, kind (.ended line call) = false) (shift : Shift) :
    shift.entries.countP kind = (kind (.entered shift.answer)).toNat +
      (shift.standing.isOver && shift.answer && kind .left).toNat := by
  -- each call of the sink is two entries, and neither is of the kind
  have hcalls : (shift.calls.flatMap fun (line, reply) =>
      [Entry.handed line, .ended line (.returned reply)]).countP kind = 0 := by
    rw [List.countP_eq_zero]
    intro entry hentry
    simp only [List.mem_flatMap, List.mem_cons, List.not_mem_nil, or_false] at hentry
    obtain ⟨_, -, rfl | rfl⟩ := hentry
    · simp [hhanded]
    · simp [hended]
  -- the standing adds no more than a call of the sink and the leaving
  have hstanding : (shift.standing.entries shift.answer).countP kind =
      (shift.standing.isOver && shift.answer && kind .left).toNat := by
    cases shift.standing <;> cases shift.answer <;> cases hleft : kind .left <;>
      simp [Standing.entries, Standing.isOver, leaving, hhanded, hended, hleft]
  rw [entries, List.cons_append, List.countP_cons, List.countP_append, hcalls, hstanding,
    Nat.zero_add, Nat.add_comm]
  cases kind (.entered shift.answer) <;> rfl

theorem countP_isEnter (shift : Shift) : shift.entries.countP Entry.isEnter = 1 := by
  rw [countP_entries (fun _ => rfl) (fun _ _ => rfl)]
  simp [Entry.isEnter]

theorem countP_isGrant (shift : Shift) :
    shift.entries.countP Entry.isGrant = shift.answer.toNat := by
  rw [countP_entries (fun _ => rfl) (fun _ _ => rfl)]
  simp [Entry.isGrant]

theorem countP_isLeave (shift : Shift) :
    shift.entries.countP Entry.isLeave = (shift.standing.isOver && shift.answer).toNat := by
  rw [countP_entries (fun _ => rfl) (fun _ _ => rfl)]
  simp [Entry.isLeave]

/-- In shifts that are over the context has been left as often as it had to be. -/
theorem countP_isLeave_of_over {shifts : List Shift}
    (h : ∀ shift ∈ shifts, shift.standing.isOver = true) :
    (shifts.flatMap entries).countP Entry.isLeave =
      (shifts.flatMap entries).countP Entry.isGrant := by
  rw [List.countP_flatMap, List.countP_flatMap]
  refine congrArg List.sum (List.map_congr_left fun shift hshift => ?_)
  simp only [Function.comp_apply, countP_isLeave, countP_isGrant, h shift hshift, Bool.true_and]

theorem countP_isEnter_flatMap (shifts : List Shift) :
    (shifts.flatMap entries).countP Entry.isEnter = shifts.length := by
  -- each shift enters once
  induction shifts with
  | nil => rfl
  | cons shift rest ih =>
    rw [List.flatMap_cons, List.countP_append, countP_isEnter, ih, List.length_cons, Nat.add_comm]

end Shift

namespace Station

/-! ### The roster of a station -/

/-- What the workers did to their context and to the sink, in order. -/
def dealings (s : Station) : List Entry := Entry.readings Entry.dealing? s.journal

def enters (s : Station) : Nat := s.dealings.countP Entry.isEnter

/-- How often the context was entered such that it had to be left. -/
def granted (s : Station) : Nat := s.dealings.countP Entry.isGrant

def leaves (s : Station) : Nat := s.dealings.countP Entry.isLeave

/-- What the phase of the worker says of its shift: there is none before a worker has entered its
context, nor after one has unwound. -/
def OnShift (s : Station) (current : Option Shift) : Prop :=
  match s.phase with
  | .starting | .unwound | .restarting => current = none ∧ s.inContext = false
  | .sending _ line => ∃ calls, current = some ⟨s.inContext, calls, .calling line⟩
  | .unwinding => ∃ calls line, current = some ⟨s.inContext, calls, .unwinding line⟩
  | .finished => (∃ answer calls, current = some ⟨answer, calls, .done⟩) ∧ s.inContext = false
  | _ => ∃ calls, current = some ⟨s.inContext, calls, .working⟩

/-- The dealings of a station are one shift after the other. -/
structure Roster (s : Station) (past : List Shift) (current : Option Shift) : Prop where
  dealings : s.dealings = (past ++ current.toList).flatMap Shift.entries
  /-- A shift that is past has unwound, and left its context if that had been entered. -/
  unwound : ∀ shift ∈ past, ∃ line, shift.standing = .unwound line
  onShift : s.OnShift current
  /-- The shifts that are past are counted, after they have unwound. -/
  restarts : past.length = s.restarts + s.phase.isUncounted.toNat

variable {s t : Station} {m : Move} {past : List Shift} {current : Option Shift}

theorem Roster.new (threadName : String) (capacity : Nat) :
    (Station.new threadName capacity).Roster [] none where
  dealings := rfl
  unwound _ h := absurd h List.not_mem_nil
  onShift := ⟨rfl, rfl⟩
  restarts := rfl

theorem dealings_note (entry : Entry) (s : Station) :
    (s.note entry).dealings = s.dealings ++ (Entry.dealing? entry).toList :=
  Entry.readings_cons _ _ _

theorem dealings_log (record : LogRecord) (s : Station) : (s.log record).dealings = s.dealings := by
  rw [log, dealings_note]
  exact List.append_nil _

/-- The context is entered by nothing but its entering. -/
theorem granted_note {entry : Entry} (h : entry.isGrant = false) :
    (s.note entry).granted = s.granted := by
  rw [granted, dealings_note, List.countP_append]
  -- an entry is a dealing of this kind, of another, or none at all
  cases entry <;> simp_all [granted, Entry.dealing?, Entry.isGrant]

/-- Without dealings the roster stays as it is. -/
theorem Roster.stays (hI : s.Roster past current) (hdealings : t.dealings = s.dealings)
    (hshift : t.OnShift current)
    (hrestarts : t.restarts + t.phase.isUncounted.toNat =
      s.restarts + s.phase.isUncounted.toNat) : t.Roster past current :=
  ⟨hdealings.trans hI.dealings, hI.unwound, hshift, hI.restarts.trans hrestarts.symm⟩

/-- The current shift goes on to another standing, with what is new in the dealings. -/
theorem Roster.goesOn {before after : Shift} (hI : s.Roster past (some before)) {new : List Entry}
    (hafter : after.entries = before.entries ++ new) (hdealings : t.dealings = s.dealings ++ new)
    (hshift : t.OnShift (some after)) (hrestarts : t.restarts = s.restarts)
    (hcounted : t.phase.isUncounted = s.phase.isUncounted) : t.Roster past (some after) where
  dealings := by
    rw [hdealings, hI.dealings]
    simp [hafter]
  unwound := hI.unwound
  onShift := hshift
  restarts := by rw [hI.restarts, hrestarts, hcounted]

/-- The current shift unwinds, and is past with the leaving of its context. -/
theorem Roster.unwinds {answer : Bool} {calls : List (Line × Reply)} {line : Line}
    (hI : s.Roster past (some ⟨answer, calls, .unwinding line⟩)) (hp : s.phase = .unwinding)
    (hdealings : t.dealings = s.dealings ++ leaving answer) (hp' : t.phase = .unwound)
    (hleft : t.inContext = false) (hrestarts : t.restarts = s.restarts) :
    t.Roster (past ++ [⟨answer, calls, .unwound line⟩]) none where
  dealings := by
    rw [hdealings, hI.dealings]
    simp [Shift.entries_unwound]
  unwound := by
    intro shift hshift
    -- the shifts before had unwound, and this one has now
    obtain hold | hlast := List.mem_append.mp hshift
    · exact hI.unwound shift hold
    · rw [List.mem_singleton.mp hlast]
      exact ⟨line, rfl⟩
  onShift := by simp only [OnShift, hp', hleft, and_self]
  restarts := by
    -- one more is past, and not counted yet
    rw [List.length_append, hI.restarts, hp, hp', hrestarts]
    rfl

/-- **Every access of the worker keeps the roster.** -/
theorem Roster.access (hI : s.Roster past current) (h : Access m s t) :
    ∃ past' current', t.Roster past' current' := by
  have hshift := hI.onShift
  cases h with
  | enter answer hp =>
    simp only [OnShift, hp] at hshift
    -- there was no shift, and a new one begins with the entering
    obtain ⟨rfl, -⟩ := hshift
    refine ⟨past, some ⟨answer, [], .working⟩, ?_, hI.unwound, ⟨[], rfl⟩, ?_⟩
    · rw [dealings_note]
      change s.dealings ++ _ = _
      rw [hI.dealings]
      simp [Shift.entries, Standing.entries, Entry.dealing?]
    · rw [hI.restarts, hp]
      rfl
  | hand hp =>
    simp only [OnShift, hp] at hshift
    obtain ⟨calls, rfl⟩ := hshift
    -- the call is made now, and has yet to end
    exact ⟨past, _, hI.goesOn Shift.entries_calling (dealings_note _ _) ⟨calls, rfl⟩ rfl
      (by rw [hp]; rfl)⟩
  | @endWritten _ loop line bytes hp =>
    simp only [OnShift, hp] at hshift
    obtain ⟨calls, rfl⟩ := hshift
    exact ⟨past, _, hI.goesOn (Shift.entries_returned (.wrote bytes)) (dealings_note _ _)
      (by cases loop <;> exact ⟨_, rfl⟩) rfl (by rw [hp]; cases loop <;> rfl)⟩
  | endFailed fault hp =>
    simp only [OnShift, hp] at hshift
    obtain ⟨calls, rfl⟩ := hshift
    exact ⟨past, _, hI.goesOn (Shift.entries_returned (.failed fault)) (dealings_note _ _)
      ⟨_, rfl⟩ rfl (by rw [hp]; rfl)⟩
  | endUnwound hp =>
    simp only [OnShift, hp] at hshift
    obtain ⟨calls, rfl⟩ := hshift
    -- the shift is not past before the context is left
    exact ⟨past, _, hI.goesOn Shift.entries_unwinding (dealings_note _ _) ⟨calls, _, rfl⟩ rfl
      (by rw [hp]; rfl)⟩
  | leave hp hc =>
    simp only [OnShift, hp, hc] at hshift
    obtain ⟨calls, rfl⟩ := hshift
    exact ⟨past, _, hI.goesOn Shift.entries_done (dealings_note _ _)
      ⟨⟨true, calls, rfl⟩, rfl⟩ rfl (by rw [hp]; rfl)⟩
  | leaveNothing hp hc =>
    simp only [OnShift, hp, hc] at hshift
    obtain ⟨calls, rfl⟩ := hshift
    exact ⟨past, _, hI.goesOn Shift.entries_done (List.append_nil _).symm
      ⟨⟨false, calls, rfl⟩, hc⟩ rfl (by rw [hp]; rfl)⟩
  | unwindLeaving hp hc =>
    simp only [OnShift, hp, hc] at hshift
    obtain ⟨calls, line, rfl⟩ := hshift
    -- the shift is past with this access, and the next one has not begun
    exact ⟨_, none, hI.unwinds hp (dealings_note _ _) rfl rfl rfl⟩
  | unwindLeavingNothing hp hc =>
    simp only [OnShift, hp, hc] at hshift
    obtain ⟨calls, line, rfl⟩ := hshift
    exact ⟨_, none, hI.unwinds hp (List.append_nil _).symm rfl hc rfl⟩
  | countRestart hp =>
    simp only [OnShift, hp] at hshift
    -- the shift that is past and uncounted is counted now
    exact ⟨past, current, hI.stays rfl hshift (by rw [hp]; rfl)⟩
  | restart hp =>
    simp only [OnShift, hp] at hshift
    exact ⟨past, current, hI.stays (dealings_log _ _) hshift (by rw [hp]; rfl)⟩
  | @report _ loop _ _ hp =>
    simp only [OnShift, hp] at hshift
    refine ⟨past, current, hI.stays (dealings_log _ _) ?_ ?_⟩
    · cases loop <;> exact hshift
    · rw [hp]
      cases loop <;> rfl
  | announce hp =>
    simp only [OnShift, hp] at hshift
    exact ⟨past, current, hI.stays (dealings_log _ _) hshift (by rw [hp]; rfl)⟩
  | signal hp _ =>
    simp only [OnShift, hp] at hshift
    exact ⟨past, current, hI.stays ((dealings_note _ _).trans (List.append_nil _)) hshift
      (by rw [hp]; rfl)⟩
  | findStop hp _ | findNoStop hp _ | receiveLine hp _ | receiveStop hp _ | count hp
  | countFailure hp | lock hp _ _ | close hp | drain hp _ | findEmpty hp _ | mark hp
  | signalInVain hp _ =>
    -- the worker goes on in its shift, with nothing that shows in its dealings
    simp only [OnShift, hp] at hshift
    exact ⟨past, current, hI.stays rfl hshift (by rw [hp]; rfl)⟩

/-! ### What the roster counts -/

theorem Roster.enters_eq (hI : s.Roster past current) :
    s.enters = past.length + current.toList.length := by
  rw [enters, hI.dealings, Shift.countP_isEnter_flatMap, List.length_append]

/-- What the phase says of the current shift: whether there is one, which is so but before a worker
has entered its context and once it has unwound, and whether its context is still to be left. -/
theorem OnShift.tally (h : s.OnShift current) :
    current.toList.length + s.phase.isUncounted.toNat + s.phase.isPending.toNat = 1 ∧
    (current.toList.flatMap Shift.entries).countP Entry.isGrant =
      (current.toList.flatMap Shift.entries).countP Entry.isLeave + s.inContext.toNat := by
  cases hp : s.phase with
  -- between two shifts there is none, and the context has been left
  | starting | unwound | restarting =>
    simp only [OnShift, hp] at h
    obtain ⟨rfl, hc⟩ := h
    rw [hc]
    exact ⟨rfl, rfl⟩
  | finished =>
    simp only [OnShift, hp] at h
    -- the last shift is over, with its context left
    obtain ⟨⟨answer, calls, rfl⟩, hc⟩ := h
    simp [Shift.countP_isGrant, Shift.countP_isLeave, Standing.isOver, Phase.isUncounted,
      Phase.isPending, hc]
  | unwinding =>
    simp only [OnShift, hp] at h
    obtain ⟨calls, line, rfl⟩ := h
    simp [Shift.countP_isGrant, Shift.countP_isLeave, Standing.isOver, Phase.isUncounted,
      Phase.isPending]
  | _ =>
    -- the shift goes on, with or without a call of the sink
    simp only [OnShift, hp] at h
    obtain ⟨calls, rfl⟩ := h
    simp [Shift.countP_isGrant, Shift.countP_isLeave, Standing.isOver, Phase.isUncounted,
      Phase.isPending]

/-- The context is entered at the start and after each restart. -/
theorem Roster.enters_add (hI : s.Roster past current) :
    s.enters + s.phase.isPending.toNat = s.restarts + 1 := by
  have henters := hI.enters_eq
  have hrestarts := hI.restarts
  obtain ⟨hlength, -⟩ := hI.onShift.tally
  omega

/-- The context was left as often as it had to be, but for the one time that is still to come. -/
theorem Roster.granted_eq (hI : s.Roster past current) :
    s.granted = s.leaves + s.inContext.toNat := by
  -- the shifts that are past have left what they entered
  have hpast : (past.flatMap Shift.entries).countP Entry.isLeave =
      (past.flatMap Shift.entries).countP Entry.isGrant := by
    refine Shift.countP_isLeave_of_over fun shift hshift => ?_
    obtain ⟨line, hline⟩ := hI.unwound shift hshift
    rw [hline]
    rfl
  obtain ⟨-, hcurrent⟩ := hI.onShift.tally
  rw [granted, leaves, hI.dealings, List.flatMap_append, List.countP_append, List.countP_append,
    hpast, hcurrent, Nat.add_assoc]

end Station

/-! ### Rosters of systems -/

/-- A submission has no dealings with the worker's context, nor with the sink. -/
theorem Submission.Access.shift_eq {s t : Station} {c d : Submission} (h : Access s c t d) :
    t.dealings = s.dealings ∧ t.inContext = s.inContext ∧ t.restarts = s.restarts ∧
      t.phase = s.phase := by
  -- what it notes are lines accepted and refused, which are no dealings
  cases h with
  | post _ => exact ⟨(Station.dealings_note _ _).trans (List.append_nil _), rfl, rfl, rfl⟩
  | countRefusal _ => exact ⟨(Station.dealings_note _ _).trans (List.append_nil _), rfl, rfl, rfl⟩
  | _ => exact ⟨rfl, rfl, rfl, rfl⟩

theorem StopCall.Access.shift_eq {s t : Station} {c d : StopCall} (h : Access s c t d) :
    t.dealings = s.dealings ∧ t.inContext = s.inContext ∧ t.restarts = s.restarts ∧
      t.phase = s.phase := by
  cases h with
  | send =>
    -- the message is noted if it is sent, but is no dealing
    unfold Station.sendStop
    split
    · exact ⟨(Station.dealings_note _ _).trans (List.append_nil _), rfl, rfl, rfl⟩
    · exact ⟨rfl, rfl, rfl, rfl⟩
  | _ => exact ⟨rfl, rfl, rfl, rfl⟩

namespace System

variable {s t : System}

/-- What another thread than the worker does shows neither in the dealings nor in the shift. -/
theorem shift_of_outside {action : Action} (h : Access action s t)
    (hne : ∀ m, action ≠ .worker m) :
    t.station.dealings = s.station.dealings ∧ t.station.inContext = s.station.inContext ∧
      t.station.restarts = s.station.restarts ∧ t.station.phase = s.station.phase := by
  cases h with
  | worker _ => exact absurd rfl (hne _)
  | submission _ h => exact h.shift_eq
  | stop _ h => exact h.shift_eq
  | arrive _ | stats _ _ | timeOut _ => exact ⟨rfl, rfl, rfl, rfl⟩

theorem roster_of_access {action : Action} {past : List Shift} {current : Option Shift}
    (hI : s.station.Roster past current) (h : Access action s t) :
    ∃ past' current', t.station.Roster past' current' := by
  by_cases hworker : ∃ m, action = .worker m
  · obtain ⟨m, rfl⟩ := hworker
    cases h with
    | worker h => exact hI.access h
  · have hne : ∀ m, action ≠ .worker m := fun m hm => hworker ⟨m, hm⟩
    -- an access from outside touches nothing that the roster is about
    obtain ⟨hdealings, hcontext, hrestarts, hphase⟩ := shift_of_outside h hne
    refine ⟨past, current, hI.stays hdealings ?_ (by rw [hrestarts, hphase])⟩
    have hshift := hI.onShift
    unfold Station.OnShift at hshift ⊢
    rwa [hphase, hcontext]

variable {threadName : String} {capacity : Nat}

/-- **Every reachable system has a roster.** -/
theorem Reachable.roster (h : Reachable threadName capacity s) :
    ∃ past current, s.station.Roster past current :=
  h.induction (motive := fun u => ∃ past current, u.station.Roster past current)
    ⟨[], none, Station.Roster.new threadName capacity⟩
    fun _ _ _ ⟨_, _, hI⟩ hact => roster_of_access hI (access_of_act hact)

/-- Once the worker is over there are no more dealings. -/
theorem dealings_of_finished (hp : s.station.phase = .finished) {actions : List Action}
    (hrun : s.run actions = some t) : t.station.dealings = s.station.dealings := by
  -- a worker that is over stays so
  refine (keeps_of_run (motive := fun u => u.station.dealings = s.station.dealings ∧
    u.station.phase = .finished) ?_ ⟨rfl, hp⟩ hrun).1
  rintro u action v ⟨hdealings, hover⟩ hact
  have haccess := access_of_act hact
  cases action with
  | worker m =>
    rw [act, Station.move_eq_none_of_finished hover] at hact
    cases hact
  | _ =>
    obtain ⟨hsame, -, -, hphase⟩ := shift_of_outside haccess fun _ => Action.noConfusion
    exact ⟨hsame.trans hdealings, hphase.trans hover⟩

end System

/-! ### Crews -/

namespace Crew

variable {c d : Crew}

/-- Once all threads are over there are no more dealings. -/
theorem Relayed.dealings_of_finished (hI : c.Relayed)
    (hover : ∀ thread ∈ c.threads, thread.phase = .finished) {actions : List Action}
    (hrun : c.run actions = some d) :
    d.system.station.dealings = c.system.station.dealings := by
  obtain ⟨-, actions', hrun'⟩ := sole_of_run hI hrun
  have hp : c.sole.station.phase = .finished := hover c.current hI.current_mem
  change d.sole.station.dealings = c.sole.station.dealings
  exact System.dealings_of_finished hp hrun'

variable {threadName : String} {capacity : Nat}

/-- **The context is entered and left in balance.** Whatever the context answers and the sink does,
in whichever loop it unwinds, the dealings of the threads with context and sink are one shift after
the other, and each but the last one has unwound and is over; the context has been entered once more
than calls of the sink that unwound were counted, but for a thread that is about to enter it or to
be started, and every such call is counted, but for one that is about to be. When all threads are
over, so is the last shift, the context was left as often as it had to be, and nobody has any
dealings with it or with the sink any more. It is assumed, as everywhere in `Crew`, that each thread
that is started in place of another one can be created. -/
theorem context_balanced (h : Reachable threadName capacity c) :
    (∃ past current,
      c.system.station.dealings = (past ++ current.toList).flatMap Shift.entries ∧
      (∀ shift ∈ past, ∃ line, shift.standing = .unwound line) ∧
      ((∀ thread ∈ c.threads, thread.phase = .finished) →
        ∃ shift, current = some shift ∧ shift.standing = .done)) ∧
    (c.system.station.enters + c.threads.countP (·.phase.isPending) =
        c.system.station.restarts + 1 ∧
      c.system.station.ended.countP (·.2.isUnwound) =
        c.system.station.restarts + c.threads.countP (·.phase.isUnwinding)) ∧
    ((∀ thread ∈ c.threads, thread.phase = .finished) →
      c.system.station.leaves = c.system.station.granted ∧
      ∀ actions d, c.run actions = some d →
        d.system.station.dealings = c.system.station.dealings) := by
  obtain ⟨hrelayed, hsole⟩ := h.sole
  obtain ⟨past, current, hroster⟩ := hsole.roster
  -- the worker of the roster is the last thread
  have hfinished : (∀ thread ∈ c.threads, thread.phase = .finished) →
      (∃ answer calls, current = some ⟨answer, calls, .done⟩) ∧
        c.sole.station.inContext = false := by
    intro hover
    have hshift := hroster.onShift
    have hp : c.sole.station.phase = .finished := hover c.current hrelayed.current_mem
    simpa only [Station.OnShift, hp] using hshift
  -- only the last thread is about to do anything
  have hpending : c.threads.countP (·.phase.isPending) = c.sole.station.phase.isPending.toNat :=
    hrelayed.countP_eq fun thread hp => by rw [hp]; rfl
  have hunwinding : c.threads.countP (·.phase.isUnwinding) =
      c.sole.station.phase.isUnwinding.toNat :=
    hrelayed.countP_eq fun thread hp => by rw [hp]; rfl
  refine ⟨⟨past, current, hroster.dealings, hroster.unwound, fun hover => ?_⟩, ⟨?_, ?_⟩,
    fun hover => ?_⟩
  · obtain ⟨⟨answer, calls, hcurrent⟩, -⟩ := hfinished hover
    exact ⟨_, hcurrent, rfl⟩
  · rw [hpending]
    exact hroster.enters_add
  · rw [hunwinding]
    exact hsole.ledger.restarts.symm
  · obtain ⟨-, hc⟩ := hfinished hover
    -- with the last context left there is nothing still to come
    have hgranted := hroster.granted_eq
    rw [hc] at hgranted
    exact ⟨hgranted.symm, fun actions d hrun => hrelayed.dealings_of_finished hover hrun⟩

/-- The sink unwinds for the first of two lines, out of a context that was not entered, and for the
second one, which is left over when the worker is stopped, out of one that was. The third thread
finds nothing left to do. -/
def relayedShifts : List Action :=
  [.outside (.arrive (.submission (.arriving ⟨"first:1|c"⟩))), .outside (.caller 0),
    .outside (.caller 0), .outside (.caller 0), .outside (.caller 0), .outside (.caller 0),
    .outside (.arrive (.submission (.arriving ⟨"second:1|c"⟩))), .outside (.caller 1),
    .outside (.caller 1), .outside (.caller 1), .outside (.caller 1), .outside (.caller 1),
    .thread 0 (.enter false), .thread 0 .proceed, .thread 0 .receiveLine, .thread 0 .proceed,
    .thread 0 .proceed, .thread 0 (.finish .unwound), .thread 0 .proceed, .thread 0 .proceed,
    .thread 0 .proceed,
    .outside (.arrive (.stop (.raising false))), .outside (.caller 2), .outside (.caller 2),
    .thread 1 (.enter true), .thread 1 .proceed, .thread 1 .proceed, .thread 1 .proceed,
    .thread 1 .proceed, .thread 1 .proceed, .thread 1 .proceed, .thread 1 (.finish .unwound),
    .thread 1 .proceed, .thread 1 .proceed, .thread 1 .proceed,
    .thread 2 (.enter true), .thread 2 .proceed, .thread 2 .proceed, .thread 2 .proceed,
    .thread 2 .proceed, .thread 2 .proceed, .thread 2 .proceed, .thread 2 .proceed,
    .thread 2 .proceed]

/-- In relayed shifts the context is entered three times, and left the two times that it has to
be. -/
theorem relayedShifts_balanced :
    ∃ c, (Crew.new "courier" 2).run relayedShifts = some c ∧
      (∀ thread ∈ c.threads, thread.phase = .finished) ∧ c.system.station.restarts = 2 ∧
      c.system.station.enters = 3 ∧ c.system.station.granted = 2 ∧
      c.system.station.leaves = c.system.station.granted := by
  -- the third thread has come to its end, and the two before it
  have hrun : ((Crew.new "courier" 2).run relayedShifts).any (fun c =>
      c.threads.all (fun thread => thread.phase == .finished) &&
      c.system.station.restarts == 2 && c.system.station.enters == 3 &&
      c.system.station.granted == 2) = true := by decide +kernel
  obtain ⟨c, hc, hall⟩ := exists_of_any hrun
  simp only [Bool.and_eq_true, beq_iff_eq, List.all_eq_true] at hall
  obtain ⟨⟨⟨hover, hrestarts⟩, henters⟩, hgranted⟩ := hall
  obtain ⟨-, -, hbalance⟩ := context_balanced ⟨relayedShifts, hc⟩
  exact ⟨c, hc, hover, hrestarts, henters, hgranted, (hbalance hover).1⟩

end Crew

end MetricCourier
