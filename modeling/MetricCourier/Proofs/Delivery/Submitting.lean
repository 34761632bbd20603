import MetricCourier.Proofs.Delivery.Lifecycle

/-!
# Submitting a line

What becomes of a line that is submitted, from the submission's side. If nobody disturbs it, the
line waits behind the others and is counted as submitted, or it is counted as dropped
(`Station.Bounded.submit_eq`, `Station.submit_cases`). Among other calls the submission stays in its
place with its line, and once it has returned it does not change any more
(`System.submission_of_access`). It is turned away for two reasons only, each of them true when it
is (`Reachable.refused_because`), and it returns if it is left alone while the worker does not hold
the lock (`Submission.alone_returns`).
-/

namespace MetricCourier

/-- The fault of a refusal comes back out of the input/output fault that it was sent through. -/
theorem Refusal.ofIo_toIo_fault (why : Refusal) : Fault.ofIo why.fault.toIo = why.fault := by
  cases why <;> rfl

namespace Station

variable {s : Station} {capacity : Nat}

theorem Bounded.room_of_trySend (hI : s.Bounded capacity) {line : Line} {lines : Channel Line}
    (hl : s.lines.trySend line = .ok lines) : s.waiting.length < capacity := by
  have hsize : lines.waiting.toList.length ≤ capacity := (hI.posted hl).size_le
  rwa [Channel.toList_of_trySend hl, List.length_append, List.length_singleton] at hsize

theorem Bounded.full_of_trySend (hI : s.Bounded capacity) {line : Line} {why : SendFault}
    (hl : s.lines.trySend line = .error why) : why = .full ∧ s.waiting.length = capacity := by
  obtain ⟨hwhy, hfull⟩ := (Channel.trySend_eq_error_iff hI.connected).mp hl
  exact ⟨hwhy, Nat.le_antisymm hI.size_le (hI.isFull_iff.mp hfull)⟩

/-- Submitting a line either posts and counts it, or counts that it is turned away, because the
station is past accepting lines or because there is no room. -/
theorem Bounded.submit_eq (hI : s.Bounded capacity) (line : Line) :
    (s.refuses = false ∧ s.waiting.length < capacity ∧
      ∃ lines, s.lines.trySend line = .ok lines ∧
        s.submit line = (.ok (), ({ s with lines }.note (.accepted line)).countAccepted)) ∨
    ∃ why, (why = .stopped ∧ s.refuses = true ∨
        why = .full ∧ s.refuses = false ∧ s.waiting.length = capacity) ∧
      s.submit line = (.error why, s.countRefused line why) := by
  unfold submit
  cases hr : s.refuses with
  | true => exact Or.inr ⟨.stopped, Or.inl ⟨rfl, rfl⟩, rfl⟩
  | false =>
    rw [if_neg Bool.false_ne_true]
    -- past the flags it depends on the queue
    cases hl : s.lines.trySend line with
    | ok lines =>
      have hpost : s.post line = .ok ({ s with lines }.note (.accepted line)) :=
        post_eq_ok_iff.mpr ⟨lines, hl, rfl⟩
      rw [hpost]
      exact Or.inl ⟨rfl, hI.room_of_trySend hl, lines, rfl, rfl⟩
    | error why =>
      obtain ⟨rfl, hlength⟩ := hI.full_of_trySend hl
      have hpost : s.post line = .error .full := by rw [post, hl]
      rw [hpost]
      exact Or.inr ⟨.full, Or.inr ⟨rfl, rfl, hlength⟩, rfl⟩

/-- What submitting a line comes to: it waits behind the others and is counted as submitted, or it
is counted as dropped, because the station is past accepting lines or because there is no room. -/
theorem submit_cases (hI : s.Bounded capacity) (line : Line) :
    ((s.submit line).1 = .ok () ∧ s.refuses = false ∧ s.waiting.length < capacity ∧
      (s.submit line).2.waiting = s.waiting ++ [line] ∧
      (s.submit line).2.submitted = s.submitted + 1 ∧ (s.submit line).2.dropped = s.dropped) ∨
    ∃ why, (s.submit line).1 = .error why ∧
      (why = .stopped ∧ s.refuses = true ∨
        why = .full ∧ s.refuses = false ∧ s.waiting.length = capacity) ∧
      (s.submit line).2.waiting = s.waiting ∧
      (s.submit line).2.submitted = s.submitted ∧ (s.submit line).2.dropped = s.dropped + 1 := by
  -- each field of the outcome is read off the equation for the case
  obtain ⟨hr, hroom, lines, hl, heq⟩ | ⟨why, hreason, heq⟩ := hI.submit_eq line
  · rw [heq]
    exact Or.inl ⟨rfl, hr, hroom, Channel.toList_of_trySend hl, rfl, rfl⟩
  · rw [heq]
    exact Or.inr ⟨why, rfl, hreason, rfl, rfl, rfl⟩

end Station

/-! ### Among other calls -/

namespace Submission

def line : Submission → Line
  | arriving line | checking line | posting line | counting line | refusing line _
  | departing line _ | returned line _ => line

/-- The second submission is the first one at a later time: its line is the same, and if it had
returned, it is the same altogether. -/
structure Becomes (c d : Submission) : Prop where
  line : d.line = c.line
  returned : ∀ line refusal, c = .returned line refusal → d = c

theorem Becomes.refl (c : Submission) : Becomes c c := ⟨rfl, fun _ _ _ => rfl⟩

theorem Access.becomes {s t : Station} {c d : Submission} (h : Access s c t d) : Becomes c d := by
  cases h <;> exact ⟨rfl, nofun⟩

/-- How many accesses a submission has yet to make. -/
def left : Submission → Nat
  | arriving _ => 5
  | checking _ => 4
  | posting _ => 3
  | counting _ | refusing _ _ => 2
  | departing _ _ => 1
  | returned _ _ => 0

theorem left_le (c : Submission) : c.left ≤ 5 := by
  cases c <;> simp [left]

/-- A submission that has not returned has a next access, unless the worker holds the lock. -/
theorem exists_access {s : Station} (hw : s.writer = false) {c : Submission} (hc : 0 < c.left) :
    ∃ d t, c.move s = some (d, t) ∧ d.left < c.left ∧ d.line = c.line ∧ t.writer = false := by
  cases c with
  | arriving line =>
    exact ⟨checking line, { s with readers := s.readers + 1 }, by rw [move, hw]; rfl,
      Nat.lt_succ_self 4, rfl, hw⟩
  | checking line =>
    -- the flags decide which way it goes
    cases hr : s.refuses with
    | true => exact ⟨refusing line .stopped, s, by rw [move, hr]; rfl, by simp [left], rfl, hw⟩
    | false => exact ⟨posting line, s, by rw [move, hr]; rfl, by simp [left], rfl, hw⟩
  | posting line =>
    -- posting may fail, but it always leads on, and leaves the lock alone
    cases hpost : s.post line with
    | ok posted =>
      have hw' : posted.writer = false := by
        obtain ⟨lines, -, rfl⟩ := Station.post_eq_ok_iff.mp hpost
        exact hw
      exact ⟨counting line, posted, by rw [move, hpost], Nat.lt_succ_self 2, rfl, hw'⟩
    | error why => exact ⟨refusing line why, s, by rw [move, hpost], Nat.lt_succ_self 2, rfl, hw⟩
  | counting line => exact ⟨_, _, rfl, Nat.lt_succ_self 1, rfl, hw⟩
  | refusing line why => exact ⟨_, _, rfl, Nat.lt_succ_self 1, rfl, hw⟩
  | departing line refusal => exact ⟨_, _, rfl, Nat.lt_succ_self 0, rfl, hw⟩
  | returned line refusal => exact absurd hc (Nat.lt_irrefl 0)

/-- A submission that nobody disturbs returns. -/
theorem alone_returns {s : Station} (hw : s.writer = false) {c : Submission} {n : Nat}
    (hn : c.left ≤ n) : ∃ refusal, (c.alone n s).1 = .returned c.line refusal := by
  induction n generalizing c s with
  | zero =>
    cases c with
    | returned line refusal => exact ⟨refusal, rfl⟩
    | _ => cases hn
  | succ n ih =>
    -- each access leaves fewer to be made, so that they run out before the fuel does
    by_cases hc : 0 < c.left
    · obtain ⟨d, t, hmove, hleft, hline, hw'⟩ := exists_access hw hc
      rw [alone, hmove, ← hline]
      exact ih hw' (by omega)
    · cases c with
      | returned line refusal => exact ⟨refusal, rfl⟩
      | _ => exact absurd (Nat.succ_pos _) hc

end Submission

namespace System

variable {s t : System}

/-- Whatever happens, a submission stays in its place. -/
theorem submission_of_access {action : MetricCourier.Action} (h : Access action s t) {i : Nat}
    {c : Submission} (hi : s.callers[i]? = some (.submission c)) :
    ∃ d, t.callers[i]? = some (.submission d) ∧ Submission.Becomes c d := by
  have hlt : i < s.callers.length := (List.getElem?_eq_some_iff.mp hi).1
  cases h with
  | worker _ => exact ⟨c, hi, .refl c⟩
  | arrive _ => exact ⟨c, by rw [List.getElem?_append_left hlt, hi], .refl c⟩
  | stop hj _ | stats hj _ | timeOut hj =>
    exact ⟨c, getElem?_set_of_ne hi hj Caller.noConfusion, .refl c⟩
  | @submission _ j _ d _ hj h =>
    -- it is this submission that goes on, or another one
    by_cases hji : j = i
    · subst hji
      rw [hi] at hj
      cases hj
      exact ⟨d, List.getElem?_set_self hlt, h.becomes⟩
    · exact ⟨c, by rw [List.getElem?_set_ne hji, hi], .refl c⟩

/-- What a submission does alone is a run of the system. -/
theorem exists_alone (n : Nat) {i : Nat} {c : Submission}
    (hi : s.callers[i]? = some (.submission c)) :
    ∃ m t, s.run (List.replicate m (.caller i)) = some t ∧
      t.station = (c.alone n s.station).2 ∧
      t.callers[i]? = some (.submission (c.alone n s.station).1) := by
  induction n generalizing s c with
  | zero => exact ⟨0, s, rfl, rfl, hi⟩
  | succ n ih =>
    cases hmove : c.move s.station with
    | none =>
      rw [Submission.alone, hmove]
      exact ⟨0, s, rfl, rfl, hi⟩
    | some next =>
      obtain ⟨d, station⟩ := next
      have hlt : i < s.callers.length := (List.getElem?_eq_some_iff.mp hi).1
      -- its next access is one of the system, whatever that does to the order of admission
      have hact : ∃ admitted, s.act (.caller i) =
          some { station, callers := s.callers.set i (.submission d), admitted } := by
        refine ⟨if (Caller.submission d).isCounting then s.admitted ++ [i] else s.admitted, ?_⟩
        simp only [act, Option.bind_eq_bind, hi, Option.bind_some, Caller.move, hmove,
          Option.map_some]
        rfl
      obtain ⟨admitted, hact⟩ := hact
      obtain ⟨m, t, hrun, hstation, hcaller⟩ :=
        ih (s := { station, callers := s.callers.set i (.submission d), admitted })
          (List.getElem?_set_self hlt)
      refine ⟨m + 1, t, ?_, ?_, ?_⟩
      · rw [List.replicate_succ, run_cons, hact]
        exact hrun
      · rw [hstation, Submission.alone, hmove]
      · rw [hcaller, Submission.alone, hmove]

variable {threadName : String} {capacity : Nat}

theorem Lifecycle.refuses_iff (hI : s.Lifecycle) :
    s.station.refuses = true ↔ s.station.stopping = true := by
  rw [Station.refuses, Bool.or_eq_true]
  exact ⟨fun h => h.elim hI.flags.closed id, Or.inr⟩

/-- A submission is turned away for no other reason than that the station was asked to stop or that
its queue is full. -/
theorem Reachable.refused_because (h : Reachable threadName capacity s) {i : Nat} {line : Line}
    {why : Refusal} (hact : s.act (.caller i) = some t)
    (ht : t.callers[i]? = some (.submission (.refusing line why))) :
    why = .stopped ∧ s.station.stopping = true ∨
      why = .full ∧ s.station.waiting.length = capacity := by
  have haccess := access_of_act hact
  cases haccess with
  | @submission _ _ c d _ hi h' =>
    have hlt : i < s.callers.length := (List.getElem?_eq_some_iff.mp hi).1
    rw [List.getElem?_set_self hlt] at ht
    cases ht
    cases h' with
    | refuse hr => exact Or.inl ⟨rfl, h.lifecycle.refuses_iff.mp hr⟩
    | turnAway _ hpost =>
      -- a post fails for want of room, since the receiver is never gone
      refine Or.inr ?_
      cases hl : s.station.lines.trySend line with
      | ok lines => simp [Station.post, hl] at hpost
      | error fault =>
        obtain ⟨rfl, hlength⟩ := h.bounded.full_of_trySend hl
        rw [Station.post, hl] at hpost
        cases hpost
        exact ⟨rfl, hlength⟩
  | @stop _ _ _ _ _ hi _ | @stats _ _ _ _ hi _ =>
    have hlt : i < s.callers.length := (List.getElem?_eq_some_iff.mp hi).1
    rw [List.getElem?_set_self hlt] at ht
    cases ht

end System

end MetricCourier
