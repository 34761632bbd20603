import Mathlib.Data.List.Basic
import MetricCourier.Proofs.Delivery.Ledger

/-!
# The calls against the counters

What the callers of a station have got to, against what the station has counted. `System.Books` has
one clause for each of the station's books that callers write in:

* the read side of the lock is held by as many calls as the station says (`readers`);
* the counters of accepted and of refused lines say how many submissions have been counted as the
  one or the other (`submitted`, `dropped`), and the lines accepted are those of the submissions
  counted and of those about to be (`accepted`);
* the journal has the accepted lines in the order in which the calls were admitted, each admitted
  call once (`order`, `nodup`, `mem_admitted`).

The worker writes in none of these books (`Station.Access.accepted_eq` and the lemmas before it),
and a call that makes an access only changes its own place among the calls.
-/

namespace MetricCourier

/-! ### What the worker leaves alone -/

namespace Station

variable {s t : Station} {m : Move}

theorem Access.readers_eq (h : Access m s t) : t.readers = s.readers := by cases h <;> rfl

theorem Access.submitted_eq (h : Access m s t) : t.submitted = s.submitted := by cases h <;> rfl

theorem Access.dropped_eq (h : Access m s t) : t.dropped = s.dropped := by cases h <;> rfl

theorem Access.stopping_eq (h : Access m s t) : t.stopping = s.stopping := by cases h <;> rfl

theorem Access.accepted_eq (h : Access m s t) : t.accepted = s.accepted := by
  cases h <;> simp [accepted, note, log, Entry.accepted?]

/-! ### The room in the queue -/

/-- The queue has room for so many lines and is open to producers. -/
structure Bounded (capacity : Nat) (s : Station) : Prop where
  limit : s.lines.limit = some capacity
  connected : s.lines.connected = true
  size_le : s.waiting.length ≤ capacity

variable {capacity : Nat}

theorem Bounded.isFull_iff (hI : s.Bounded capacity) :
    s.lines.isFull = true ↔ capacity ≤ s.waiting.length := by
  simp only [Channel.isFull, hI.limit, waiting, Queue.size_eq_length, decide_eq_true_eq]

/-- Only the queue matters for its bounds. -/
theorem Bounded.of_lines (hI : s.Bounded capacity) (h : t.lines = s.lines) :
    t.Bounded capacity := by
  obtain ⟨hlimit, hconnected, hsize⟩ := hI
  rw [waiting, ← h] at hsize
  exact ⟨h ▸ hlimit, h ▸ hconnected, hsize⟩

theorem Bounded.access (hI : s.Bounded capacity) (h : Access m s t) : t.Bounded capacity := by
  cases h with
  | receiveLine hp hl | drain hp hl =>
    obtain ⟨hlimit, hconnected⟩ := Channel.frame_of_tryReceive hl
    refine ⟨hlimit.trans hI.limit, hconnected.trans hI.connected, ?_⟩
    -- a line that is taken leaves one line less
    have hsize := hI.size_le
    rw [waiting, Channel.toList_of_tryReceive hl, List.length_cons] at hsize
    exact Nat.le_of_succ_le hsize
  | _ => exact ⟨hI.limit, hI.connected, hI.size_le⟩

/-- A line is posted only where there is room. -/
theorem Bounded.posted (hI : s.Bounded capacity) {line : Line} {lines : Channel Line}
    (hl : s.lines.trySend line = .ok lines) : ({ s with lines } : Station).Bounded capacity := by
  obtain ⟨hlimit, hconnected⟩ := Channel.frame_of_trySend hl
  refine ⟨hlimit.trans hI.limit, hconnected.trans hI.connected, ?_⟩
  -- a full queue would have turned the line away
  have hroom : ¬ s.lines.isFull = true := by
    intro hfull
    rw [(Channel.trySend_eq_error_iff hI.connected).mpr ⟨rfl, hfull⟩] at hl
    cases hl
  rw [hI.isFull_iff] at hroom
  change lines.waiting.toList.length ≤ capacity
  rw [Channel.toList_of_trySend hl, List.length_append, List.length_singleton]
  exact Nat.lt_of_not_le hroom

end Station

/-! ### Where a call stands -/

namespace Submission

/-- Has the line been counted as accepted? -/
def isCountedIn : Submission → Bool
  | departing _ none | returned _ none => true
  | _ => false

/-- Has the line been counted as refused? -/
def isCountedOut : Submission → Bool
  | departing _ (some _) | returned _ (some _) => true
  | _ => false

end Submission

namespace Caller

/-- Is the call one to submit a line? -/
def isSubmission : Caller → Bool
  | submission _ => true
  | _ => false

/-- Does the call hold the read side of the lock? -/
def holdsLock : Caller → Bool
  | submission call => call.holdsLock
  | _ => false

/-- The line that the call has put into the queue. -/
def admitted? : Caller → Option Line
  | submission call => call.admitted?
  | _ => none

/-- Has the call been counted as an accepted line? -/
def isCountedIn : Caller → Bool
  | submission call => call.isCountedIn
  | _ => false

/-- Has the call been counted as a refused line? -/
def isCountedOut : Caller → Bool
  | submission call => call.isCountedOut
  | _ => false

/-- The call has no part in the books: it is not a submission, or it has not begun. -/
structure Outside (call : Caller) : Prop where
  holdsLock : call.holdsLock = false
  admitted? : call.admitted? = none
  isCounting : call.isCounting = false
  isCountedIn : call.isCountedIn = false
  isCountedOut : call.isCountedOut = false

theorem outside_stop (call : StopCall) : (stop call).Outside := ⟨rfl, rfl, rfl, rfl, rfl⟩

theorem outside_stats (call : StatsCall) : (stats call).Outside := ⟨rfl, rfl, rfl, rfl, rfl⟩

theorem outside_of_isNew {call : Caller} (h : call.isNew = true) : call.Outside := by
  cases call with
  | stop c => exact outside_stop c
  | stats c => exact outside_stats c
  | submission c =>
    cases c with
    | arriving line => exact ⟨rfl, rfl, rfl, rfl, rfl⟩
    | _ => cases h

end Caller

/-! ### What a submission writes in the books -/

namespace Submission.Access

variable {s t : Station} {c d : Submission}

/-- A submission counts itself in or out of the lock. -/
theorem readers_add (h : Access s c t d) (hpos : c.holdsLock = true → 0 < s.readers) :
    t.readers + c.holdsLock.toNat = s.readers + d.holdsLock.toNat := by
  cases h with
  | depart refusal =>
    -- the only access that counts down
    have hpos : 0 < s.readers := hpos rfl
    change s.readers - 1 + 1 = s.readers
    omega
  | post hl | arrive hw | _ => rfl

/-- A submission counts its line as accepted once. -/
theorem submitted_add (h : Access s c t d) :
    t.submitted + c.isCountedIn.toNat = s.submitted + d.isCountedIn.toNat := by
  cases h with
  -- a call departs with a refusal or without, and is counted accordingly
  | depart refusal => cases refusal <;> rfl
  | _ => rfl

theorem dropped_add (h : Access s c t d) :
    t.dropped + c.isCountedOut.toNat = s.dropped + d.isCountedOut.toNat := by
  cases h with
  | depart refusal => cases refusal <;> rfl
  | _ => rfl

/-- A line is accepted when it is about to be counted. -/
theorem accepted_add (h : Access s c t d) :
    t.accepted.length + (c.isCountedIn.toNat + (Caller.submission c).isCounting.toNat) =
      s.accepted.length + (d.isCountedIn.toNat + (Caller.submission d).isCounting.toNat) := by
  -- posting accepts the line and leaves it to be counted, so the two are counted together
  cases h with
  | post hl => simp [Station.accepted, Station.note, Entry.accepted?, isCountedIn,
      Caller.isCounting]
  | countRefusal why => simp [Station.accepted, Station.countRefused, Station.note,
      Entry.accepted?, isCountedIn, Caller.isCounting]
  | depart refusal => cases refusal <;> rfl
  | _ => rfl

/-- A submission changes neither the flags nor the messages. -/
theorem frame (h : Access s c t d) :
    t.stopping = s.stopping ∧ t.closed = s.closed ∧ t.stopped = s.stopped ∧
      t.writer = s.writer ∧ t.phase = s.phase ∧ t.stopMessage = s.stopMessage ∧
      t.doneMessage = s.doneMessage := by
  cases h <;> exact ⟨rfl, rfl, rfl, rfl, rfl, rfl, rfl⟩

end Submission.Access

/-- A call to stop the worker writes in none of the producers' books. -/
theorem StopCall.Access.frame {s t : Station} {c d : StopCall} (h : Access s c t d) :
    t.readers = s.readers ∧ t.submitted = s.submitted ∧ t.dropped = s.dropped ∧
      t.lines = s.lines ∧ t.closed = s.closed ∧ t.stopped = s.stopped ∧
      t.writer = s.writer ∧ t.phase = s.phase := by
  cases h with
  | send =>
    -- with room for the message or without, nothing changes but the message
    unfold Station.sendStop
    split <;> exact ⟨rfl, rfl, rfl, rfl, rfl, rfl, rfl, rfl⟩
  | _ => exact ⟨rfl, rfl, rfl, rfl, rfl, rfl, rfl, rfl⟩

/-! ### The books of a system -/

namespace System

/-- The line that the call with this number has put into the queue. -/
def lineOf (s : System) (number : Nat) : Option Line := s.callers[number]?.bind Caller.admitted?

/-- The books that callers write in are in order. -/
structure Books (s : System) : Prop where
  /-- The lock is held by those who hold it. -/
  readers : s.station.readers = s.callers.countP Caller.holdsLock
  submitted : s.station.submitted = s.callers.countP Caller.isCountedIn
  dropped : s.station.dropped = s.callers.countP Caller.isCountedOut
  /-- A line that was accepted has been counted or is about to be. -/
  accepted : s.station.accepted.length =
    s.station.submitted + s.callers.countP Caller.isCounting
  /-- The journal has the lines of the admitted calls, in the order of their admission. -/
  order : s.station.accepted = s.admitted.filterMap s.lineOf
  /-- No call is admitted twice. -/
  nodup : s.admitted.Nodup
  /-- The calls that were admitted are those that have put a line into the queue. -/
  mem_admitted : ∀ i, i ∈ s.admitted ↔ (s.lineOf i).isSome = true

theorem Books.new (threadName : String) (capacity : Nat) :
    (System.new threadName capacity).Books where
  readers := rfl
  submitted := rfl
  dropped := rfl
  accepted := rfl
  order := rfl
  nodup := List.nodup_nil
  mem_admitted _ := by simp [System.new, lineOf]

variable {s t : System}

/-- The books do not tell apart systems that agree on what is written in them. -/
theorem Books.congr (hI : s.Books) (hreaders : t.station.readers = s.station.readers)
    (hsubmitted : t.station.submitted = s.station.submitted)
    (hdropped : t.station.dropped = s.station.dropped)
    (haccepted : t.station.accepted = s.station.accepted) (hadmitted : t.admitted = s.admitted)
    (hcount : ∀ p : Caller → Bool, (∀ call : Caller, call.Outside → p call = false) →
      t.callers.countP p = s.callers.countP p)
    (hline : ∀ i, t.lineOf i = s.lineOf i) : t.Books where
  -- what is counted among the calls is not true of outsiders, so `hcount` applies to all of it
  readers := by rw [hreaders, hI.readers, hcount _ fun _ h => h.holdsLock]
  submitted := by rw [hsubmitted, hI.submitted, hcount _ fun _ h => h.isCountedIn]
  dropped := by rw [hdropped, hI.dropped, hcount _ fun _ h => h.isCountedOut]
  accepted := by rw [haccepted, hI.accepted, hsubmitted, hcount _ fun _ h => h.isCounting]
  order := by rw [haccepted, hI.order, hadmitted, funext hline]
  nodup := hadmitted ▸ hI.nodup
  mem_admitted i := by rw [hadmitted, hline, hI.mem_admitted]

/-- A call outside the books that is replaced by another such call does not show in them. -/
theorem outside_of_set {callers : List Caller} {i : Nat} {a b : Caller}
    (hi : callers[i]? = some a) (ha : a.Outside) (hb : b.Outside) :
    (∀ p : Caller → Bool, (∀ call : Caller, call.Outside → p call = false) →
      (callers.set i b).countP p = callers.countP p) ∧
    ∀ j : Nat, (callers.set i b)[j]?.bind Caller.admitted? = callers[j]?.bind Caller.admitted? := by
  constructor
  · intro p hp
    -- one outsider goes and another comes, and neither is counted
    have hcount := countP_set_add (b := b) p hi
    rwa [hp a ha, hp b hb] at hcount
  · intro j
    -- nor has either of them put a line into the queue
    rw [getElem?_set_bind Caller.admitted? hi]
    split
    · next hij =>
      subst hij
      rw [hi, Option.bind_some, ha.admitted?, hb.admitted?]
    · rfl

/-- A call that arrives does not show in the books. -/
theorem outside_of_append {callers : List Caller} {call : Caller} (h : call.Outside) :
    (∀ p : Caller → Bool, (∀ call : Caller, call.Outside → p call = false) →
      (callers ++ [call]).countP p = callers.countP p) ∧
    ∀ j : Nat, (callers ++ [call])[j]?.bind Caller.admitted? =
      callers[j]?.bind Caller.admitted? := by
  constructor
  · intro p hp
    rw [List.countP_append, List.countP_singleton, hp call h]
    rfl
  · intro j
    by_cases hj : j < callers.length
    · rw [List.getElem?_append_left hj]
    · -- at the end there was nothing, and now there is a call without a line
      have hnone : callers[j]? = none := List.getElem?_eq_none_iff.mpr (Nat.le_of_not_lt hj)
      rw [List.getElem?_append_right (Nat.le_of_not_lt hj), hnone, Option.bind_none,
        List.getElem?_singleton]
      split
      · exact h.admitted?
      · rfl

/-- The order of the admitted calls stays as it is when a call goes on to what it has already put
into the queue. -/
theorem Books.order_of_same (hI : s.Books) (hadmitted : t.admitted = s.admitted)
    (haccepted : t.station.accepted = s.station.accepted)
    (hline : ∀ j, t.lineOf j = s.lineOf j) :
    t.station.accepted = t.admitted.filterMap t.lineOf ∧ t.admitted.Nodup ∧
      ∀ j, j ∈ t.admitted ↔ (t.lineOf j).isSome = true := by
  rw [haccepted, hadmitted, funext hline]
  exact ⟨hI.order, hI.nodup, hI.mem_admitted⟩

/-- A call that posts its line comes last in the order, and was not in it before. -/
theorem Books.order_of_post (hI : s.Books) {i : Nat} {line : Line}
    (hadmitted : t.admitted = s.admitted ++ [i])
    (haccepted : t.station.accepted = s.station.accepted ++ [line])
    (hnone : s.lineOf i = none)
    (hline : ∀ j, t.lineOf j = if i = j then some line else s.lineOf j) :
    t.station.accepted = t.admitted.filterMap t.lineOf ∧ t.admitted.Nodup ∧
      ∀ j, j ∈ t.admitted ↔ (t.lineOf j).isSome = true := by
  have hnew : i ∉ s.admitted := by
    rw [hI.mem_admitted, hnone]
    exact Bool.false_ne_true
  -- the calls admitted before keep their lines, since `i` is not one of them
  have hold : s.admitted.filterMap t.lineOf = s.admitted.filterMap s.lineOf := by
    refine List.filterMap_congr fun j hj => ?_
    have hij : i ≠ j := fun hij => hnew (hij ▸ hj)
    rw [hline, if_neg hij]
  rw [haccepted, hadmitted]
  refine ⟨?_, ?_, ?_⟩
  · -- the lines of the calls before, then the one that was posted
    rw [List.filterMap_append, hold, ← hI.order]
    simp [hline]
  · refine List.nodup_append.mpr ⟨hI.nodup, by simp, fun a ha b hb hab => ?_⟩
    rw [List.mem_singleton.mp hb] at hab
    exact hnew (hab ▸ ha)
  · intro j
    rw [hline, List.mem_append, List.mem_singleton, hI.mem_admitted]
    by_cases hij : i = j
    · subst hij
      simp
    · simp [hij, Ne.symm hij]

/-- What a submission does keeps the order of the admitted calls: posting its line makes it the
newest of them, and nothing else makes a difference. -/
theorem Books.order_of_submission (hI : s.Books) {i : Nat} {c d : Submission}
    (hi : s.callers[i]? = some (.submission c)) (h : Submission.Access s.station c t.station d)
    (hcallers : t.callers = s.callers.set i (.submission d))
    (hadmitted : t.admitted =
      if (Caller.submission d).isCounting then s.admitted ++ [i] else s.admitted) :
    t.station.accepted = t.admitted.filterMap t.lineOf ∧ t.admitted.Nodup ∧
      ∀ j, j ∈ t.admitted ↔ (t.lineOf j).isSome = true := by
  have hline : ∀ j, t.lineOf j = if i = j then d.admitted? else s.lineOf j := by
    intro j
    rw [lineOf, hcallers]
    exact getElem?_set_bind Caller.admitted? hi j
  have hc : s.lineOf i = c.admitted? := by
    rw [lineOf, hi]
    rfl
  obtain ⟨line, rfl, rfl, hposts⟩ | ⟨hcounting, hsame, hposts⟩ := h.posts
  · -- a call that was about to post has put nothing into the queue before
    exact hI.order_of_post hadmitted hposts.accepted hc hline
  · -- the call has put into the queue what it had put there before
    refine hI.order_of_same (by rw [hadmitted, hcounting]; rfl) ?_ ?_
    · rw [hposts.accepted, List.append_nil]
    · intro j
      rw [hline]
      split
      · next hij => rw [hsame, ← hc, hij]
      · rfl

/-- A submission's access keeps the books: what it writes in them is what changes with its own
place among the calls. -/
theorem Books.submission (hI : s.Books) {i : Nat} {c d : Submission}
    (hi : s.callers[i]? = some (.submission c)) (h : Submission.Access s.station c t.station d)
    (hcallers : t.callers = s.callers.set i (.submission d))
    (hadmitted : t.admitted =
      if (Caller.submission d).isCounting then s.admitted ++ [i] else s.admitted) : t.Books := by
  have hcount : ∀ p : Caller → Bool, t.callers.countP p + (p (.submission c)).toNat =
      s.callers.countP p + (p (.submission d)).toNat := by
    intro p
    rw [hcallers]
    exact countP_set_add p hi
  obtain ⟨horder, hnodup, hmem⟩ := hI.order_of_submission hi h hcallers hadmitted
  -- in each count the station and the call change by the same amount
  refine ⟨?_, ?_, ?_, ?_, horder, hnodup, hmem⟩
  · -- a call that lets go of the lock is one of those counted, so the count is not zero
    have hpos : c.holdsLock = true → 0 < s.station.readers := by
      intro hholds
      rw [hI.readers, List.countP_pos_iff]
      exact ⟨_, List.mem_of_getElem? hi, hholds⟩
    have hadd := h.readers_add hpos
    have hset : _ + c.holdsLock.toNat = _ + d.holdsLock.toNat := hcount Caller.holdsLock
    have hbefore := hI.readers
    omega
  · have hadd := h.submitted_add
    have hset : _ + c.isCountedIn.toNat = _ + d.isCountedIn.toNat := hcount Caller.isCountedIn
    have hbefore := hI.submitted
    omega
  · have hadd := h.dropped_add
    have hset : _ + c.isCountedOut.toNat = _ + d.isCountedOut.toNat := hcount Caller.isCountedOut
    have hbefore := hI.dropped
    omega
  · have hadd := h.accepted_add
    have hsubmitted := h.submitted_add
    have hset := hcount Caller.isCounting
    have hbefore := hI.accepted
    omega

/-- **Every access keeps the books in order.** -/
theorem Books.access {action : Action} (hI : s.Books) (h : Access action s t) : t.Books := by
  cases h with
  | worker h =>
    -- the worker writes in other books
    exact hI.congr h.readers_eq h.submitted_eq h.dropped_eq h.accepted_eq rfl (fun _ _ => rfl)
      fun _ => rfl
  | arrive hnew =>
    -- a call that is new holds no lock, has no line and is counted nowhere
    have hcall := Caller.outside_of_isNew hnew
    exact hI.congr rfl rfl rfl rfl rfl (outside_of_append hcall).1 (outside_of_append hcall).2
  | submission hi h => exact hI.submission hi h rfl rfl
  | stop hi h =>
    obtain ⟨hcount, hline⟩ := outside_of_set hi (Caller.outside_stop _) (Caller.outside_stop _)
    -- what it writes, flags and message, is in none of these books
    obtain ⟨hreaders, hsubmitted, hdropped, -⟩ := h.frame
    have haccepted := h.posts.accepted
    rw [List.append_nil] at haccepted
    exact hI.congr hreaders hsubmitted hdropped haccepted rfl hcount hline
  | stats hi _ =>
    obtain ⟨hcount, hline⟩ := outside_of_set hi (Caller.outside_stats _) (Caller.outside_stats _)
    exact hI.congr rfl rfl rfl rfl rfl hcount hline
  | timeOut hi =>
    obtain ⟨hcount, hline⟩ := outside_of_set hi (Caller.outside_stop _) (Caller.outside_stop _)
    exact hI.congr rfl rfl rfl rfl rfl hcount hline

theorem bounded_of_access {capacity : Nat} {action : Action} (hI : s.station.Bounded capacity)
    (h : Access action s t) : t.station.Bounded capacity := by
  cases h with
  | worker h => exact hI.access h
  | submission _ h =>
    -- posting alone adds a line, and it needs room
    cases h with
    | post hl =>
      obtain ⟨hlimit, hconnected, hsize⟩ := hI.posted hl
      exact ⟨hlimit, hconnected, hsize⟩
    | _ => exact ⟨hI.limit, hI.connected, hI.size_le⟩
  | stop _ h =>
    obtain ⟨-, -, -, hlines, -⟩ := h.frame
    exact hI.of_lines hlines
  | arrive _ | stats _ _ | timeOut _ => exact hI

variable {threadName : String} {capacity : Nat}

/-- **The books are in order in every reachable system.** -/
theorem Reachable.books (h : Reachable threadName capacity s) : s.Books :=
  h.induction (Books.new threadName capacity) fun _ _ _ hI hact => hI.access (access_of_act hact)

/-- The queue of a reachable system holds no more lines than its capacity. -/
theorem Reachable.bounded (h : Reachable threadName capacity s) : s.station.Bounded capacity :=
  h.induction ⟨rfl, rfl, Nat.zero_le _⟩ fun _ _ _ hI hact =>
    bounded_of_access hI (access_of_act hact)

end System

end MetricCourier
