import MetricCourier.Channel.Queue

/-!
# Channels that are never waited for

A channel passes messages from any number of senders to one receiver. Sending never waits: it
fails when the receiver is gone, and otherwise when as many messages wait as the channel holds. A
channel that holds none passes a message only to a receiver that is waiting for it at that moment,
and since receiving never waits either, it accepts nothing.

When the receiver goes, the messages still waiting go with it.

What sending and receiving do is said on the list of the waiting messages: `toList_of_trySend`,
`toList_of_tryReceive`, `tryReceive_eq_none_iff` and `toList_receiveUpTo`.
-/

namespace MetricCourier

/-- A channel with its waiting messages. -/
structure Channel (α : Type) where
  /-- How many messages may wait; any number may in a channel without a limit. -/
  limit : Option Nat
  waiting : Queue α := .empty
  /-- Is the receiver still there? -/
  connected : Bool := true

/-- Why a message was not accepted. -/
inductive SendFault
  | full
  | disconnected
  deriving DecidableEq

namespace Channel

variable {α : Type}

/-- The empty channel with the given limit. -/
def new (limit : Option Nat) : Channel α := { limit }

instance : Inhabited (Channel α) := ⟨new none⟩

/-- Do as many messages wait as the channel holds? -/
def isFull (c : Channel α) : Bool :=
  match c.limit with
  | none => false
  | some n => n ≤ c.waiting.size

/-- Sends a message without waiting. -/
def trySend (a : α) (c : Channel α) : Except SendFault (Channel α) :=
  if !c.connected then .error .disconnected
  else if c.isFull then .error .full
  else .ok { c with waiting := c.waiting.push a }

/-- Takes the oldest waiting message, if there is one. -/
def tryReceive (c : Channel α) : Option (α × Channel α) :=
  c.waiting.pop?.map fun (a, rest) => (a, { c with waiting := rest })

/-- Takes up to so many waiting messages, the oldest first. -/
def receiveUpTo : Nat → Channel α → List α × Channel α
  | 0, c => ([], c)
  | n + 1, c =>
    match c.tryReceive with
    | none => ([], c)
    | some (a, rest) =>
      let (as, last) := receiveUpTo n rest
      (a :: as, last)

/-- The receiver goes, and with it the waiting messages. -/
def disconnect (c : Channel α) : Channel α := { c with waiting := .empty, connected := false }

variable {c d : Channel α} {a : α}

/-- A message that was accepted waits behind all others. -/
theorem toList_of_trySend (h : c.trySend a = .ok d) :
    d.waiting.toList = c.waiting.toList ++ [a] := by
  unfold trySend at h
  split at h
  · cases h
  · split at h
    · cases h
    · cases h
      exact Queue.toList_push a c.waiting

/-- Sending changes neither the limit nor the receiver. -/
theorem frame_of_trySend (h : c.trySend a = .ok d) :
    d.limit = c.limit ∧ d.connected = c.connected := by
  unfold trySend at h
  split at h
  · cases h
  · split at h <;> cases h
    exact ⟨rfl, rfl⟩

/-- A channel with a receiver turns a message away exactly when it is full. -/
theorem trySend_eq_error_iff (hc : c.connected = true) {why : SendFault} :
    c.trySend a = .error why ↔ why = .full ∧ c.isFull = true := by
  unfold trySend
  cases hf : c.isFull <;> simp [hc, eq_comm]

/-- A message that was received was the oldest, and the others stay in order. -/
theorem toList_of_tryReceive (h : c.tryReceive = some (a, d)) :
    c.waiting.toList = a :: d.waiting.toList := by
  simp only [tryReceive, Option.map_eq_some_iff] at h
  obtain ⟨⟨b, rest⟩, hpop, heq⟩ := h
  cases heq
  exact Queue.toList_of_pop? hpop

/-- Receiving changes neither the limit nor the receiver. -/
theorem frame_of_tryReceive (h : c.tryReceive = some (a, d)) :
    d.limit = c.limit ∧ d.connected = c.connected := by
  simp only [tryReceive, Option.map_eq_some_iff] at h
  obtain ⟨_, _, heq⟩ := h
  cases heq
  exact ⟨rfl, rfl⟩

/-- Nothing is received exactly when nothing waits. -/
theorem tryReceive_eq_none_iff : c.tryReceive = none ↔ c.waiting.toList = [] := by
  simp only [tryReceive, Option.map_eq_none_iff, Queue.pop?_eq_none_iff]

/-- The oldest messages are taken, and the others wait on. -/
theorem toList_receiveUpTo (n : Nat) (c : Channel α) :
    (c.receiveUpTo n).1 = c.waiting.toList.take n ∧
      (c.receiveUpTo n).2.waiting.toList = c.waiting.toList.drop n := by
  -- by induction on how many are taken, each time the oldest of those left
  induction n generalizing c with
  | zero => exact ⟨rfl, rfl⟩
  | succ n ih =>
    rw [receiveUpTo]
    cases h : c.tryReceive with
    | none =>
      rw [tryReceive_eq_none_iff.mp h]
      exact ⟨rfl, rfl⟩
    | some taken =>
      obtain ⟨a, rest⟩ := taken
      rw [toList_of_tryReceive h]
      exact ⟨congrArg (a :: ·) (ih rest).1, (ih rest).2⟩

/-- Taking messages changes neither the limit nor the receiver. -/
theorem frame_receiveUpTo (n : Nat) (c : Channel α) :
    (c.receiveUpTo n).2.limit = c.limit ∧ (c.receiveUpTo n).2.connected = c.connected := by
  -- as before, one message after the other
  induction n generalizing c with
  | zero => exact ⟨rfl, rfl⟩
  | succ n ih =>
    rw [receiveUpTo]
    cases h : c.tryReceive with
    | none => exact ⟨rfl, rfl⟩
    | some taken =>
      obtain ⟨a, rest⟩ := taken
      obtain ⟨hlimit, hconnected⟩ := frame_of_tryReceive h
      exact ⟨(ih rest).1.trans hlimit, (ih rest).2.trans hconnected⟩

/-- A channel is full when it has a limit and that many messages wait. -/
theorem isFull_iff :
    c.isFull = true ↔ ∃ n, c.limit = some n ∧ n ≤ c.waiting.toList.length := by
  rw [isFull, Queue.size_eq_length]
  cases c.limit with
  | none => simp
  | some n => simp

/-- A channel has room when fewer messages wait than it holds, if there is a limit at all. -/
theorem isFull_eq_false_iff :
    c.isFull = false ↔ ∀ n, c.limit = some n → c.waiting.toList.length < n := by
  rw [← Bool.not_eq_true, isFull_iff]
  constructor
  · intro h n hn
    exact Nat.lt_of_not_le fun hle => h ⟨n, hn, hle⟩
  · rintro h ⟨n, hn, hle⟩
    exact Nat.not_le_of_lt (h n hn) hle

end Channel

end MetricCourier
