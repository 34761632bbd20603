/-!
# First in, first out

Lines wait in queues that may hold more than a hundred thousand of them, so both ends and the size
of a queue are at hand: the older part of the queue is a list whose head leaves next, the newer
part a list whose head came last, and the size is counted along.

`Queue.toList` is the queue as a list, the oldest first. What the operations do is said through
it: `toList_push`, `pop?_eq_none_iff` and `toList_of_pop?`.
-/

namespace MetricCourier

/-- A queue that is entered at one end and left at the other. -/
structure Queue (α : Type) where
  /-- The older part, the oldest first. -/
  front : List α := []
  /-- The newer part, the newest first. -/
  back : List α := []
  /-- How many are waiting. -/
  size : Nat := 0
  size_eq : size = front.length + back.length := by rfl

namespace Queue

variable {α : Type}

/-- The queue in which nobody waits. -/
def empty : Queue α := {}

instance : Inhabited (Queue α) := ⟨empty⟩

/-- Those who wait, the oldest first. -/
def toList (q : Queue α) : List α := q.front ++ q.back.reverse

/-- Lets one more in at the end. -/
def push (a : α) (q : Queue α) : Queue α where
  front := q.front
  back := a :: q.back
  size := q.size + 1
  size_eq := by rw [q.size_eq, List.length_cons, Nat.add_assoc]

/-- Lets the oldest out. -/
def pop? (q : Queue α) : Option (α × Queue α) :=
  match hf : q.front with
  | a :: rest =>
    some (a, { q with
      front := rest
      size := q.size - 1
      size_eq := by simp only [q.size_eq, hf, List.length_cons]; omega })
  | [] =>
    match hb : q.back.reverse with
    | [] => none
    | a :: rest =>
      some (a, {
        front := rest
        size := q.size - 1
        size_eq := by
          have := congrArg List.length hb
          simp only [List.length_reverse, List.length_cons] at this
          simp [q.size_eq, hf, this] })

/-- The size counts those who wait. -/
theorem size_eq_length (q : Queue α) : q.size = q.toList.length := by
  simp [toList, q.size_eq]

@[simp] theorem toList_empty : (empty : Queue α).toList = [] := rfl

@[simp] theorem toList_push (a : α) (q : Queue α) : (q.push a).toList = q.toList ++ [a] := by
  simp [toList, push]

@[simp] theorem size_push (a : α) (q : Queue α) : (q.push a).size = q.size + 1 := rfl

/-- The one who leaves was the oldest, and the others stay in order. -/
theorem toList_of_pop? {q r : Queue α} {a : α} (h : q.pop? = some (a, r)) :
    q.toList = a :: r.toList := by
  unfold pop? at h
  split at h
  · -- the older part has somebody, or the newer part is turned around
    next b rest hf =>
    simp only [Option.some.injEq, Prod.mk.injEq] at h
    obtain ⟨rfl, rfl⟩ := h
    simp [toList, hf]
  · next hf =>
    split at h
    · simp at h
    · next b rest hb =>
      simp only [Option.some.injEq, Prod.mk.injEq] at h
      obtain ⟨rfl, rfl⟩ := h
      simp [toList, hf, hb]

/-- Nobody leaves exactly when nobody waits. -/
theorem pop?_eq_none_iff {q : Queue α} : q.pop? = none ↔ q.toList = [] := by
  unfold pop?
  split
  · -- nobody leaves only if both parts are empty
    next hf => simp [toList, hf]
  · next hf =>
    split
    · next hb => simp [toList, hf, hb]
    · next hb => simp [toList, hf, hb]

/-- Letting one out makes the queue shorter by one. -/
theorem size_of_pop? {q r : Queue α} {a : α} (h : q.pop? = some (a, r)) : q.size = r.size + 1 := by
  rw [size_eq_length, size_eq_length, toList_of_pop? h, List.length_cons]

end Queue

end MetricCourier
