import MetricCourier.Delivery.Caller
import MetricCourier.Delivery.Worker

/-!
# Interleavings

A station is used by its worker and by any number of callers at once. A `System` is a station with
the calls under way, and an `Action` is one access of one thread: of the worker, with what it
learns from outside, or of one of the callers. New calls arrive at any time. Locks, flags, counters
and channels are taken to act at once, so that what the threads do together is a sequence of such
accesses in some order; nothing is assumed of that order.

Calls are numbered in the order in which they arrive, and a system keeps the numbers of those whose
lines it accepted, in the order of acceptance. Like the journal of the station this is there to be
read; nothing is decided by it.

`Reachable` holds of the systems that some sequence of accesses leads to from a new station. What
each access keeps holds after every sequence of them (`System.keeps_of_run`), and what holds at the
start as well holds of every reachable system (`System.Reachable.induction`).
-/

namespace MetricCourier

/-- A call from outside, with how far it has got. -/
inductive Caller
  | submission (call : Submission)
  | stop (call : StopCall)
  | stats (call : StatsCall)
  deriving DecidableEq

namespace Caller

/-- The calls that can arrive: nothing of them has been done yet. -/
def isNew : Caller → Bool
  | submission (.arriving _) | stop (.raising _) | stop .lookingAgain | stats .starting => true
  | _ => false

/-- Is this a submission whose line has just been put into the queue? -/
def isCounting : Caller → Bool
  | submission (.counting _) => true
  | _ => false

/-- The next access of a call. -/
def move (s : Station) : Caller → Option (Caller × Station)
  | submission call => (call.move s).map fun (next, t) => (submission next, t)
  | stop call => (call.move s).map fun (next, t) => (stop next, t)
  | stats call => (call.move s).map fun next => (stats next, s)

/-- The end of the time of a call that waits. -/
def timeOut : Caller → Option Caller
  | stop call => call.timeOut.map stop
  | _ => none

end Caller

/-- A station with the calls under way and those that have returned. -/
structure System where
  station : Station
  callers : List Caller := []
  /-- The numbers of the calls whose lines were accepted, in the order of acceptance. -/
  admitted : List Nat := []

/-- One access of one thread. -/
inductive Action
  /-- The worker's next access. -/
  | worker (move : Station.Move)
  /-- A new call arrives. -/
  | arrive (call : Caller)
  /-- The next access of the call with this number. -/
  | caller (number : Nat)
  /-- The time of the call with this number is up. -/
  | timeOut (number : Nat)

/-- What is found to be true of the outcome of a computation that may fail: it did not, and it is
true. -/
theorem exists_of_any {α : Type} {outcome : Option α} {p : α → Bool}
    (h : outcome.any p = true) : ∃ a, outcome = some a ∧ p a = true := by
  cases outcome with
  | none => cases h
  | some a => exact ⟨a, rfl, h⟩

namespace System

/-- A system with a new station and no calls. -/
def new (threadName : String) (capacity : Nat) : System := { station := .new threadName capacity }

/-- What an access does, if it can be made. -/
def act (s : System) : Action → Option System
  | .worker m => (s.station.move m).map fun station => { s with station }
  | .arrive call => if call.isNew then some { s with callers := s.callers ++ [call] } else none
  | .caller i => do
    let call ← s.callers[i]?
    let (next, station) ← call.move s.station
    return {
      station
      callers := s.callers.set i next
      -- a call whose line is about to be counted has just put it into the queue
      admitted := if next.isCounting then s.admitted ++ [i] else s.admitted }
  | .timeOut i => do
    let call ← s.callers[i]?
    let next ← call.timeOut
    return { s with callers := s.callers.set i next }

/-- What a sequence of accesses does, if each can be made. -/
def run (s : System) (actions : List Action) : Option System := actions.foldlM act s

/-- The systems that a sequence of accesses leads to from a new station. -/
def Reachable (threadName : String) (capacity : Nat) (s : System) : Prop :=
  ∃ actions, (new threadName capacity).run actions = some s

@[simp] theorem run_nil (s : System) : s.run [] = some s := rfl

@[simp] theorem run_cons (s : System) (action : Action) (rest : List Action) :
    s.run (action :: rest) = (s.act action).bind fun t => t.run rest := rfl

/-- A sequence of accesses can be cut anywhere. -/
theorem run_append (s : System) (first second : List Action) :
    s.run (first ++ second) = (s.run first).bind fun t => t.run second := by
  simp only [run, List.foldlM_append, Option.bind_eq_bind]

/-- What each access keeps holds after a sequence of them if it held before. -/
theorem keeps_of_run {motive : System → Prop}
    (step : ∀ s action t, motive s → s.act action = some t → motive t) {actions : List Action}
    {s t : System} (hs : motive s) (hrun : s.run actions = some t) : motive t := by
  induction actions generalizing s with
  | nil =>
    rw [run_nil] at hrun
    cases hrun
    exact hs
  | cons action rest ih =>
    rw [run_cons, Option.bind_eq_some_iff] at hrun
    obtain ⟨u, hu, hrest⟩ := hrun
    exact ih (step s action u hs hu) hrest

/-- Whatever holds of a new system and is kept by each access holds of every reachable one. -/
theorem Reachable.induction {threadName : String} {capacity : Nat} {motive : System → Prop}
    (start : motive (new threadName capacity))
    (step : ∀ s action t, motive s → s.act action = some t → motive t) {s : System}
    (h : Reachable threadName capacity s) : motive s := by
  obtain ⟨actions, hrun⟩ := h
  exact keeps_of_run step start hrun

/-- Going on from a reachable system leads to reachable systems. -/
theorem Reachable.run {threadName : String} {capacity : Nat} {actions : List Action}
    {s t : System} (h : Reachable threadName capacity s) (hrun : s.run actions = some t) :
    Reachable threadName capacity t := by
  obtain ⟨before, hbefore⟩ := h
  refine ⟨before ++ actions, ?_⟩
  rw [run_append, hbefore]
  exact hrun

/-- One more access leads from a reachable system to a reachable one. -/
theorem Reachable.act {threadName : String} {capacity : Nat} {action : Action} {s t : System}
    (h : Reachable threadName capacity s) (hact : s.act action = some t) :
    Reachable threadName capacity t := by
  have hrun : s.run [action] = some t := by rw [run_cons, hact]; rfl
  exact h.run hrun

end System

end MetricCourier
