import MetricCourier.Delivery.Interleaving
import MetricCourier.Delivery.Pipeline

/-!
# Systems with their sink

In a `System` a call of the sink may end in any way. In a `Wired` system there is a sink that the
worker calls, and a call ends as the sink's own answer to the line says; the sink goes on to its
next state when the call ends. Everything else is as in the system, and does not touch the sink.

What the worker of a pipeline does next is such an access (`act_of_next?`), so a pipeline that works
by itself is a wired system in which only the worker has its turn.
-/

namespace MetricCourier

/-- A system with the sink that its worker calls, in some state. -/
structure Wired (σ : Type) where
  system : System
  sink : σ

namespace Wired

variable {σ : Type}

/-- A new system, with the sink in the given state. -/
def new (threadName : String) (capacity : Nat) (sink : σ) : Wired σ :=
  { system := .new threadName capacity, sink }

/-- The end of the worker's call of the sink, if it ends like this. -/
def finish (wrapped : Sink σ) (call : Call Reply) (w : Wired σ) : Option (Wired σ) :=
  match w.system.station.phase with
  | .sending _ line =>
    let (answer, sink) := wrapped.emit line w.sink
    -- the sink decides how the call ends
    if call = answer then
      (w.system.act (.worker (.finish call))).map fun system => { system, sink }
    else none
  | _ => none

/-- What an access does, if it can be made. -/
def act (wrapped : Sink σ) (w : Wired σ) : Action → Option (Wired σ)
  | .worker (.finish call) => w.finish wrapped call
  | action => (w.system.act action).map fun system => { w with system }

/-- What a sequence of accesses does, if each can be made. -/
def run (wrapped : Sink σ) (w : Wired σ) (actions : List Action) : Option (Wired σ) :=
  actions.foldlM (act wrapped) w

/-- What a sequence of accesses leads to from a new station and the sink in the given state. -/
def Reachable (wrapped : Sink σ) (start : σ) (threadName : String) (capacity : Nat)
    (w : Wired σ) : Prop :=
  ∃ actions, (new threadName capacity start).run wrapped actions = some w

@[simp] theorem run_nil (wrapped : Sink σ) (w : Wired σ) : w.run wrapped [] = some w := rfl

@[simp] theorem run_cons (wrapped : Sink σ) (w : Wired σ) (action : Action)
    (rest : List Action) :
    w.run wrapped (action :: rest) = (w.act wrapped action).bind fun v => v.run wrapped rest :=
  rfl

/-- What the worker of a pipeline does next it does in the wired system of its station and its
sink, whatever calls are under way. -/
theorem act_of_next? {wrapped : Sink σ} {p q : Pipeline σ} (h : p.next? wrapped = some q)
    (callers : List Caller) (admitted : List Nat) :
    ∃ m, act wrapped ⟨⟨p.station, callers, admitted⟩, p.sink⟩ (.worker m) =
      some ⟨⟨q.station, callers, admitted⟩, q.sink⟩ := by
  -- all accesses but the end of a call leave the sink alone on both sides
  have hact : ∀ m station, (∀ call, m ≠ .finish call) → p.station.move m = some station →
      act wrapped ⟨⟨p.station, callers, admitted⟩, p.sink⟩ (.worker m) =
        some ⟨⟨station, callers, admitted⟩, p.sink⟩ := by
    intro m station hne hm
    cases m with
    | finish call => exact absurd rfl (hne call)
    | _ =>
      change ((p.station.move _).map _).map _ = _
      rw [hm]
      rfl
  unfold Pipeline.next? at h
  split at h
  · obtain ⟨station, hm, rfl⟩ := Option.map_eq_some_iff.mp h
    exact ⟨_, hact _ station (fun _ => Station.Move.noConfusion) hm⟩
  · obtain ⟨station, hm, rfl⟩ := Option.map_eq_some_iff.mp h
    cases hl : p.station.move .receiveLine with
    | some r =>
      rw [hl] at hm
      cases hm
      exact ⟨_, hact _ station (fun _ => Station.Move.noConfusion) hl⟩
    | none =>
      rw [hl] at hm
      exact ⟨.receiveStop, hact _ station (fun _ => Station.Move.noConfusion) hm⟩
  · next loop line hp =>
    obtain ⟨gate, _, hcall⟩ := Option.bind_eq_some_iff.mp h
    obtain ⟨station, hm, rfl⟩ := Option.map_eq_some_iff.mp hcall
    -- the pipeline has asked the sink for the answer that the wired system demands
    refine ⟨.finish (wrapped.emit line p.sink).1, ?_⟩
    simp only [act, finish, hp, if_true, System.act, hm, Option.map_some]
  · obtain ⟨station, hm, rfl⟩ := Option.map_eq_some_iff.mp h
    exact ⟨_, hact _ station (fun _ => Station.Move.noConfusion) hm⟩

end Wired

end MetricCourier
