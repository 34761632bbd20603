import MetricCourier.Delivery.Interleaving

/-!
# Crews of threads

The worker of a station is a role rather than a thread. A thread whose call of the sink unwinds
counts that, logs it and starts another thread, which begins from the start, and only then is it
over itself. In a `System` that is a phase of the one worker that goes back to the start. A `Crew`
is a station with all the threads that were ever started to work at it, each with its own phase and
its own context to leave, and with no word on whose turn it is: any of them may make its next access
at any time.

The thread that is started in place of another one is assumed to be created: `Crew.work` always adds
it. So what is shown of crews is about runs in which no thread is refused.

A thread makes the accesses of `Station.move`, on the station as it is for that thread
(`Station.manned`).
-/

namespace MetricCourier

/-- A thread that was started to work at a station. -/
structure Thread where
  phase : Phase := .starting
  /-- Does it have to leave the context? -/
  inContext : Bool := false
  deriving DecidableEq

namespace Station

/-- The station with the given thread as its worker. -/
def manned (thread : Thread) (s : Station) : Station :=
  { s with phase := thread.phase, inContext := thread.inContext }

/-- The thread that works at the station. -/
def thread (s : Station) : Thread := { phase := s.phase, inContext := s.inContext }

end Station

/-- A station with the calls from outside and the threads that were started to work at it, in the
order in which they were. Phase and context of the station itself are those of the thread that was
last to make an access. -/
structure Crew where
  system : System
  threads : List Thread := [{}]

namespace Crew

/-- One access of a thread of a crew, or one from outside. -/
inductive Action
  /-- The next access of the thread with this number. -/
  | thread (number : Nat) (move : Station.Move)
  /-- An access of a call from outside. -/
  | outside (action : MetricCourier.Action)

/-- A crew with a new station, no calls and one thread. -/
def new (threadName : String) (capacity : Nat) : Crew := { system := .new threadName capacity }

/-- The next access of the thread with the given number. A thread that logs that it unwound starts
another one, and is over. -/
def work (c : Crew) (number : Nat) (m : Station.Move) : Option Crew := do
  let thread ← c.threads[number]?
  -- the phase that the station has may be that of another thread
  let station ← (c.system.station.manned thread).move m
  return {
    system := { c.system with station }
    threads :=
      if thread.phase = .restarting then
        c.threads.set number { thread with phase := .finished } ++ [{}]
      else c.threads.set number station.thread }

/-- What an access does, if it can be made; from outside the worker makes none. -/
def act (c : Crew) : Action → Option Crew
  | .thread number m => c.work number m
  | .outside (.worker _) => none
  | .outside action => (c.system.act action).map fun system => { c with system }

/-- What a sequence of accesses does, if each can be made. -/
def run (c : Crew) (actions : List Action) : Option Crew := actions.foldlM act c

/-- The crews that a sequence of accesses leads to from a new station. -/
def Reachable (threadName : String) (capacity : Nat) (c : Crew) : Prop :=
  ∃ actions, (new threadName capacity).run actions = some c

@[simp] theorem run_nil (c : Crew) : c.run [] = some c := rfl

@[simp] theorem run_cons (c : Crew) (action : Action) (rest : List Action) :
    c.run (action :: rest) = (c.act action).bind fun d => d.run rest := rfl

end Crew

end MetricCourier
