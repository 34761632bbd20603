import MetricCourier.Sink.Spy

/-!
# Watching through a spy

A program that watches what is sent through a spy holds both ends of its channel: lines go in through
the sink, and the receiver gives them out. `Spy.Act` is what is done at either end, and a `Watched` spy
is one with the record of what came of it. What was accepted and what was received are read off that
record, so that they are what the program saw and not what the channel says about itself.
-/

namespace MetricCourier

namespace Spy

/-- What is done with a spy. -/
inductive Act
  /-- Sends a line that stays the caller's. -/
  | emit (line : Line)
  /-- Sends a line that is handed over. -/
  | emitLine (line : Line)
  /-- Takes up to so many lines from the receiver, without waiting for any. -/
  | receive (n : Nat)
  /-- Lets go of the receiver; there is nothing to take after that. -/
  | letGo
  deriving DecidableEq

/-- What came of it. -/
inductive Outcome
  /-- The sink answered for a line. -/
  | answered (line : Line) (call : Call Reply)
  /-- The receiver gave out these lines. -/
  | received (lines : List Line)
  /-- The receiver is gone. -/
  | gone

/-- The line that the sink took, if it took one. -/
def Outcome.accepted? : Outcome → Option Line
  | answered line (.returned (.wrote _)) => some line
  | _ => none

/-- The lines that the receiver gave out. -/
def Outcome.lines : Outcome → List Line
  | received lines => lines
  | _ => []

/-- Does something with a spy. -/
def act (spy : Spy) : Act → Outcome × Spy
  | .emit line =>
    let (call, next) := sink.emit line spy
    (.answered line call, next)
  | .emitLine line =>
    let (call, next) := sink.emitLine line spy
    (.answered line call, next)
  | .receive n =>
    let (lines, next) := spy.receiveUpTo n
    (.received lines, next)
  | .letGo => (.gone, spy.disconnect)

end Spy

/-- A spy with what came of everything that was done with it, the oldest first. -/
structure Watched where
  spy : Spy
  history : List Spy.Outcome := []

namespace Watched

/-- A new spy, with a channel of the given limit. -/
def opened (limit : Option Nat) : Watched := { spy := .new limit }

/-- Notes an outcome, and the spy as it is now. -/
def note (w : Watched) (result : Spy.Outcome × Spy) : Watched where
  spy := result.2
  history := w.history ++ [result.1]

/-- Does something with the spy. -/
def act (w : Watched) (act : Spy.Act) : Watched := w.note (w.spy.act act)

/-- Does one thing after the other. -/
def run (w : Watched) (acts : List Spy.Act) : Watched := acts.foldl act w

/-- The lines that the sink took, in order. -/
def accepted (w : Watched) : List Line := w.history.filterMap Spy.Outcome.accepted?

/-- The lines that the receiver gave out, in order. -/
def received (w : Watched) : List Line := w.history.flatMap Spy.Outcome.lines

/-- The lines that the receiver has not given out yet. -/
def waiting (w : Watched) : List Line := w.spy.waiting.toList

variable (w : Watched) (result : Spy.Outcome × Spy)

@[simp] theorem accepted_note :
    (w.note result).accepted = w.accepted ++ result.1.accepted?.toList := by
  cases h : result.1.accepted? <;> simp [accepted, note, h]

@[simp] theorem received_note : (w.note result).received = w.received ++ result.1.lines := by
  simp [received, note]

end Watched

end MetricCourier
