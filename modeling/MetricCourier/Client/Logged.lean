import MetricCourier.Client.Request

/-!
# Clients that are watched

How often a client calls its sink and its handler, and with what, does not show in the states of the
two. So both are watched: the state of each carries a log of the calls made to it, and of what the
sink answered. Whether they are watched makes no difference to the client (`run_logged`).
-/

namespace MetricCourier

/-- A state with a log of what happened to it, the oldest first. -/
structure Logged (σ ε : Type) where
  state : σ
  log : List ε

/-- A call of a sink, and how it ended. -/
inductive SinkCall
  | emit (line : Line) (answer : Call Reply)
  | emitLine (line : Line) (answer : Call Reply)
  | flush (answer : Except IoFault Unit)

namespace SinkCall

/-- The line that the sink was given. -/
def line? : SinkCall → Option Line
  | emit line _ | emitLine line _ => some line
  | flush _ => none

/-- The fault with which the sink answered for a line, as a fault of the library. -/
def fault? : SinkCall → Option Fault
  | emit _ (.returned (.failed fault)) | emitLine _ (.returned (.failed fault)) =>
    some (.ofIo fault)
  | _ => none

end SinkCall

variable {σ η : Type}

/-- The sink with its calls logged. -/
def Sink.logged (sink : Sink σ) : Sink (Logged σ SinkCall) where
  emit line s :=
    let (answer, state) := sink.emit line s.state
    (answer, ⟨state, s.log ++ [.emit line answer]⟩)
  emitLine line s :=
    let (answer, state) := sink.emitLine line s.state
    (answer, ⟨state, s.log ++ [.emitLine line answer]⟩)
  flush s :=
    let (answer, state) := sink.flush s.state
    (answer, ⟨state, s.log ++ [.flush answer]⟩)
  traffic s := sink.traffic s.state

/-- The states without their logs. -/
def World.unlogged (w : World (Logged σ SinkCall) (Logged η Fault)) : World σ η :=
  ⟨w.sink.state, w.handler.state⟩

namespace Client

variable (c : Client σ η)

/-- The client with the calls of its sink and of its handler logged. -/
def logged : Client (Logged σ SinkCall) (Logged η Fault) where
  sink := c.sink.logged
  handle fault h := ⟨c.handle fault h.state, h.log ++ [fault]⟩

/-- Receives the sink's answer for a line. -/
def receive : Call Reply → World σ η → Call (Except Fault Unit) × World σ η
  | .returned (.wrote _), w => (.returned (.ok ()), w)
  | .returned (.failed fault), w => (.returned (.ok ()), c.consume (.ofIo fault) w)
  | .unwound, w => (.unwound, w)

/-- An observation that has a line is handed to the sink, and the sink's answer settles the rest. -/
theorem submit_of_encode {now : Instant} {observation : Observation} {line : Line} {w : World σ η}
    {answer : Call Reply} {state : σ} (hline : observation.encode now = .ok line)
    (hcall : c.sink.emitLine line w.sink = (answer, state)) :
    c.submit now observation w = c.receive answer { w with sink := state } := by
  rw [submit, hline]
  simp only [hcall]
  match answer with
  | .returned (.wrote bytes) => rfl
  | .returned (.failed fault) => rfl
  | .unwound => rfl

variable (w : World (Logged σ SinkCall) (Logged η Fault))

/-- The watched sink does what the sink does, and its log says so. -/
theorem emitLine_logged {line : Line} {answer : Call Reply} {state : σ}
    (h : c.sink.emitLine line w.sink.state = (answer, state)) :
    c.logged.sink.emitLine line w.sink =
      (answer, ⟨state, w.sink.log ++ [.emitLine line answer]⟩) := by
  simp only [logged, Sink.logged, h]

theorem submit_logged (now : Instant) (observation : Observation) :
    (c.logged.submit now observation w).1 = (c.submit now observation w.unlogged).1 ∧
      (c.logged.submit now observation w).2.unlogged =
        (c.submit now observation w.unlogged).2 := by
  -- without a line no sink is called
  cases hline : observation.encode now with
  | error flaw =>
    rw [submit, submit, hline]
    exact ⟨rfl, rfl⟩
  | ok line =>
    cases hcall : c.sink.emitLine line w.sink.state with | mk answer state
    rw [c.logged.submit_of_encode hline (c.emitLine_logged w hcall),
      c.submit_of_encode (w := w.unlogged) hline hcall]
    -- the sink answers alike, and only a failure goes to the handler
    match answer with
    | .returned (.wrote bytes) => exact ⟨rfl, rfl⟩
    | .returned (.failed fault) => exact ⟨rfl, rfl⟩
    | .unwound => exact ⟨rfl, rfl⟩

theorem take_logged (turn : Turn) :
    (c.logged.take turn w).1 = (c.take turn w.unlogged).1 ∧
      (c.logged.take turn w).2.unlogged = (c.take turn w.unlogged).2 := by
  cases turn with
  | request now request =>
    simp only [take, perform_eq, submitConverted]
    cases request.observation with
    | error fault => exact ⟨rfl, rfl⟩
    | ok observation => exact c.submit_logged w now observation
  | flush => exact ⟨rfl, rfl⟩

/-- A watched client answers as the client does and leaves the same states but for the logs. -/
theorem run_logged (turns : List Turn) :
    (c.logged.run turns w).1 = (c.run turns w.unlogged).1 ∧
      (c.logged.run turns w).2.unlogged = (c.run turns w.unlogged).2 := by
  -- by induction on the turns, since the states stay the same but for the logs
  induction turns generalizing w with
  | nil => exact ⟨rfl, rfl⟩
  | cons turn rest ih =>
    obtain ⟨hanswer, hworld⟩ := c.take_logged w turn
    obtain ⟨hanswers, hworlds⟩ := ih (c.logged.take turn w).2
    rw [hworld] at hanswers hworlds
    refine ⟨?_, hworlds⟩
    rw [run_cons, run_cons, hanswer, hanswers]

end Client

end MetricCourier
