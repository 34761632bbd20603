import MetricCourier.Client.Logged

/-!
# What becomes of a request

A request can go wrong in three places, and a fault from each goes to one party only. A value that
cannot be converted and an observation that cannot be encoded are returned, and nobody else hears
of the request. A line that the sink does not take is for the handler, and the request is as good as
one that went through.

Sink and handler are watched throughout (`Client.logged`), so that a call that is not made is as
visible as one that is. For requests and flushes in a row the logs are followed turn by turn
(`Relayed`).
-/

namespace MetricCourier

/-- The line that a turn has for the sink, if any. -/
def Client.Turn.line? : Client.Turn → Option Line
  | .request now asked => (asked.line now).toOption
  | .flush => none

namespace Request

variable {request : Request} {now : Instant}

theorem observation_eq_error {fault : Fault} (h : request.observation = .error fault) :
    fault = overflowFault := by
  -- a value fails to convert only if it is a span that a word does not hold
  have htimer : ∀ (value : TimerValue) (observe : UInt64 → Observation),
      value.toWord.map observe = .error fault → fault = overflowFault := by
    intro value observe hvalue
    cases value with
    | milliseconds n => cases hvalue
    | span s =>
      rw [TimerValue.toWord] at hvalue
      split at hvalue
      · cases hvalue
      · exact (Except.error.inj hvalue).symm
  cases request with
  | time _ value | timeWithTags _ value _ | timeWithRate _ value _ | timeWithOptions _ value _ =>
    exact htimer value _ h
  | _ => cases h

/-- There is no line because of the value or because of the observation. -/
theorem line_eq_error_iff {fault : Fault} :
    request.line now = .error fault ↔
      request.observation = .error fault ∨
        ∃ observation flaw, request.observation = .ok observation ∧
          observation.encode now = .error flaw ∧ flaw.fault = fault := by
  unfold line
  cases request.observation with
  | error _ => simp
  | ok observation => cases hflaw : observation.encode now <;> simp [hflaw]

theorem line_eq_ok_iff {l : Line} :
    request.line now = .ok l ↔
      ∃ observation, request.observation = .ok observation ∧ observation.encode now = .ok l := by
  unfold line
  cases request.observation with
  | error _ => simp
  | ok observation => cases hline : observation.encode now <;> simp [hline]

theorem kind_of_line_eq_error {fault : Fault} (h : request.line now = .error fault) :
    fault.kind = .invalidObservation := by
  obtain hvalue | ⟨_, flaw, _, _, rfl⟩ := line_eq_error_iff.mp h
  · rw [observation_eq_error hvalue]
    rfl
  · rfl

end Request

namespace Client

variable {σ η : Type} (c : Client σ η)

/-! ### One request -/

theorem perform_of_error {now : Instant} {request : Request} {fault : Fault} (w : World σ η)
    (h : request.line now = .error fault) :
    c.perform now request w = (.returned (.error fault), w) := by
  rw [perform_eq]
  obtain hvalue | ⟨observation, flaw, hobservation, hflaw, rfl⟩ := Request.line_eq_error_iff.mp h
  · rw [hvalue]
    rfl
  · -- the value was converted, and the encoder has turned the observation down
    rw [hobservation, submitConverted, submit, id, hflaw]

theorem perform_of_line {now : Instant} {request : Request} {line : Line} {w : World σ η}
    {answer : Call Reply} {state : σ} (h : request.line now = .ok line)
    (hcall : c.sink.emitLine line w.sink = (answer, state)) :
    c.perform now request w = c.receive answer { w with sink := state } := by
  obtain ⟨observation, hobservation, hline⟩ := Request.line_eq_ok_iff.mp h
  rw [perform_eq, hobservation]
  exact c.submit_of_encode hline hcall

/-! ### Turn by turn -/

/-- Between two worlds these calls were made to the sink, and the handler was given the faults among
the answers to them and nothing else, all in this order. -/
structure Relayed (w w' : World (Logged σ SinkCall) (Logged η Fault)) (calls : List SinkCall) :
    Prop where
  sink : w'.sink.log = w.sink.log ++ calls
  handler : w'.handler.log = w.handler.log ++ calls.filterMap SinkCall.fault?

namespace Relayed

variable {w w' w'' : World (Logged σ SinkCall) (Logged η Fault)} {calls calls' : List SinkCall}

theorem refl (w : World (Logged σ SinkCall) (Logged η Fault)) : Relayed w w [] :=
  ⟨(List.append_nil _).symm, (List.append_nil _).symm⟩

theorem trans (h : Relayed w w' calls) (h' : Relayed w' w'' calls') :
    Relayed w w'' (calls ++ calls') := by
  constructor
  · rw [h'.sink, h.sink, List.append_assoc]
  · rw [h'.handler, h.handler, List.append_assoc, List.filterMap_append]

end Relayed

/-- Whatever the sink answered, the handler is given just the fault in its answer. -/
theorem relayed_receive (w : World (Logged σ SinkCall) (Logged η Fault)) (line : Line)
    (answer : Call Reply) (state : σ) :
    Relayed w
      (c.logged.receive answer
        { w with sink := ⟨state, w.sink.log ++ [.emitLine line answer]⟩ }).2
      [.emitLine line answer] := by
  -- only a fault goes on to the handler
  match answer with
  | .returned (.wrote bytes) => exact ⟨rfl, (List.append_nil _).symm⟩
  | .returned (.failed fault) => exact ⟨rfl, rfl⟩
  | .unwound => exact ⟨rfl, (List.append_nil _).symm⟩

/-- In one turn the sink is given the line of the turn, if it has one. -/
theorem relayed_take (turn : Turn) (w : World (Logged σ SinkCall) (Logged η Fault)) :
    ∃ calls, Relayed w (c.logged.take turn w).2 calls ∧
      calls.filterMap SinkCall.line? = turn.line?.toList := by
  cases turn with
  | request now request =>
    cases hline : request.line now with
    | error fault =>
      -- without a line there is no call, and nothing is relayed
      refine ⟨[], ?_, ?_⟩
      · rw [take, c.logged.perform_of_error w hline]
        exact .refl w
      · rw [Turn.line?, hline]
        rfl
    | ok line =>
      cases hcall : c.sink.emitLine line w.sink.state with | mk answer state
      -- with a line there is the one call that gives it to the sink
      refine ⟨[.emitLine line answer], ?_, ?_⟩
      · rw [take, c.logged.perform_of_line hline (c.emitLine_logged w hcall)]
        exact c.relayed_receive w line answer state
      · rw [Turn.line?, hline]
        rfl
  | flush => exact ⟨[.flush (c.sink.flush w.sink.state).1], ⟨rfl, (List.append_nil _).symm⟩, rfl⟩

/-- By induction on the turns. -/
theorem relayed_run (turns : List Turn) (w : World (Logged σ SinkCall) (Logged η Fault)) :
    ∃ calls, Relayed w (c.logged.run turns w).2 calls ∧
      calls.filterMap SinkCall.line? = turns.filterMap Turn.line? := by
  induction turns generalizing w with
  | nil => exact ⟨[], .refl w, rfl⟩
  | cons turn rest ih =>
    obtain ⟨calls, hcalls, hline⟩ := c.relayed_take turn w
    obtain ⟨calls', hcalls', hlines⟩ := ih (c.logged.take turn w).2
    refine ⟨calls ++ calls', hcalls.trans hcalls', ?_⟩
    rw [List.filterMap_append, hline, hlines]
    -- the lines of the first turn, none or one, come before those of the others
    cases h : turn.line? with
    | none => rw [List.filterMap_cons_none h, Option.toList_none, List.nil_append]
    | some line => rw [List.filterMap_cons_some h, Option.toList_some, List.singleton_append]

/-! ### All or nothing -/

/-- **Requests are all or nothing**, for every sink and handler and whatever they did before. A
request without a line returns the fault that kept it from having one, and neither sink nor handler
is called. A request with a line makes one call of the sink, with that line. If the sink wrote it or
failed, the request is answered with success, and the handler is called once with the fault if the
sink failed. A flush makes one call of the sink, and its fault is returned. Over requests and
flushes in a row the sink is given the lines of the requests, and the handler the faults of the
sink, in order. None of this is an effect of being watched. -/
theorem all_or_nothing :
    (∀ turns w, (c.logged.run turns w).1 = (c.run turns w.unlogged).1 ∧
      (c.logged.run turns w).2.unlogged = (c.run turns w.unlogged).2) ∧
    (∀ now request w fault, request.line now = .error fault →
      fault.kind = .invalidObservation ∧
      c.logged.perform now request w = (.returned (.error fault), w)) ∧
    (∀ now request w line, request.line now = .ok line →
      ∃ answer state, c.sink.emitLine line w.sink.state = (answer, state) ∧
        ∃ called : Logged σ SinkCall,
          called = ⟨state, w.sink.log ++ [.emitLine line answer]⟩ ∧
          (∀ bytes, answer = .returned (.wrote bytes) →
            c.logged.perform now request w = (.returned (.ok ()), ⟨called, w.handler⟩)) ∧
          (∀ fault, answer = .returned (.failed fault) →
            c.logged.perform now request w = (.returned (.ok ()),
              ⟨called, c.handle (.ofIo fault) w.handler.state, w.handler.log ++ [.ofIo fault]⟩)) ∧
          (answer = .unwound →
            c.logged.perform now request w = (.unwound, ⟨called, w.handler⟩))) ∧
    (∀ w, ∃ answer state, c.sink.flush w.sink.state = (answer, state) ∧
      c.logged.flush w =
        (answer.mapError .ofIo, ⟨⟨state, w.sink.log ++ [.flush answer]⟩, w.handler⟩)) ∧
    (∀ turns w, ∃ calls, (c.logged.run turns w).2.sink.log = w.sink.log ++ calls ∧
      calls.filterMap SinkCall.line? = turns.filterMap Turn.line? ∧
      (c.logged.run turns w).2.handler.log =
        w.handler.log ++ calls.filterMap SinkCall.fault?) := by
  refine ⟨fun turns w => c.run_logged w turns, ?_, ?_, ?_, ?_⟩
  · intro now request w fault h
    exact ⟨Request.kind_of_line_eq_error h, c.logged.perform_of_error w h⟩
  · intro now request w line h
    cases hcall : c.sink.emitLine line w.sink.state with | mk answer state
    -- what the request comes to depends on the one answer of the sink
    have hperform := c.logged.perform_of_line h (c.emitLine_logged w hcall)
    refine ⟨answer, state, rfl, _, rfl, ?_, ?_, ?_⟩
    · rintro bytes rfl
      exact hperform
    · rintro fault rfl
      exact hperform
    · rintro rfl
      exact hperform
  · intro w
    exact ⟨_, _, rfl, rfl⟩
  · intro turns w
    obtain ⟨calls, hcalls, hlines⟩ := c.relayed_run turns w
    exact ⟨calls, hcalls.sink, hlines, hcalls.handler⟩

/-- A sink that nothing gets through. -/
def stalled : Sink Unit where
  emit _ s := (.returned (.failed IoKind.timedOut), s)
  flush s := (.error IoKind.timedOut, s)

/-- A sink and a handler that nobody has called yet. -/
def fresh : World (Logged Unit SinkCall) (Logged (List Fault) Fault) := ⟨⟨(), []⟩, ⟨[], []⟩⟩

/-- An age, which has more milliseconds than a word holds. -/
def age : TimerValue := .span ⟨18446744073709551615, 0⟩

/-- Nothing in this row goes well. -/
def mishaps : List Turn :=
  [.request ⟨0⟩ (.time "age" age), .request ⟨0⟩ (.increment "hits"), .flush]

/-- The age comes back to the caller, the time-out goes to the handler, and of the two only the hit
has reached the sink. -/
theorem stalled_routed :
    ∃ line calls state,
      (Request.time "age" age).line ⟨0⟩ = .error overflowFault ∧
      (Request.increment "hits").line ⟨0⟩ = .ok line ∧
      (recording stalled).logged.perform ⟨0⟩ (.time "age" age) fresh =
        (.returned (.error overflowFault), fresh) ∧
      (recording stalled).logged.perform ⟨0⟩ (.increment "hits") fresh =
        (.returned (.ok ()), state) ∧
      state.handler.log = [.io IoKind.timedOut] ∧
      ((recording stalled).logged.run mishaps fresh).2.sink.log = calls ∧
      calls.filterMap SinkCall.line? = [line] := by
  -- the age is too long for a word, and that is found before there is an observation
  have hage : (Request.time "age" age).line ⟨0⟩ = .error overflowFault := by
    have hoverflow : age.toWord = .error overflowFault := by
      rw [age, TimerValue.toWord, if_neg (by decide +kernel)]
    exact Request.line_eq_error_iff.mpr (.inl (by rw [Request.observation, hoverflow]; rfl))
  have hhits : (Request.increment "hits").line ⟨0⟩ = .ok ⟨"hits:1|c"⟩ :=
    Request.line_eq_ok_iff.mpr
      ⟨.metric (.count "hits" 1 {}), rfl, Observation.encode_eq_ok_iff.mpr (by decide +kernel)⟩
  obtain ⟨-, hrejected, haccepted, -, hrow⟩ := all_or_nothing (recording stalled)
  obtain ⟨answer, state, hanswer, called, -, -, hfailed, -⟩ := haccepted _ _ fresh _ hhits
  cases hanswer
  obtain ⟨calls, hcalls, hlines, -⟩ := hrow mishaps fresh
  refine ⟨_, calls, _, hage, hhits, (hrejected _ _ fresh _ hage).2, hfailed _ rfl, rfl, hcalls, ?_⟩
  rw [hlines]
  simp only [mishaps, List.filterMap, Turn.line?, hage, hhits, Except.toOption]

end Client

end MetricCourier
