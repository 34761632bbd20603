import MetricCourier.Delivery.Pipeline
import MetricCourier.Proofs.Delivery.Crew
import MetricCourier.Proofs.Delivery.Submitting

/-!
# Which lines are accepted

There are four ways to give a line to a pipeline: to submit it with or without an answer, and to
emit it, as a line that stays the caller's or as one that is handed over, to the sink that the
pipeline is. Each is taken as a whole here, with nobody else doing anything meanwhile.

All four do the same to the pipeline (`Pipeline.Admission.alike`). The flags are looked at before the
room in the queue, so a pipeline that is past accepting lines says so also if its queue is full; and
since its worker never lets go of the queue, nobody is ever told that it did
(`Crew.admission_decided`).
-/

namespace MetricCourier

/-- The fault tells which refusal it was, if need be by its text. -/
theorem Refusal.fault_injective : Function.Injective Refusal.fault := by
  intro why other h
  cases why <;> cases other <;> first | rfl | simp [Refusal.fault] at h

namespace Pipeline

variable {σ : Type}

/-- The line is accepted: it waits behind the others and is counted, and but for the journal, which
tells of it, nothing else changes. -/
structure Admits (line : Line) (p q : Pipeline σ) : Prop where
  waiting : q.station.waiting = p.station.waiting ++ [line]
  channel : q.station.lines.limit = p.station.lines.limit ∧
    q.station.lines.connected = p.station.lines.connected
  rest : q = { p with station := { p.station with
    lines := q.station.lines
    submitted := p.station.submitted + 1
    journal := .accepted line :: p.station.journal } }

/-- The line is turned away, which is counted, and but for the journal, which tells why, nothing
else changes. -/
def Rejects (line : Line) (why : Refusal) (p q : Pipeline σ) : Prop :=
  q = { p with station := { p.station with
    dropped := p.station.dropped + 1
    journal := .refused line why :: p.station.journal } }

/-- A pipeline with a queue of this capacity accepts the line or says why not, whichever way the
line is given to it. -/
structure Admission (wrapped : Sink σ) (capacity : Nat) (line : Line) (p : Pipeline σ) : Prop where
  /-- All four ways change the pipeline alike. -/
  alike : p.submit line = (p.trySubmit line).2 ∧
    ((asSink wrapped).emit line p).2 = (p.trySubmit line).2 ∧
    ((asSink wrapped).emitLine line p).2 = (p.trySubmit line).2
  /-- The line is accepted exactly if the pipeline is neither stopping nor closed and has room. -/
  accepted_iff : (p.trySubmit line).1 = .ok () ↔
    p.station.stopping = false ∧ p.station.closed = false ∧ p.station.waiting.length < capacity
  /-- The line is turned away like this exactly if the pipeline is stopping or closed. -/
  stopped_iff :
    (p.trySubmit line).1 = .error (.described .deliveryFailure "delivery pipeline is stopped") ↔
      p.station.stopping = true ∨ p.station.closed = true
  /-- The line is turned away like this exactly if the pipeline is neither and its queue is full. -/
  full_iff :
    (p.trySubmit line).1 = .error (.described .queueOverflow "delivery queue is full") ↔
      p.station.stopping = false ∧ p.station.closed = false ∧ p.station.waiting.length = capacity
  /-- No line is turned away for want of a receiver. -/
  connected :
    (p.trySubmit line).1 ≠ .error (.described .deliveryFailure "delivery queue is disconnected")
  /-- A line that is accepted waits, and as a sink the pipeline has written all its bytes. -/
  accepted : (p.trySubmit line).1 = .ok () → p.Admits line (p.trySubmit line).2 ∧
    ((asSink wrapped).emit line p).1 =
      .returned (.wrote (UInt64.ofNat line.text.utf8ByteSize)) ∧
    ((asSink wrapped).emitLine line p).1 =
      .returned (.wrote (UInt64.ofNat line.text.utf8ByteSize))
  /-- A line that is turned away is counted as that, and the fault comes back out of what the
  pipeline answers as a sink. -/
  refused : ∀ fault, (p.trySubmit line).1 = .error fault →
    (∃ why, fault = why.fault ∧ p.Rejects line why (p.trySubmit line).2) ∧
    ∃ failure, ((asSink wrapped).emit line p).1 = .returned (.failed failure) ∧
      ((asSink wrapped).emitLine line p).1 = .returned (.failed failure) ∧
      Fault.ofIo failure = fault

variable {wrapped : Sink σ} {capacity : Nat} {line : Line} {p : Pipeline σ}

/-- A station that goes on, with room in its queue. -/
theorem Admission.of_posted {lines : Channel Line} (hr : p.station.refuses = false)
    (hroom : p.station.waiting.length < capacity)
    (hl : p.station.lines.trySend line = .ok lines)
    (heq : p.station.submit line =
      (.ok (), ({ p.station with lines }.note (.accepted line)).countAccepted)) :
    Admission wrapped capacity line p := by
  obtain ⟨hclosed, hstopping⟩ := Bool.or_eq_false_iff.mp hr
  have htry : p.trySubmit line = (.ok (), { p with
      station := ({ p.station with lines }.note (.accepted line)).countAccepted }) := by
    rw [trySubmit, heq]
    rfl
  -- as a sink it gives the same answer in other words
  have hemit : p.emit line = (.returned (.wrote line.bytes), (p.trySubmit line).2) := by
    rw [emit, htry]
  refine ⟨⟨rfl, congrArg Prod.snd hemit, congrArg Prod.snd hemit⟩, ?_, ?_, ?_, ?_, ?_, ?_⟩
  · rw [htry]
    exact ⟨fun _ => ⟨hstopping, hclosed, hroom⟩, fun _ => rfl⟩
  · rw [htry, hstopping, hclosed]
    exact ⟨nofun, nofun⟩
  · rw [htry]
    constructor
    · exact nofun
    · -- a queue with room is not full
      intro hfull
      exact absurd hfull.2.2 (Nat.ne_of_lt hroom)
  · rw [htry]
    exact nofun
  · intro _
    refine ⟨?_, congrArg Prod.fst hemit, congrArg Prod.fst hemit⟩
    rw [htry]
    exact ⟨Channel.toList_of_trySend hl, Channel.frame_of_trySend hl, rfl⟩
  · rw [htry]
    exact nofun

/-- A station that is past accepting lines, or whose queue is full. -/
theorem Admission.of_refused {why : Refusal}
    (hreason : why = .stopped ∧ p.station.refuses = true ∨
      why = .full ∧ p.station.refuses = false ∧ p.station.waiting.length = capacity)
    (heq : p.station.submit line = (.error why, p.station.countRefused line why)) :
    Admission wrapped capacity line p := by
  have htry : p.trySubmit line =
      (.error why.fault, { p with station := p.station.countRefused line why }) := by
    rw [trySubmit, heq]
    rfl
  have hemit : p.emit line = (.returned (.failed why.fault.toIo), (p.trySubmit line).2) := by
    rw [emit, htry]
  -- which fault is answered tells the reason, and the reason tells the flags and the room
  have hanswer : ∀ other : Refusal,
      (p.trySubmit line).1 = .error other.fault ↔ why = other := by
    intro other
    rw [htry, Except.error.injEq, Refusal.fault_injective.eq_iff]
  have hflags : p.station.refuses = true ↔
      p.station.stopping = true ∨ p.station.closed = true := by
    rw [Station.refuses, Bool.or_eq_true, or_comm]
  have hopen : p.station.refuses = false ↔
      p.station.stopping = false ∧ p.station.closed = false := by
    rw [Station.refuses, Bool.or_eq_false_iff, and_comm]
  refine ⟨⟨rfl, congrArg Prod.snd hemit, congrArg Prod.snd hemit⟩, ?_, ?_, ?_, ?_, ?_, ?_⟩
  · rw [htry]
    constructor
    · intro hok
      cases hok
    · intro hroom
      -- it would have to be open and have room, which rules out either reason
      have hr := hopen.mpr ⟨hroom.1, hroom.2.1⟩
      obtain ⟨-, hr'⟩ | ⟨-, -, hfull⟩ := hreason
      · rw [hr] at hr'
        cases hr'
      · exact absurd hfull (Nat.ne_of_lt hroom.2.2)
  · refine (hanswer .stopped).trans ?_
    rw [← hflags]
    obtain ⟨rfl, hr⟩ | ⟨rfl, hr, -⟩ := hreason
    · exact iff_of_true rfl hr
    · exact iff_of_false (by decide) (Bool.eq_false_iff.mp hr)
  · refine (hanswer .full).trans ?_
    rw [← and_assoc, ← hopen]
    obtain ⟨rfl, hr⟩ | ⟨rfl, hr, hfull⟩ := hreason
    · refine iff_of_false (by decide) fun hboth => ?_
      exact Bool.eq_false_iff.mp hboth.1 hr
    · exact iff_of_true rfl ⟨hr, hfull⟩
  · -- that is neither of the two reasons
    intro hgone
    have hwhy := (hanswer .disconnected).mp hgone
    subst hwhy
    obtain ⟨hwhy, -⟩ | ⟨hwhy, -⟩ := hreason <;> cases hwhy
  · intro hok
    rw [htry] at hok
    cases hok
  · -- the fault is that of the reason, and comes back out of the answer as a sink
    intro fault hfault
    have hwhy : fault = why.fault := by
      rw [htry] at hfault
      exact (Except.error.inj hfault).symm
    refine ⟨⟨why, hwhy, by rw [htry]; rfl⟩, why.fault.toIo, congrArg Prod.fst hemit,
      congrArg Prod.fst hemit, ?_⟩
    rw [hwhy]
    exact why.ofIo_toIo_fault

end Pipeline

namespace Crew

variable {σ : Type} {c : Crew} {threadName : String} {capacity : Nat}

/-- **Whether a line is accepted is decided by the flags and the room in the queue alone**, and it is
decided the same way whichever way the line is given to the pipeline. This holds of every pipeline
that producers, threads, the sink and those who stop it lead to, and of every line, also one without
any text. -/
theorem admission_decided (h : Reachable threadName capacity c) (wrapped : Sink σ) (line : Line)
    (p : Pipeline σ) (hp : p.station = c.system.station) :
    p.Admission wrapped capacity line := by
  obtain ⟨-, hsole⟩ := h.sole
  -- the queue of the pipeline is that of a reachable system, and so has its bound
  have hlines : p.station.lines = c.sole.station.lines := by
    rw [hp]
    rfl
  have hbounded : p.station.Bounded capacity := hsole.bounded.of_lines hlines
  obtain ⟨hr, hroom, lines, hl, heq⟩ | ⟨why, hreason, heq⟩ := hbounded.submit_eq line
  · exact .of_posted hr hroom hl heq
  · exact .of_refused hreason heq

/-- A line without text fills a queue for one line. -/
def filledQueue : List Action :=
  [.outside (.arrive (.submission (.arriving ⟨""⟩))), .outside (.caller 0), .outside (.caller 0),
    .outside (.caller 0), .outside (.caller 0), .outside (.caller 0)]

/-- The next line finds no room; once the pipeline was asked to stop, it is told of that instead,
though the queue is still full. -/
theorem filledQueue_admission :
    ∃ c d, (new "courier" 1).run filledQueue = some c ∧
      c.run [.outside (.arrive (.stop (.raising false))), .outside (.caller 1)] = some d ∧
      c.system.station.waiting = [⟨""⟩] ∧ d.system.station.waiting = [⟨""⟩] ∧
      (Pipeline.trySubmit ⟨"é:1|c"⟩ { station := c.system.station, sink := () }).1 =
        .error (.described .queueOverflow "delivery queue is full") ∧
      (Pipeline.trySubmit ⟨"é:1|c"⟩ { station := d.system.station, sink := () }).1 =
        .error (.described .deliveryFailure "delivery pipeline is stopped") := by
  -- the station is looked at twice along one run, before and after it is asked to stop
  have hrun : ((new "courier" 1).run filledQueue).any (fun c =>
      !c.system.station.stopping && !c.system.station.closed &&
      c.system.station.waiting == [⟨""⟩] &&
      (c.run [.outside (.arrive (.stop (.raising false))), .outside (.caller 1)]).any (fun d =>
        d.system.station.stopping && d.system.station.waiting == [⟨""⟩])) = true := by
    decide +kernel
  obtain ⟨c, hc, hall⟩ := exists_of_any hrun
  simp only [Bool.and_eq_true, Bool.not_eq_true', beq_iff_eq] at hall
  obtain ⟨⟨⟨hgoing, hopen⟩, hfull⟩, hall⟩ := hall
  obtain ⟨d, hd, hall⟩ := exists_of_any hall
  simp only [Bool.and_eq_true, beq_iff_eq] at hall
  obtain ⟨hstopping, hstill⟩ := hall
  have hreachable : Reachable "courier" 1 c := ⟨filledQueue, hc⟩
  have hbefore := admission_decided hreachable Sink.discard ⟨"é:1|c"⟩
    { station := c.system.station, sink := () } rfl
  have hafter := admission_decided (hreachable.run hd) Sink.discard ⟨"é:1|c"⟩
    { station := d.system.station, sink := () } rfl
  refine ⟨c, d, hc, hd, hfull, hstill, hbefore.full_iff.mpr ⟨hgoing, hopen, ?_⟩,
    hafter.stopped_iff.mpr (Or.inl hstopping)⟩
  change c.system.station.waiting.length = 1
  rw [hfull]
  rfl

end Crew

end MetricCourier
