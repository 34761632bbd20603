import MetricCourier.Client.Logged
import MetricCourier.Proofs.Delivery.Conservation

/-!
# Flushing a pipeline

To flush a sink is to have it send what it has put aside. A pipeline puts lines aside: those that
wait in its queue, and one that its worker has taken and not handed over yet
(`Station.backlog`). A flush that answers that all is well should leave no line behind that was
accepted before, and pass the flush on to the wrapped sink (`Pipeline.Flushed`).

As a sink a pipeline has no flush of its own, though, and does what a sink without one does. So
whoever flushes it, directly or through a client, is told at once that all is well, and nothing is
sent: what has been handed over is what the worker had handed over anyway, and the wrapped sink is
not flushed, now or at any time (`Wired.flush_passes_nothing_on`).

The wrapped sink is watched here, so that the calls made to it show in a log.
-/

namespace MetricCourier

/-- The lines that were accepted and have not been handed to the sink, in order. -/
def Station.backlog (s : Station) : List Line := s.phase.held.toList ++ s.waiting

/-- What was accepted was handed over or is in the backlog, in this order. -/
theorem Station.Ledger.accepted_eq {s : Station} (hI : s.Ledger) :
    s.accepted = s.handed ++ s.backlog := by
  rw [hI.order, backlog, List.append_assoc]

/-- All that was accepted has been handed over exactly if there is no backlog. -/
theorem Station.Ledger.handed_iff {s : Station} (hI : s.Ledger) :
    s.accepted <+: s.handed ↔ s.backlog = [] := by
  rw [hI.accepted_eq]
  constructor
  · -- what was handed over is no longer than itself, so nothing can follow it
    intro h
    have hlength := h.length_le
    rw [List.length_append] at hlength
    exact List.length_eq_zero_iff.mp (by omega)
  · intro h
    exact ⟨[], by rw [h, List.append_nil, List.append_nil]⟩

namespace Pipeline

variable {σ : Type}

/-- What a flush promises that leads from one state of a pipeline to another, when it answers that
all is well: the lines that were accepted before it have been handed to the wrapped sink, which was
flushed as well. -/
structure Flushed (p q : Pipeline (Logged σ SinkCall)) : Prop where
  handed : p.station.accepted <+: q.station.handed
  passedOn : ∃ calls answer, q.sink.log = p.sink.log ++ calls ∧ .flush answer ∈ calls

end Pipeline

/-- Calls for lines that ended like this, as a sink that is watched has them in its log. -/
def SinkCall.ofEnded (ended : List (Line × Call Reply)) : List SinkCall :=
  ended.map fun e => .emit e.1 e.2

namespace Wired

variable {σ : Type} {wrapped : Sink σ} {start : σ} {threadName : String} {capacity : Nat}
  {w : Wired (Logged σ SinkCall)}

/-- **The wrapped sink is given lines and nothing else.** Its log has the calls that have ended. -/
theorem Reachable.log_eq (h : Reachable wrapped.logged ⟨start, []⟩ threadName capacity w) :
    System.Reachable threadName capacity w.system ∧
      w.sink.log = SinkCall.ofEnded w.system.station.ended := by
  refine h.follows (motive := fun sink ended => sink.log = SinkCall.ofEnded ended) rfl ?_
  intro line sink ended hlog
  -- the new call is last on both sides
  change sink.log ++ [_] = _
  rw [hlog, SinkCall.ofEnded, SinkCall.ofEnded, List.map_append]
  rfl

/-- **A flush of a pipeline passes nothing on.** Whatever producers, the worker, the sink and those
who stop it have done: a flush, also one through any client of the pipeline, answers that all is
well and changes nothing. So the lines that were accepted before have been handed over when it
returns exactly if there was no backlog, and the wrapped sink has been called for lines only. -/
theorem flush_passes_nothing_on
    (h : Reachable wrapped.logged ⟨start, []⟩ threadName capacity w)
    (p : Pipeline (Logged σ SinkCall)) (hp : p.station = w.system.station)
    (hsink : p.sink = w.sink) :
    (Pipeline.asSink wrapped.logged).flush p = (.ok (), p) ∧
      (∀ {η : Type} (c : Client (Pipeline (Logged σ SinkCall)) η) (handler : η),
        c.sink = Pipeline.asSink wrapped.logged → c.flush ⟨p, handler⟩ = (.ok (), ⟨p, handler⟩)) ∧
      p.station.accepted = p.station.handed ++ p.station.backlog ∧
      (p.station.accepted <+: p.station.handed ↔ p.station.backlog = []) ∧
      p.sink.log = SinkCall.ofEnded p.station.ended := by
  obtain ⟨hsystem, hlog⟩ := h.log_eq
  have hledger : p.station.Ledger := hp ▸ hsystem.ledger
  -- the flush that a sink has if it has none of its own
  have hflush : (Pipeline.asSink wrapped.logged).flush p = (.ok (), p) := rfl
  refine ⟨hflush, ?_, hledger.accepted_eq, hledger.handed_iff, ?_⟩
  · intro η c handler hc
    -- a client hands its flush to the sink that it has, and has no error to handle
    rw [Client.flush, hc, hflush]
    rfl
  · rw [hp, hsink, hlog]

/-- A queue for one line. The worker has handed the first line to the sink and waits for the call to
end, while the second line waits in the queue. -/
def backlogged : List Action :=
  [.arrive (.submission (.arriving ⟨"first:1|c"⟩)), .caller 0, .caller 0, .caller 0, .caller 0,
    .caller 0, .worker (.enter true), .worker .proceed, .worker .receiveLine, .worker .proceed,
    .worker .proceed, .arrive (.submission (.arriving ⟨"second:1|c"⟩)), .caller 1, .caller 1,
    .caller 1, .caller 1, .caller 1]

/-- A client that flushes the pipeline is told that all is well, with the second line in the
backlog. -/
theorem backlogged_passes_nothing_on :
    ∃ w, (new "courier" 1 ⟨(), []⟩).run Sink.measure.logged backlogged = some w ∧
      w.system.station.backlog = [⟨"second:1|c"⟩] ∧
      (Client.ofSink (Pipeline.asSink Sink.measure.logged)).flush
          ⟨{ station := w.system.station, sink := w.sink }, ()⟩ =
        (.ok (), ⟨{ station := w.system.station, sink := w.sink }, ()⟩) ∧
      ¬ w.system.station.accepted <+: w.system.station.handed := by
  have hrun : ((new "courier" 1 ⟨(), []⟩).run Sink.measure.logged backlogged).any (fun w =>
      w.system.station.backlog == [⟨"second:1|c"⟩]) = true := by decide +kernel
  obtain ⟨w, hw, hbacklog⟩ := exists_of_any hrun
  rw [beq_iff_eq] at hbacklog
  -- what is flushed is the pipeline in the state that the run leads to
  obtain ⟨-, hclients, -, hhanded, -⟩ := flush_passes_nothing_on ⟨backlogged, hw⟩
    { station := w.system.station, sink := w.sink } rfl rfl
  refine ⟨w, hw, hbacklog, hclients _ () rfl, fun hprefix => ?_⟩
  have hempty : w.system.station.backlog = [] := hhanded.mp hprefix
  rw [hbacklog] at hempty
  cases hempty

/-- The promise of a flush is broken in both its parts: with a line in the backlog a flush answers
that all is well, and afterwards neither has the line been handed over nor the wrapped sink been
flushed. -/
theorem backlogged_not_flushed :
    ∃ (w : Wired (Logged Unit SinkCall)) (p q : Pipeline (Logged Unit SinkCall)),
      (new "courier" 1 ⟨(), []⟩).run Sink.measure.logged backlogged = some w ∧
      p.station = w.system.station ∧ p.sink = w.sink ∧
      (Pipeline.asSink Sink.measure.logged).flush p = (.ok (), q) ∧
      ¬ p.station.accepted <+: q.station.handed ∧
      q.sink.log = [] ∧ ¬ p.Flushed q := by
  have hrun : ((new "courier" 1 ⟨(), []⟩).run Sink.measure.logged backlogged).any (fun w =>
      w.system.station.accepted == [⟨"first:1|c"⟩, ⟨"second:1|c"⟩] &&
      w.system.station.handed == [⟨"first:1|c"⟩] && w.sink.log.isEmpty) = true := by
    decide +kernel
  obtain ⟨w, hw, hall⟩ := exists_of_any hrun
  simp only [Bool.and_eq_true, beq_iff_eq, List.isEmpty_iff] at hall
  obtain ⟨⟨haccepted, hhanded⟩, hlog⟩ := hall
  -- the first line alone has been handed over, and two were accepted
  have hleft : ¬ w.system.station.accepted <+: w.system.station.handed := by
    rw [haccepted, hhanded]
    decide
  exact ⟨w, { station := w.system.station, sink := w.sink }, _, hw, rfl, rfl, rfl, hleft, hlog,
    fun hflushed => hleft hflushed.handed⟩

end Wired

end MetricCourier
