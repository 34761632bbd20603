import MetricCourier.Proofs.Sink.Metered
import MetricCourier.Sink.Meter

/-!
# One meter behind all handles

A sink's meter is copied to whoever wants to watch the traffic, and all copies have to agree with the
sink. They do because a copy is another handle of the same meter: however many handles there are, they
hold the one cell that there is (`Meters.Shared`). So what is recorded through one of them is reported
by all, and what they report are the sums of all replies, no matter through which handles and in which
order they were recorded (`Meters.handles_report_sums`).
-/

namespace MetricCourier

namespace Meters

/-- What is done with the handles of a meter. -/
inductive Act
  /-- Records the reply for a line of such a length through a handle. -/
  | update (handle : Nat) (reply : Reply) (length : UInt64)
  /-- Copies a handle. -/
  | copy (handle : Nat)

/-- The reply that an act records, with the length of the line that it is for. -/
def Act.recorded? : Act → Option (Reply × UInt64)
  | update _ reply length => some (reply, length)
  | copy _ => none

/-- Does an act copy a handle? -/
def Act.isCopy : Act → Bool
  | update _ _ _ => false
  | copy _ => true

/-- Does one thing after the other; the answers are those to the recorded replies. -/
def run : List Act → Meters → List Reply × Meters
  | [], m => ([], m)
  | .update handle reply length :: rest, m =>
    let (answer, m) := m.update handle reply length
    let (answers, m) := run rest m
    (answer :: answers, m)
  | .copy handle :: rest, m => run rest (m.copy handle)

/-- With so many handles to begin with, each handle is there when it is used. -/
def Handled : Nat → List Act → Prop
  | _, [] => True
  | n, .update handle _ _ :: rest => handle < n ∧ Handled n rest
  | n, .copy handle :: rest => handle < n ∧ Handled (n + 1) rest

/-- There is one meter with these counters, and so many handles that all hold it. -/
structure Shared (m : Meters) (n : Nat) (t : Traffic) : Prop where
  cells_eq : m.cells = [t]
  handles_eq : m.handles = List.replicate n 0

variable {m : Meters} {n handle : Nat} {t : Traffic}

theorem shared_fresh : Shared fresh 1 {} := ⟨rfl, rfl⟩

namespace Shared

variable (h : Shared m n t) (hhandle : handle < n)
include h hhandle

theorem cell_eq : m.handles[handle]? = some 0 := by
  rw [h.handles_eq, List.getElem?_replicate, if_pos hhandle]

theorem report_eq : m.report handle = t := by
  -- every handle holds the one cell there is
  rw [report, h.cell_eq hhandle, h.cells_eq]
  rfl

theorem update_eq (reply : Reply) (length : UInt64) :
    (m.update handle reply length).1 = reply ∧
      Shared (m.update handle reply length).2 n (t.record reply length) := by
  rw [update, h.cell_eq hhandle]
  refine ⟨rfl, ?_, h.handles_eq⟩
  -- the one cell is changed, and the handles are not
  simp [h.cells_eq, List.modify]

theorem copy_eq : Shared (m.copy handle) (n + 1) t := by
  rw [copy, h.cell_eq hhandle]
  refine ⟨h.cells_eq, ?_⟩
  -- a copy holds the same cell
  simp [h.handles_eq, List.replicate_succ']

end Shared

open Traffic

/-- The replies that are recorded, each with the length of the line that it is for. -/
def recorded (acts : List Act) : List (Reply × UInt64) := acts.filterMap Act.recorded?

/-- How many copies are made. -/
def copies (acts : List Act) : Nat := acts.countP Act.isCopy

/-- By induction on what is done, with the replies recorded before it. -/
theorem run_shared {acts : List Act} {calls : List (Reply × UInt64)} (h : Shared m n t)
    (hsums : Sums calls t) (hacts : Handled n acts) :
    (run acts m).1 = (recorded acts).map Prod.fst ∧
      ∃ t', Shared (run acts m).2 (n + copies acts) t' ∧ Sums (calls ++ recorded acts) t' := by
  induction acts generalizing m n t calls with
  | nil => exact ⟨rfl, t, h, by simpa [recorded] using hsums⟩
  | cons act rest ih =>
    cases act with
    | update handle reply length =>
      -- the reply is passed on, and added to the sums of those before it
      obtain ⟨hhandle, hrest⟩ := hacts
      obtain ⟨hanswer, hshared⟩ := h.update_eq hhandle reply length
      obtain ⟨hanswers, t', hshared', hsums'⟩ := ih hshared (hsums.record reply length) hrest
      rw [List.append_assoc] at hsums'
      refine ⟨?_, t', hshared', hsums'⟩
      change (m.update handle reply length).1 :: (run rest (m.update handle reply length).2).1 =
        reply :: (recorded rest).map Prod.fst
      rw [hanswer, hanswers]
    | copy handle =>
      obtain ⟨hhandle, hrest⟩ := hacts
      obtain ⟨hanswers, t', hshared', hsums'⟩ := ih (h.copy_eq hhandle) hsums hrest
      -- no reply is recorded, and there is a handle more
      have hcopies : n + copies (.copy handle :: rest) = n + 1 + copies rest := by
        rw [copies, List.countP_cons_of_pos rfl, Nat.add_assoc, Nat.add_comm 1]
        rfl
      rw [hcopies]
      exact ⟨hanswers, t', hshared', hsums'⟩

/-- **All handles of a meter report the same sums.** Starting from a new meter with one handle,
replies are recorded through its handles, and handles are copied, in any order. Each reply is passed
on as it is. In the end every handle reports the sums of all replies, as far as words can hold them:
of the bytes that those say that wrote something, and of the lengths of those that failed. The same
replies in another order, through other handles, add up to the same. One more reply changes nothing
about the sums of the other kind. -/
theorem handles_report_sums {acts : List Act} (h : Handled 1 acts) :
    ∃ m, run acts fresh = ((recorded acts).map Prod.fst, m) ∧
      m.handles.length = 1 + copies acts ∧
      (∀ handle < m.handles.length, Sums (recorded acts) (m.report handle)) ∧
      (∀ acts' answers' m', Handled 1 acts' → run acts' fresh = (answers', m') →
        (recorded acts).Perm (recorded acts') →
          ∀ handle < m.handles.length, ∀ handle' < m'.handles.length,
            m.report handle = m'.report handle') ∧
      ∀ handle < m.handles.length, ∀ other < m.handles.length, ∀ length,
        (∀ bytes,
          let t := (m.update handle (.wrote bytes) length).2.report other
          t.bytesDropped = (m.report other).bytesDropped ∧
            t.packetsDropped = (m.report other).packetsDropped) ∧
        ∀ fault,
          let t := (m.update handle (.failed fault) length).2.report other
          t.bytesSent = (m.report other).bytesSent ∧
            t.packetsSent = (m.report other).packetsSent := by
  obtain ⟨hanswers, t, hshared, hsums⟩ := run_shared shared_fresh sums_nil h
  have hlength : (run acts fresh).2.handles.length = 1 + copies acts := by
    rw [hshared.handles_eq, List.length_replicate]
  refine ⟨(run acts fresh).2, Prod.ext hanswers rfl, hlength, ?_, ?_, ?_⟩
  · intro handle hhandle
    rw [hshared.report_eq (hlength ▸ hhandle)]
    exact hsums
  · -- both report the sums of the same replies, and these do not depend on the order
    intro acts' answers' m' h' hrun' hperm handle hhandle handle' hhandle'
    obtain ⟨-, t', hshared', hsums'⟩ := run_shared shared_fresh sums_nil h'
    rw [hrun'] at hshared'
    rw [hshared'.handles_eq, List.length_replicate] at hhandle'
    rw [hshared.report_eq (hlength ▸ hhandle), hshared'.report_eq hhandle']
    exact hsums.eq_of_perm hsums' hperm
  · -- after one more reply the cell is that of `record`, which changes one pair of sums
    intro handle hhandle other hother length
    rw [hlength] at hhandle hother
    rw [hshared.report_eq hother]
    constructor
    · intro bytes
      rw [(hshared.update_eq hhandle (.wrote bytes) length).2.report_eq hother]
      exact ⟨rfl, rfl⟩
    · intro fault
      rw [(hshared.update_eq hhandle (.failed fault) length).2.report_eq hother]
      exact ⟨rfl, rfl⟩

/-- Two replies through copies and a fault through the first handle; the bytes are too many for a
word. -/
def relayed : List Act :=
  [.copy 0, .update 1 (.wrote 18446744073709551615) 8, .copy 1, .update 2 (.wrote 3) 4,
    .update 0 (.failed IoKind.timedOut) 6]

/-- The same without a copy and the other way round. -/
def reversed : List Act :=
  [.update 0 (.failed IoKind.timedOut) 6, .update 0 (.wrote 3) 4,
    .update 0 (.wrote 18446744073709551615) 8]

/-- All three handles report two bytes, which is what is left of them, and so does the one handle of
the other meter. -/
theorem relayed_reported :
    ((run relayed fresh).2.report 2).bytesSent.toNat = 2 ∧
      ((run relayed fresh).2.report 0).bytesDropped.toNat = 6 ∧
      (run relayed fresh).2.report 2 = (run reversed fresh).2.report 0 ∧
      (((run relayed fresh).2.update 1 (.wrote 5) 5).2.report 2).packetsDropped =
        ((run relayed fresh).2.report 2).packetsDropped := by
  have hrelayed : Handled 1 relayed :=
    ⟨by decide, by decide, by decide, by decide, by decide, trivial⟩
  have hreversed : Handled 1 reversed := ⟨by decide, by decide, by decide, trivial⟩
  -- what is reported is taken from the sums, not from the run
  obtain ⟨m, hrun, hlength, hsums, horder, hother⟩ := handles_report_sums hrelayed
  have hhandles : m.handles.length = 3 := hlength
  rw [hrun]
  refine ⟨?_, ?_, ?_, ?_⟩
  · exact (hsums 2 (by omega)).bytesSent.trans (by decide)
  · exact (hsums 0 (by omega)).bytesDropped.trans (by decide)
  · exact horder reversed _ _ hreversed rfl (by decide) 2 (by omega) 0 (by decide)
  · exact ((hother 1 (by omega) 2 (by omega) 5).1 5).2

end Meters

end MetricCourier
