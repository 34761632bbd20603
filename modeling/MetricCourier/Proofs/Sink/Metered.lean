import Mathlib.Algebra.GroupWithZero.Nat
import MetricCourier.Net.Datagram
import MetricCourier.Sink.Scripted

/-!
# Sinks that count their calls

A sink is `Metered` if its traffic is what became of its calls: each reply is recorded for the line
it answers, and a call that unwinds is not recorded. A sink that sends datagrams is metered, and so
is one that follows a script, whatever is inside it (`Sender.metered`, `Scripted.metered`).

The four counters are sums over the replies that were recorded, those of the replies that wrote
something and those of the replies that failed (`Traffic.Sums`). They are words and wrap around, and
the order of the replies makes no difference to them (`Traffic.Sums.eq_of_perm`).

The traffic of a metered sink is the tally of its calls, `Traffic.tally`, which says how many there
were of each kind, and how many bytes (`tally_packetsSent` and the theorems around it).
-/

namespace MetricCourier

/-! ### Replies that add up -/

namespace Traffic

/-- What was written by the replies among these that say so, in order. -/
def written (replies : List (Reply × UInt64)) : List UInt64 :=
  replies.filterMap fun reply =>
    match reply.1 with
    | .wrote bytes => some bytes
    | .failed _ => none

/-- The lengths that were lost by the replies among these that failed, in order. -/
def lost (replies : List (Reply × UInt64)) : List UInt64 :=
  replies.filterMap fun reply =>
    match reply.1 with
    | .wrote _ => none
    | .failed _ => some reply.2

/-- The traffic is what these replies for lines of such lengths add up to. -/
structure Sums (replies : List (Reply × UInt64)) (t : Traffic) : Prop where
  bytesSent : t.bytesSent.toNat = ((written replies).map UInt64.toNat).sum % 2 ^ 64
  packetsSent : t.packetsSent.toNat = (written replies).length % 2 ^ 64
  bytesDropped : t.bytesDropped.toNat = ((lost replies).map UInt64.toNat).sum % 2 ^ 64
  packetsDropped : t.packetsDropped.toNat = (lost replies).length % 2 ^ 64

variable {replies replies' : List (Reply × UInt64)} {t t' : Traffic}

theorem sums_nil : Sums [] {} := ⟨rfl, rfl, rfl, rfl⟩

/-- A word that holds a number as far as it can still does when another word is added to both. -/
theorem toNat_add_of_mod {a : UInt64} {k : Nat} (h : a.toNat = k % 2 ^ 64) (b : UInt64) :
    (a + b).toNat = (k + b.toNat) % 2 ^ 64 := by
  rw [UInt64.toNat_add, h, Nat.mod_add_mod]

/-- One more reply is added to the pair of sums that it is for, and the other pair stays. -/
theorem Sums.record (h : Sums replies t) (reply : Reply) (length : UInt64) :
    Sums (replies ++ [(reply, length)]) (t.record reply length) := by
  cases reply with
  -- added to what was sent; what was dropped is as before
  | wrote bytes =>
    have hwritten : written (replies ++ [(.wrote bytes, length)]) = written replies ++ [bytes] := by
      simp [written]
    have hlost : lost (replies ++ [(.wrote bytes, length)]) = lost replies := by simp [lost]
    refine ⟨?_, ?_, ?_, ?_⟩
    · rw [hwritten, List.map_append, List.sum_append]
      exact toNat_add_of_mod h.bytesSent bytes
    · rw [hwritten, List.length_append]
      exact toNat_add_of_mod h.packetsSent 1
    · rw [hlost]
      exact h.bytesDropped
    · rw [hlost]
      exact h.packetsDropped
  -- the other way round
  | failed fault =>
    have hwritten : written (replies ++ [(.failed fault, length)]) = written replies := by
      simp [written]
    have hlost : lost (replies ++ [(.failed fault, length)]) = lost replies ++ [length] := by
      simp [lost]
    refine ⟨?_, ?_, ?_, ?_⟩
    · rw [hwritten]
      exact h.bytesSent
    · rw [hwritten]
      exact h.packetsSent
    · rw [hlost, List.map_append, List.sum_append]
      exact toNat_add_of_mod h.bytesDropped length
    · rw [hlost, List.length_append]
      exact toNat_add_of_mod h.packetsDropped 1

/-- Replies in another order add up to the same. -/
theorem Sums.eq_of_perm (h : Sums replies t) (h' : Sums replies' t') (hperm : replies.Perm replies') :
    t = t' := by
  have hwritten : (written replies).Perm (written replies') := hperm.filterMap _
  have hlost : (lost replies).Perm (lost replies') := hperm.filterMap _
  have hbytes := (hwritten.map UInt64.toNat).sum_nat
  have hbytes' := (hlost.map UInt64.toNat).sum_nat
  -- two records of words are the same if the four words are
  cases t
  cases t'
  congr
  · exact UInt64.toNat_inj.mp (by rw [h.bytesSent, h'.bytesSent, hbytes])
  · exact UInt64.toNat_inj.mp (by rw [h.packetsSent, h'.packetsSent, hwritten.length_eq])
  · exact UInt64.toNat_inj.mp (by rw [h.bytesDropped, h'.bytesDropped, hbytes'])
  · exact UInt64.toNat_inj.mp (by rw [h.packetsDropped, h'.packetsDropped, hlost.length_eq])

end Traffic

/-! ### Three kinds of calls -/

section Calls

variable (calls : List (Line × Call Reply))

/-- What was written by the calls that did not fail, in order. -/
def writtenBy : List UInt64 := calls.filterMap fun e => e.2.written?

/-- The lines for which the calls failed, in order. -/
def lostBy : List Line := (calls.filter fun e => e.2.isFailure).map Prod.fst

/-- How many calls unwound. -/
def unwoundBy : Nat := calls.countP fun e => e.2.isUnwound

@[simp] theorem writtenBy_cons (line : Line) (call : Call Reply) :
    writtenBy ((line, call) :: calls) = call.written?.toList ++ writtenBy calls := by
  cases h : call.written? <;> simp [writtenBy, h]

@[simp] theorem lostBy_cons (line : Line) (call : Call Reply) :
    lostBy ((line, call) :: calls) = (if call.isFailure then [line] else []) ++ lostBy calls := by
  cases h : call.isFailure <;> simp [lostBy, h]

@[simp] theorem unwoundBy_cons (line : Line) (call : Call Reply) :
    unwoundBy ((line, call) :: calls) = unwoundBy calls + call.isUnwound.toNat := by
  cases h : call.isUnwound <;> simp [unwoundBy, h]

/-- Each call wrote something, failed or unwound. -/
theorem length_eq_by_outcome :
    calls.length = (writtenBy calls).length + (lostBy calls).length + unwoundBy calls := by
  induction calls with
  | nil => rfl
  | cons e rest ih =>
    obtain ⟨line, call⟩ := e
    -- the first call is one of the three kinds, and adds one to its number only
    rw [List.length_cons, ih, writtenBy_cons, lostBy_cons, unwoundBy_cons, List.length_append,
      List.length_append]
    match call with
    | .returned (.wrote bytes) =>
      change _ = 1 + _ + (0 + _) + (_ + 0)
      omega
    | .returned (.failed fault) =>
      change _ = 0 + _ + (1 + _) + (_ + 0)
      omega
    | .unwound =>
      change _ = 0 + _ + (0 + _) + (_ + 1)
      omega

end Calls

namespace Traffic

/-- Counts what became of a call for a line; a call that unwound has nobody to count it. -/
def recordCall (line : Line) (call : Call Reply) (t : Traffic) : Traffic :=
  match call with
  | .returned reply => t.record reply line.bytes
  | .unwound => t

/-- Counts calls one after the other, from nothing. -/
def tally (calls : List (Line × Call Reply)) : Traffic :=
  calls.foldl (fun t e => t.recordCall e.1 e.2) {}

theorem tally_concat (calls : List (Line × Call Reply)) (line : Line) (call : Call Reply) :
    tally (calls ++ [(line, call)]) = (tally calls).recordCall line call := by
  rw [tally, List.foldl_append]
  rfl

/-- The replies of the calls that got one, each with the length of its line. -/
def answered (calls : List (Line × Call Reply)) : List (Reply × UInt64) :=
  calls.filterMap fun e =>
    match e.2 with
    | .returned reply => some (reply, e.1.bytes)
    | .unwound => none

/-- Calls that are counted after some replies add to what was counted for those. -/
theorem Sums.foldl_recordCall {replies : List (Reply × UInt64)} {t : Traffic}
    (h : Sums replies t) (calls : List (Line × Call Reply)) :
    Sums (replies ++ answered calls) (calls.foldl (fun t e => t.recordCall e.1 e.2) t) := by
  -- by induction on the calls, with all that was counted before them
  induction calls generalizing replies t with
  | nil => simpa [answered] using h
  | cons e rest ih =>
    obtain ⟨line, call⟩ := e
    cases call with
    | returned reply =>
      have hrest := ih (h.record reply line.bytes)
      rwa [List.append_assoc] at hrest
    | unwound => exact ih h

variable (calls : List (Line × Call Reply))

theorem sums_tally : Sums (answered calls) (tally calls) := sums_nil.foldl_recordCall calls

theorem written_answered : written (answered calls) = writtenBy calls := by
  induction calls with
  | nil => rfl
  | cons e rest ih =>
    obtain ⟨line, call⟩ := e
    rw [writtenBy_cons, ← ih]
    match call with
    | .returned (.wrote bytes) => rfl
    | .returned (.failed fault) => rfl
    | .unwound => rfl

theorem lost_answered : lost (answered calls) = (lostBy calls).map Line.bytes := by
  induction calls with
  | nil => rfl
  | cons e rest ih =>
    obtain ⟨line, call⟩ := e
    rw [lostBy_cons, List.map_append, ← ih]
    match call with
    | .returned (.wrote bytes) => rfl
    | .returned (.failed fault) => rfl
    | .unwound => rfl

/-- Words for the bytes of lines add up to the same as the bytes, as far as words can hold them. -/
theorem sum_bytes_mod (lines : List Line) :
    ((lines.map Line.bytes).map UInt64.toNat).sum % 2 ^ 64 =
      (lines.map Line.byteLength).sum % 2 ^ 64 := by
  induction lines with
  | nil => rfl
  | cons line rest ih =>
    -- the remainder can be taken before or after a line is added
    simp only [List.map_cons, List.sum_cons, Line.bytes, UInt64.toNat_ofNat', Nat.mod_add_mod]
    rw [Nat.add_mod, ih, ← Nat.add_mod]

theorem tally_bytesSent : (tally calls).bytesSent.toNat =
    ((writtenBy calls).map UInt64.toNat).sum % UInt64.size :=
  written_answered calls ▸ (sums_tally calls).bytesSent

theorem tally_packetsSent :
    (tally calls).packetsSent.toNat = (writtenBy calls).length % UInt64.size :=
  written_answered calls ▸ (sums_tally calls).packetsSent

theorem tally_bytesDropped : (tally calls).bytesDropped.toNat =
    ((lostBy calls).map Line.byteLength).sum % UInt64.size := by
  have h := (sums_tally calls).bytesDropped
  -- the words for the lengths add up to the lengths, as far as a word holds them
  rwa [lost_answered, sum_bytes_mod] at h

theorem tally_packetsDropped :
    (tally calls).packetsDropped.toNat = (lostBy calls).length % UInt64.size := by
  have h := (sums_tally calls).packetsDropped
  rwa [lost_answered, List.length_map] at h

end Traffic

/-! ### Metered sinks -/

variable {σ : Type}

/-- The sink counts each call that it answers. -/
structure Sink.Metered (wrapped : Sink σ) : Prop where
  traffic_emit : ∀ line s, wrapped.traffic (wrapped.emit line s).2 =
    (wrapped.traffic s).recordCall line (wrapped.emit line s).1

/-- A sink that sends datagrams counts them. -/
theorem Sender.metered : Sender.sink.Metered where
  traffic_emit _ _ := rfl

/-- A sink that follows a script counts its calls, whatever the sink inside it does. -/
theorem Scripted.metered (inner : Sink σ) : (Scripted.sink inner).Metered where
  traffic_emit line s := by
    change (emit inner line s).2.traffic = s.traffic.recordCall line (emit inner line s).1
    -- what the script tells the sink inside it to do does not count
    have hkept : (perform inner line s).2.traffic = s.traffic := by
      unfold perform
      split <;> rfl
    unfold emit
    rw [← hkept]
    cases perform inner line s with
    | mk call next => cases call <;> rfl

end MetricCourier
