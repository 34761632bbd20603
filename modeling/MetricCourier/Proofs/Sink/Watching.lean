import MetricCourier.Sink.Watching

/-!
# What a spy sees

A program that counts lines with a spy relies on the spy to lose none, to add none and to keep their
order. As long as it holds on to the receiver it does: the lines that it has received and those that
still wait for it are the lines that the sink took, and no more of them wait than the channel holds
(`Watched.Sound`). Every act passes this on (`Spy.Passes`) except for letting go of the receiver, which
takes the waiting lines with it.

What the sink answers depends on the receiver first and on the room in the channel second
(`Spy.emit_cases`), whichever way a line is sent, and a line that it refuses leaves no trace.
-/

namespace MetricCourier

namespace Spy

variable {spy : Spy} {line : Line}

/-- **A line is refused because the receiver is gone, or else because the channel is full, or it is
the newest that waits.** -/
theorem emit_cases (line : Line) (spy : Spy) :
    spy.connected = false ∧
        emit line spy = (.returned (.failed (.message .other "channel disconnected")), spy) ∨
      spy.connected = true ∧ spy.isFull = true ∧
        emit line spy = (.returned (.failed (.message .other "channel full")), spy) ∨
      spy.connected = true ∧ spy.isFull = false ∧
        emit line spy =
          (.returned (.wrote line.bytes), { spy with waiting := spy.waiting.push line }) := by
  -- the channel asks for the receiver first
  unfold emit Channel.trySend
  cases hconnected : spy.connected with
  | false => exact .inl ⟨rfl, rfl⟩
  | true =>
    cases hfull : spy.isFull with
    | true => exact .inr (.inl ⟨rfl, rfl, rfl⟩)
    | false => exact .inr (.inr ⟨rfl, rfl, rfl⟩)

/-- What was done leaves the receiver there and passes on what it does not take. -/
structure Passes (spy : Spy) (result : Outcome × Spy) : Prop where
  limit_eq : result.2.limit = spy.limit
  connected_eq : result.2.connected = spy.connected
  /-- What waited and what was accepted was given out or waits. -/
  lossless : spy.waiting.toList ++ result.1.accepted?.toList =
    result.1.lines ++ result.2.waiting.toList
  bounded : ∀ n, spy.limit = some n → spy.waiting.toList.length ≤ n →
    result.2.waiting.toList.length ≤ n

theorem passes_of_refusal (spy : Spy) (line : Line) (fault : IoFault) :
    Passes spy (.answered line (.returned (.failed fault)), spy) :=
  ⟨rfl, rfl, List.append_nil _, fun _ _ hroom => hroom⟩

theorem passes_of_emit (spy : Spy) (line : Line) :
    Passes spy (.answered line (emit line spy).1, (emit line spy).2) := by
  obtain ⟨-, hemit⟩ | ⟨-, -, hemit⟩ | ⟨-, hroom, hemit⟩ := emit_cases line spy
  · rw [hemit]
    exact passes_of_refusal spy line _
  · rw [hemit]
    exact passes_of_refusal spy line _
  · rw [hemit]
    refine ⟨rfl, rfl, (Queue.toList_push line spy.waiting).symm, fun n hn _ => ?_⟩
    -- a line that was accepted found room
    have hlt := Channel.isFull_eq_false_iff.mp hroom n hn
    change (spy.waiting.push line).toList.length ≤ n
    rw [Queue.toList_push, List.length_append]
    exact hlt

theorem passes_of_receive (spy : Spy) (n : Nat) :
    Passes spy (.received (spy.receiveUpTo n).1, (spy.receiveUpTo n).2) := by
  obtain ⟨hlimit, hconnected⟩ := spy.frame_receiveUpTo n
  -- the oldest lines are given out, and the others stay as they are
  obtain ⟨htaken, hleft⟩ := spy.toList_receiveUpTo n
  refine ⟨hlimit, hconnected, ?_, fun m _ hroom => ?_⟩
  · change spy.waiting.toList ++ [] = (spy.receiveUpTo n).1 ++ (spy.receiveUpTo n).2.waiting.toList
    rw [htaken, hleft, List.append_nil, List.take_append_drop]
  · change (spy.receiveUpTo n).2.waiting.toList.length ≤ m
    rw [hleft, List.length_drop]
    exact Nat.le_trans (Nat.sub_le _ _) hroom

theorem passes_of_act (spy : Spy) {act : Act} (h : act ≠ .letGo) : Passes spy (spy.act act) := by
  cases act with
  | emit line => exact passes_of_emit spy line
  | emitLine line => exact passes_of_emit spy line
  | receive n => exact passes_of_receive spy n
  | letGo => exact absurd rfl h

end Spy

namespace Watched

variable {w : Watched} {limit : Option Nat}

/-- What holds of a watched spy with a channel of the given limit. -/
structure Sound (limit : Option Nat) (w : Watched) : Prop where
  limit_eq : w.spy.limit = limit
  /-- With the receiver still there no line is lost, doubled or moved. -/
  lossless : w.spy.connected = true → w.received ++ w.waiting = w.accepted
  /-- No more lines wait than the channel holds. -/
  bounded : ∀ n, limit = some n → w.waiting.length ≤ n

theorem Sound.opened (limit : Option Nat) : Sound limit (opened limit) :=
  ⟨rfl, fun _ => rfl, fun n _ => Nat.zero_le n⟩

theorem Sound.act (h : Sound limit w) (act : Spy.Act) : Sound limit (w.act act) := by
  by_cases hact : act = .letGo
  · -- the lines that waited are gone, but then so is the receiver
    rw [hact]
    exact ⟨h.limit_eq, fun hconnected => absurd hconnected Bool.false_ne_true,
      fun n _ => Nat.zero_le n⟩
  · -- nothing is lost: what the act accepted is behind what waited, and what it gave out before it
    have hpasses := Spy.passes_of_act w.spy hact
    refine ⟨hpasses.limit_eq.trans h.limit_eq, fun hconnected => ?_, fun n hn => ?_⟩
    · have hbefore := h.lossless (hpasses.connected_eq ▸ hconnected)
      rw [Watched.act, accepted_note, received_note, ← hbefore, List.append_assoc,
        List.append_assoc]
      exact congrArg (w.received ++ ·) hpasses.lossless.symm
    · exact hpasses.bounded n (h.limit_eq.trans hn) (h.bounded n hn)

/-- By induction on what is done. -/
theorem Sound.run (h : Sound limit w) (acts : List Spy.Act) : Sound limit (w.run acts) := by
  induction acts generalizing w with
  | nil => exact h
  | cons act rest ih => exact ih (h.act act)

theorem connected_act (w : Watched) (act : Spy.Act) :
    (w.act act).spy.connected = true ↔ w.spy.connected = true ∧ act ≠ .letGo := by
  by_cases hact : act = .letGo
  · rw [hact]
    simp [Watched.act, note, Spy.act, Channel.disconnect]
  · have hpasses := Spy.passes_of_act w.spy hact
    simp [Watched.act, note, hpasses.connected_eq, hact]

/-- The receiver is there until it is let go. -/
theorem connected_run (w : Watched) (acts : List Spy.Act) :
    (w.run acts).spy.connected = true ↔ w.spy.connected = true ∧ .letGo ∉ acts := by
  -- by induction on what is done
  induction acts generalizing w with
  | nil => simp [run]
  | cons act rest ih =>
    change ((w.act act).run rest).spy.connected = true ↔ _
    rw [ih, connected_act, List.mem_cons, not_or, and_assoc, ne_comm]

/-- How a line is answered when all of this has been done before. -/
structure Answer (limit : Option Nat) (acts : List Spy.Act) (w : Watched) (line : Line)
    (call : Call Reply) : Prop where
  /-- It is taken if there are a receiver and room for it. -/
  wrote : call = .returned (.wrote (.ofNat line.text.utf8ByteSize)) ↔
    .letGo ∉ acts ∧ ∀ n, limit = some n → w.waiting.length < n
  /-- With a receiver it is refused if as many lines wait as the channel holds. -/
  full : call = .returned (.failed (.message .other "channel full")) ↔
    .letGo ∉ acts ∧ limit = some w.waiting.length
  /-- Without a receiver it is refused, full or not. -/
  disconnected : call = .returned (.failed (.message .other "channel disconnected")) ↔
    .letGo ∈ acts

/-- The channel is full when it holds as many lines as it can. -/
theorem Sound.isFull_iff (h : Sound limit w) :
    w.spy.isFull = true ↔ limit = some w.waiting.length := by
  rw [Channel.isFull_iff, h.limit_eq]
  -- the channel never holds more than it can, so at least as many is just as many
  constructor
  · rintro ⟨n, hn, hle⟩
    rw [hn, Nat.le_antisymm (h.bounded n hn) hle]
  · intro hlimit
    exact ⟨_, hlimit, Nat.le_refl _⟩

theorem Sound.answer (h : Sound limit w) {acts : List Spy.Act}
    (halive : w.spy.connected = true ↔ .letGo ∉ acts) (line : Line) :
    Answer limit acts w line (Spy.emit line w.spy).1 := by
  have hfull := h.isFull_iff
  obtain ⟨hgone, hemit⟩ | ⟨hconnected, hreached, hemit⟩ | ⟨hconnected, hroom, hemit⟩ :=
    Spy.emit_cases line w.spy
  · -- the receiver is gone, and this is all that matters
    have hmem : .letGo ∈ acts := by
      refine Decidable.byContradiction fun hnot => ?_
      rw [halive.mpr hnot] at hgone
      cases hgone
    rw [hemit]
    constructor <;> simp [hmem]
  · -- the receiver is there, and the channel is full
    have hnot : .letGo ∉ acts := halive.mp hconnected
    rw [hemit]
    constructor <;> simp [hnot, hfull.mp hreached]
  · -- the receiver is there, and there is room
    have hnot : .letGo ∉ acts := halive.mp hconnected
    have hlt : ∀ n, limit = some n → w.waiting.length < n := fun n hn =>
      Channel.isFull_eq_false_iff.mp hroom n (h.limit_eq.trans hn)
    have hlimit : limit ≠ some w.waiting.length := fun heq => Nat.lt_irrefl _ (hlt _ heq)
    rw [hemit]
    constructor
    · exact iff_of_true rfl ⟨hnot, hlt⟩
    · simp [hlimit]
    · simp [hnot]

/-- **A spy is a bounded first in, first out queue that loses nothing.** Whatever is done with a new
spy and in whatever order, as long as its receiver has not been let go the lines that were received,
followed by those that wait, are the lines that the sink took. There are never more waiting than the
channel holds, and they are received from the oldest on. Another line is answered by the presence of
the receiver and the room in the channel, whichever way it is sent, and if it is refused nothing
changes. -/
theorem lossless_while_watched (limit : Option Nat) (acts : List Spy.Act) :
    let w := (opened limit).run acts
    (.letGo ∉ acts → w.received ++ w.waiting = w.accepted) ∧
    (∀ n, limit = some n → w.waiting.length ≤ n) ∧
    (∀ n, (w.act (.receive n)).received = w.received ++ w.waiting.take n) ∧
    ∀ line, w.act (.emitLine line) = w.act (.emit line) ∧
      ∃ call, (w.act (.emit line)).history = w.history ++ [.answered line call] ∧
        Answer limit acts w line call ∧
        ((∀ bytes, call ≠ .returned (.wrote bytes)) → (w.act (.emit line)).spy = w.spy) := by
  intro w
  have hsound : Sound limit w := (Sound.opened limit).run acts
  have halive : w.spy.connected = true ↔ .letGo ∉ acts := by
    rw [connected_run]
    exact and_iff_right rfl
  refine ⟨fun h => hsound.lossless (halive.mpr h), hsound.bounded, fun n => ?_,
    fun line => ⟨rfl, ?_⟩⟩
  · rw [Watched.act, received_note]
    exact congrArg (w.received ++ ·) (w.spy.toList_receiveUpTo n).1
  refine ⟨(Spy.emit line w.spy).1, rfl, hsound.answer halive line, fun hrefused => ?_⟩
  -- a refusal hands the channel back as it was
  change (Spy.emit line w.spy).2 = w.spy
  obtain ⟨-, hemit⟩ | ⟨-, -, hemit⟩ | ⟨-, -, hemit⟩ := Spy.emit_cases line w.spy
  · rw [hemit]
  · rw [hemit]
  · rw [hemit] at hrefused
    exact absurd rfl (hrefused line.bytes)

/-- Three lines are sent through a channel that holds one, and the receiver makes room for the last. -/
def crowded : List Spy.Act :=
  [.emit ⟨"a:1|c"⟩, .emitLine ⟨"b:1|c"⟩, .receive 1, .emitLine ⟨"c:1|c"⟩]

/-- The second of three lines found no room, and a fourth would not either; if the receiver is let go
it finds nobody there. -/
theorem crowded_watched :
    let w := (opened (some 1)).run crowded
    let w' := (opened (some 1)).run (crowded ++ [.letGo])
    w.received ++ w.waiting = [⟨"a:1|c"⟩, ⟨"c:1|c"⟩] ∧ w.waiting.length ≤ 1 ∧
      (w.act (.emit ⟨"d:1|c"⟩)).spy = w.spy ∧
      (w'.act (.emit ⟨"d:1|c"⟩)).history = w'.history ++
        [.answered ⟨"d:1|c"⟩ (.returned (.failed (.message .other "channel disconnected")))] := by
  obtain ⟨hlossless, hbounded, -, hanswer⟩ := lossless_while_watched (some 1) crowded
  obtain ⟨-, -, -, hanswer'⟩ := lossless_while_watched (some 1) (crowded ++ [.letGo])
  obtain ⟨call, -, hcall, hrefused⟩ := (hanswer ⟨"d:1|c"⟩).2
  obtain ⟨call', hhistory, hcall', -⟩ := (hanswer' ⟨"d:1|c"⟩).2
  have hfull := hcall.full.mpr ⟨by decide, by decide +kernel⟩
  have hgone := hcall'.disconnected.mpr (by decide)
  refine ⟨(hlossless (by decide)).trans (by decide +kernel), hbounded 1 rfl,
    hrefused fun bytes => ?_, ?_⟩
  · rw [hfull]
    nofun
  · rw [hhistory, hgone]

end Watched

end MetricCourier
