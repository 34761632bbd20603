import MetricCourier.Encoding.Basic
import MetricCourier.Proofs.Encoding.Clauses

/-!
# What the line of an event says

Title, text and tags of an event may hold anything, also what looks like a clause of the line or
like its frame. Still a line says one thing only (`framing_unambiguous`).

The frame gives the lengths of title and text in bytes, and its numerals end at the comma and at the
brace; so both texts are cut off by their lengths (`header_injective`). The clauses after them are
cut at the bars (`Clause.series_injective`): their openings differ, the words and numerals written
in them hold no bar, and host, group and source type are asked to hold none. The tags come last and
need no end. Together this makes rendering injective (`render_injective`), and what is rendered is
the event, but for the clock and for empty tags, of which nothing is written (`framed_eq_iff`).

What a stamp says is put down for itself (`Stamp.secondsAt`): nothing, the seconds that are given, or
those of the clock. That this is what the encoder takes for it is `Stamp.map_resolve`.
-/

namespace MetricCourier

/-! ### The parts of a framed line -/

theorem Priority.word_injective {p q : Priority} (h : p.word = q.word) : p = q := by
  revert h
  cases p <;> cases q <;> decide

theorem AlertType.word_injective {a b : AlertType} (h : a.word = b.word) : a = b := by
  revert h
  cases a <;> cases b <;> decide

namespace Framed

/-- The clauses between the texts and the tags. -/
def clauses (f : Framed) : List Clause :=
  [⟨"|d:", f.seconds.map fun s => Decimal.natural s.toNat⟩, ⟨"|h:", f.host⟩, ⟨"|k:", f.group⟩,
    ⟨"|s:", f.sourceType⟩, ⟨"|p:", f.priority.map Priority.word⟩,
    ⟨"|t:", f.alertType.map AlertType.word⟩]

/-- The texts that are cut off at the bar hold none. -/
structure Barless (f : Framed) : Prop where
  host : ∀ s ∈ f.host, '|' ∉ s.toList
  group : ∀ s ∈ f.group, '|' ∉ s.toList
  sourceType : ∀ s ∈ f.sourceType, '|' ∉ s.toList

variable {f f' : Framed}

/-- A line is its frame, its clauses and its tags. -/
theorem render_eq (f : Framed) :
    f.render = header f.title f.text ++ Clause.series f.clauses (tagsClause f.tags) := by
  have hclause : ∀ (letter : String) (value : Option String),
      clause letter value = Clause.render ⟨"|" ++ letter ++ ":", value⟩ := by
    intro letter value
    cases value <;> rfl
  simp only [render, hclause, String.append_assoc]
  rfl

/-- The openings of the clauses, and that of the tags, can be told apart. -/
theorem openings_clauses (f : Framed) : Openings (f.clauses.map Clause.opening ++ ["|#"]) := by
  change Openings ["|d:", "|h:", "|k:", "|s:", "|p:", "|t:", "|#"]
  exact ⟨by decide, by decide⟩

/-- Numerals and words hold no bar. -/
theorem Barless.clauses (h : f.Barless) : ∀ c ∈ f.clauses, c.Barless := by
  have hpriority : ∀ p : Priority, '|' ∉ p.word.toList := by
    intro p
    cases p <;> decide
  have halert : ∀ a : AlertType, '|' ∉ a.word.toList := by
    intro a
    cases a <;> decide
  simp only [Framed.clauses, List.forall_mem_cons, Clause.Barless, Option.mem_def,
    Option.map_eq_some_iff]
  refine ⟨?_, h.host, h.group, h.sourceType, ?_, ?_, fun _ hc => nomatch hc⟩
  · -- the timestamp is a numeral
    rintro _ ⟨s, -, rfl⟩
    exact Decimal.notMem_natural rfl s.toNat
  · rintro _ ⟨p, -, rfl⟩
    exact hpriority p
  · rintro _ ⟨a, -, rfl⟩
    exact halert a

/-- The two texts and what follows them are read off a line by the lengths in its frame. -/
theorem header_injective {title title' text text' rest rest' : String}
    (h : header title text ++ rest = header title' text' ++ rest') :
    title = title' ∧ text = text' ∧ rest = rest' := by
  have hnumeral : ∀ n, ',' ∉ (Decimal.natural n).toList ∧ '\x7d' ∉ (Decimal.natural n).toList :=
    fun n => ⟨Decimal.notMem_natural rfl n, Decimal.notMem_natural rfl n⟩
  simp only [header, String.append_assoc] at h
  -- the numeral of the title's length ends at the comma, that of the text's at the brace
  obtain ⟨htitles, hcomma⟩ := cut_at_mark (hnumeral _).1 (hnumeral _).1
    (endsAt_append rfl) (endsAt_append rfl) ((String.append_right_inj _).1 h)
  obtain ⟨htexts, hbrace⟩ := cut_at_mark (hnumeral _).2 (hnumeral _).2
    (endsAt_append rfl) (endsAt_append rfl) ((String.append_right_inj _).1 hcomma)
  obtain ⟨htitle, hbar⟩ := cut_at_size (Decimal.natural_injective htitles)
    ((String.append_right_inj _).1 hbrace)
  obtain ⟨htext, hrest⟩ := cut_at_size (Decimal.natural_injective htexts)
    ((String.append_right_inj _).1 hbar)
  exact ⟨htitle, htext, hrest⟩

/-- What a line says can be read off it. -/
theorem render_injective (hf : f.Barless) (hf' : f'.Barless) (h : f.render = f'.render) :
    f = f' := by
  rw [render_eq, render_eq] at h
  obtain ⟨htitle, htext, hrest⟩ := header_injective h
  have hsame : f.clauses.map Clause.opening = f'.clauses.map Clause.opening := rfl
  obtain ⟨hclauses, htags⟩ := Clause.series_injective f.openings_clauses hsame hf.clauses
    hf'.clauses (opened_tagsClause _) (opened_tagsClause _) hrest
  simp only [clauses, List.cons.injEq, Clause.mk.injEq, true_and, and_true] at hclauses
  obtain ⟨hseconds, hhost, hgroup, hsource, hpriority, halert⟩ := hclauses
  -- the values of the clauses say what they were written for
  have hnumeral : Function.Injective fun s : UInt64 => Decimal.natural s.toNat :=
    fun _ _ hs => UInt64.toNat_inj.1 (Decimal.natural_injective hs)
  obtain ⟨title, text, seconds, host, group, sourceType, priority, alertType, tags⟩ := f
  obtain ⟨title', text', seconds', host', group', sourceType', priority', alertType', tags'⟩ := f'
  congr 1
  · exact Option.map_injective hnumeral hseconds
  · exact Option.map_injective (fun _ _ => Priority.word_injective) hpriority
  · exact Option.map_injective (fun _ _ => AlertType.word_injective) halert
  · exact tagsClause_injective htags

end Framed

/-! ### What a stamp says -/

/-- The seconds after the epoch that a stamp stands for at the given time: none, those of the clock,
or those that are given. A clock before the epoch counts as one at the epoch, and seconds are counted
in a word of 64 bits. -/
def Stamp.secondsAt (t : Instant) : Stamp → Option ℕ
  | omitted => none
  | whenEncoded => some ((t.nanoseconds / 1000000000).toNat % UInt64.size)
  | moment seconds => some seconds.toNat

/-- The encoder takes a stamp for what it says. -/
theorem Stamp.map_resolve (stamp : Stamp) (t : Instant) :
    (stamp.resolve t.seconds).map UInt64.toNat = stamp.secondsAt t := by
  cases stamp with
  | omitted | moment _ => rfl
  | whenEncoded =>
    -- the encoder cuts off at the epoch first and divides then
    have hcut : t.nanoseconds.toNat / 1000000000 = (t.nanoseconds / 1000000000).toNat := by omega
    rw [resolve, Option.map_some, Instant.seconds, UInt64.toNat_ofNat', hcut]
    rfl

/-- A clock whose seconds fit into a word is read as it is, but not below the epoch. -/
theorem Stamp.secondsAt_whenEncoded {t : Instant} (h : t.nanoseconds / 1000000000 < UInt64.size) :
    whenEncoded.secondsAt t =
      some (if t.nanoseconds < 0 then 0 else (t.nanoseconds / 1000000000).toNat) := by
  rw [secondsAt]
  unfold UInt64.size at h ⊢
  split <;> congr 1 <;> omega

/-! ### What two events have to agree on -/

namespace Event

/-- Host, group and source type hold no bar; title, text and tags may. -/
structure Barless (e : Event) : Prop where
  host : ∀ s ∈ e.host, '|' ∉ s.toList
  group : ∀ s ∈ e.group, '|' ∉ s.toList
  sourceType : ∀ s ∈ e.sourceType, '|' ∉ s.toList

/-- Two events, encoded at one time each, say the same: their stamps stand for the same second at
these times, or for none, and empty tags are no tags. A host, group or source type that is empty is
one all the same. -/
structure Agrees (t t' : Instant) (e e' : Event) : Prop where
  title : e.title = e'.title
  text : e.text = e'.text
  seconds : e.stamp.secondsAt t = e'.stamp.secondsAt t'
  host : e.host = e'.host
  group : e.group = e'.group
  sourceType : e.sourceType = e'.sourceType
  priority : e.priority = e'.priority
  alertType : e.alertType = e'.alertType
  tags : e.tags.getD "" = e'.tags.getD ""

variable {e e' : Event} {t t' : Instant} {line line' : Line}

/-- What is written of an event is what it has to agree on. -/
theorem framed_eq_iff : e.framed t.seconds = e'.framed t'.seconds ↔ Agrees t t' e e' := by
  have hword : Function.Injective UInt64.toNat := fun _ _ => UInt64.toNat_inj.1
  have hstamps : e.stamp.resolve t.seconds = e'.stamp.resolve t'.seconds ↔
      e.stamp.secondsAt t = e'.stamp.secondsAt t' := by
    rw [← Stamp.map_resolve, ← Stamp.map_resolve, (Option.map_injective hword).eq_iff]
  simp only [framed, Framed.mk.injEq, writtenTags_eq_iff, hstamps]
  constructor
  · rintro ⟨htitle, htext, hseconds, hhost, hgroup, hsource, hpriority, halert, htags⟩
    exact ⟨htitle, htext, hseconds, hhost, hgroup, hsource, hpriority, halert, htags⟩
  · intro h
    exact ⟨h.title, h.text, h.seconds, h.host, h.group, h.sourceType, h.priority,
      h.alertType, h.tags⟩

theorem Barless.framed (h : e.Barless) (now : UInt64) : (e.framed now).Barless :=
  ⟨h.host, h.group, h.sourceType⟩

theorem text_of_encode (h : (Observation.event e).encode t = .ok line) :
    line.text = (e.framed t.seconds).render := by
  change e.encode t.seconds = .ok line at h
  unfold encode at h
  split at h
  · cases h
  · simp only at h
    split at h
    · cases h
    · cases h
      rfl

/-- Only the time of an event that is stamped when it is encoded comes from the clock. -/
theorem framed_of_stamp (h : e.stamp ≠ .whenEncoded) (now now' : UInt64) :
    e.framed now = e.framed now' := by
  have hseconds : e.stamp.resolve now = e.stamp.resolve now' := by
    cases hstamp : e.stamp with
    | whenEncoded => exact absurd hstamp h
    | omitted => rfl
    | moment n => rfl
  rw [framed, framed, hseconds]

/-- **The framing of events is unambiguous.** Two events whose host, group and source type hold no
bar are encoded alike, at whatever times, exactly if they say the same; titles, texts and tags may
hold anything. Where the stamp of an event is not the time of its encoding, the clock makes no
difference at all; where it is, the stamp stands for the whole seconds of the clock, and for zero if
the clock is before the epoch. -/
theorem framing_unambiguous :
    (∀ (e e' : Event) (t t' : Instant) (line line' : Line),
      (Observation.event e).encode t = .ok line → (Observation.event e').encode t' = .ok line' →
        e.Barless → e'.Barless → (line = line' ↔ Agrees t t' e e')) ∧
    (∀ e : Event, e.stamp ≠ .whenEncoded →
      ∀ t t', (Observation.event e).encode t = (Observation.event e).encode t') ∧
    (∀ t : Instant, t.nanoseconds / 1000000000 < UInt64.size →
      Stamp.whenEncoded.secondsAt t =
        some (if t.nanoseconds < 0 then 0 else (t.nanoseconds / 1000000000).toNat)) := by
  refine ⟨?_, ?_, fun t => Stamp.secondsAt_whenEncoded⟩
  · intro e e' t t' line line' h h' hbar hbar'
    rw [← framed_eq_iff]
    constructor
    · intro hline
      -- what is said can be read off the line, if the texts cut at bars hold none
      apply Framed.render_injective (hbar.framed _) (hbar'.framed _)
      rw [← text_of_encode h, ← text_of_encode h', hline]
    · intro hframed
      have htext : line.text = line'.text := by
        rw [text_of_encode h, text_of_encode h', hframed]
      exact congrArg Line.mk htext
  · intro e hstamp t t'
    change e.encode t.seconds = e.encode t'.seconds
    rw [encode, encode, framed_of_stamp hstamp t.seconds t'.seconds]

/-- An event whose text looks like the text, time and host of another. -/
def lookalike : Event :=
  { title := "é|x", text := "up|d:9|h:web", stamp := .omitted, tags := some "" }

/-- The event that it looks like, stamped when it is encoded. -/
def hosted : Event := { title := "é|x", text := "up", host := some "web" }

/-- The two are told apart by the lengths in their frames, and the one that is stamped when it is
encoded is told apart from itself a second later. -/
theorem lookalike_told_apart :
    ∃ line line' line'', (Observation.event lookalike).encode ⟨0⟩ = .ok line ∧
      (Observation.event hosted).encode ⟨9999999999⟩ = .ok line' ∧
      (Observation.event hosted).encode ⟨10000000000⟩ = .ok line'' ∧
      line'.text = "_e\x7b4,2\x7d:é|x|up|d:9|h:web" ∧ line ≠ line' ∧ line' ≠ line'' ∧
      (Observation.event lookalike).encode ⟨-5⟩ = .ok line := by
  have hline : (Observation.event lookalike).encode ⟨0⟩ =
      .ok ⟨"_e\x7b4,12\x7d:é|x|up|d:9|h:web"⟩ :=
    Observation.encode_eq_ok_iff.2 (by decide +kernel)
  have hline' : (Observation.event hosted).encode ⟨9999999999⟩ =
      .ok ⟨"_e\x7b4,2\x7d:é|x|up|d:9|h:web"⟩ :=
    Observation.encode_eq_ok_iff.2 (by decide +kernel)
  have hline'' : (Observation.event hosted).encode ⟨10000000000⟩ =
      .ok ⟨"_e\x7b4,2\x7d:é|x|up|d:10|h:web"⟩ :=
    Observation.encode_eq_ok_iff.2 (by decide +kernel)
  have hbar : lookalike.Barless := ⟨by decide, by decide, by decide⟩
  have hbar' : hosted.Barless := ⟨by decide, by decide, by decide⟩
  obtain ⟨hagree, hclock, -⟩ := framing_unambiguous
  refine ⟨_, _, _, hline, hline', hline'', rfl, fun heq => ?_, fun heq => ?_,
    (hclock lookalike (by decide) _ _).trans hline⟩
  · have htext : lookalike.text = hosted.text :=
      ((hagree _ _ _ _ _ _ hline hline' hbar hbar').1 heq).text
    revert htext
    decide
  · -- they differ in nothing but the second
    have hseconds := ((hagree _ _ _ _ _ _ hline' hline'' hbar' hbar').1 heq).seconds
    revert hseconds
    decide

end Event

end MetricCourier
