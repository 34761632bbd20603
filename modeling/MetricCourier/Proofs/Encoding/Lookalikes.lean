import MetricCourier.Proofs.Encoding.LineBreaks

/-!
# Metrics that look like events

A name, a set member or a tag is asked to avoid the reserved characters, and the frame of an event
holds none of them before its colon. So a metric can be named like a frame, and then its line can be
that of an event: the count of 5 under the name `_e{1,1}` and the event with title `5` and text `c`
are encoded alike (`framedName_mistaken`).

It takes that much, though. Both lines are cut at their first colon, which ends the name of the one
and the frame of the other, so the name has to be the frame of that very event. What follows in the
metric's line holds no colon, and every clause of an event does but its tags; so the event has
nothing but its texts and its tags (`Event.Bare`), and these make up what the metric's line has
after the name (`mistaken_iff`).
-/

namespace MetricCourier

/-- The characters that names, set members and tags are asked to avoid. -/
def reserved : List Char := [':', '|', '@', '#', '\n']

/-! ### The line of an event -/

namespace Framed

variable {title text letter : String}

/-- What stands before the colon in the line of an event. -/
def frame (title text : String) : String :=
  "_e\x7b" ++ Decimal.natural title.utf8ByteSize ++ "," ++ Decimal.natural text.utf8ByteSize ++
    "\x7d"

theorem header_eq_frame (title text : String) :
    header title text = frame title text ++ (":" ++ (title ++ "|" ++ text)) := by
  have hmark : "\x7d:" = "\x7d" ++ ":" := rfl
  rw [header, frame, hmark]
  simp only [String.append_assoc]

theorem colon_notMem_frame (title text : String) : ':' ∉ (frame title text).toList := by
  -- a length is digits, and the rest of the frame is fixed
  have hnumeral : ∀ n, ':' ∉ (Decimal.natural n).toList := Decimal.notMem_natural rfl
  have hopening : ':' ∉ "_e\x7b".toList := by decide
  have hcomma : ':' ∉ ",".toList := by decide
  have hclosing : ':' ∉ "\x7d".toList := by decide
  simp only [frame, String.toList_append, List.mem_append, not_or]
  exact ⟨⟨⟨⟨hopening, hnumeral _⟩, hcomma⟩, hnumeral _⟩, hclosing⟩

theorem opens_frame (title text : String) : "_e\x7b".toList <+: (frame title text).toList := by
  simp only [frame, String.toList_append, List.append_assoc]
  exact List.prefix_append _ _

theorem value_eq_none_of_notMem {value : Option String}
    (h : ':' ∉ (clause letter value).toList) : value = none := by
  cases value with
  | none => rfl
  | some s =>
    have hcolon : ':' ∈ ":".toList := List.mem_singleton_self ':'
    simp only [clause, String.toList_append, List.mem_append, not_or] at h
    exact absurd hcolon h.1.2

end Framed

namespace Event

/-- The event has nothing but a title, a text and perhaps tags. -/
structure Bare (e : Event) : Prop where
  stamp : e.stamp = .omitted
  host : e.host = none
  group : e.group = none
  sourceType : e.sourceType = none
  priority : e.priority = none
  alertType : e.alertType = none

/-- What the line of such an event has after the colon. -/
def bareTail (e : Event) : String := e.title ++ "|" ++ e.text ++ tagsClause (writtenTags e.tags)

variable {e : Event} {now : UInt64}

theorem Bare.render_eq (h : e.Bare) (now : UInt64) :
    (e.framed now).render = Framed.frame e.title e.text ++ (":" ++ e.bareTail) := by
  simp only [Framed.render, framed, Framed.header_eq_frame, h.stamp, Stamp.resolve, h.host, h.group,
    h.sourceType, h.priority, h.alertType, Option.map_none, Framed.clause, bareTail,
    String.append_empty, String.append_assoc]

/-- The clauses of an event that may be left out, in one text. -/
def clausesText (now : UInt64) (e : Event) : String :=
  Framed.clause "d" ((e.stamp.resolve now).map fun s => Decimal.natural s.toNat) ++
    Framed.clause "h" e.host ++ Framed.clause "k" e.group ++ Framed.clause "s" e.sourceType ++
    Framed.clause "p" (e.priority.map Priority.word) ++
    Framed.clause "t" (e.alertType.map AlertType.word)

theorem render_eq_frame (now : UInt64) (e : Event) :
    (e.framed now).render = Framed.frame e.title e.text ++
      (":" ++ (e.title ++ "|" ++ e.text ++ e.clausesText now ++
        tagsClause (writtenTags e.tags))) := by
  simp only [Framed.render, framed, Framed.header_eq_frame, clausesText, String.append_assoc]

/-- Every clause but the tags has a colon. -/
theorem bare_of_notMem (h : ':' ∉ (e.clausesText now).toList) : e.Bare := by
  simp only [clausesText, String.toList_append, List.mem_append, not_or] at h
  obtain ⟨⟨⟨⟨⟨hd, hh⟩, hk⟩, hs⟩, hp⟩, ht⟩ := h
  -- a clause without a colon is one that is left out
  have hseconds := Option.map_eq_none_iff.1 (Framed.value_eq_none_of_notMem hd)
  refine ⟨?_, Framed.value_eq_none_of_notMem hh, Framed.value_eq_none_of_notMem hk,
    Framed.value_eq_none_of_notMem hs, Option.map_eq_none_iff.1 (Framed.value_eq_none_of_notMem hp),
    Option.map_eq_none_iff.1 (Framed.value_eq_none_of_notMem ht)⟩
  -- the two other ways to set the timestamp give a number of seconds
  cases hstamp : e.stamp with
  | omitted => rfl
  | whenEncoded | moment _ => simp [hstamp, Stamp.resolve] at hseconds

end Event

/-! ### The line of a metric -/

namespace Metric

/-- Name, member and tags avoid the reserved characters. -/
def Tidy (m : Metric) : Prop := ∀ s ∈ m.copied, ∀ c ∈ reserved, c ∉ s.toList

instance (m : Metric) : Decidable m.Tidy :=
  haveI (s : String) : Decidable (∀ c ∈ reserved, c ∉ s.toList) := List.decidableBAll _ _
  List.decidableBAll _ _

/-- What the line of a metric has after the colon. -/
def tail (m : Metric) : String :=
  m.plain.value ++ "|" ++ m.plain.code ++ rateClause m.plain.rate ++ tagsClause m.plain.tags

variable {m : Metric}

theorem render_eq_tail (m : Metric) : m.plain.render = m.name ++ (":" ++ m.tail) := by
  have hname : m.plain.name = m.name := by cases m <;> rfl
  simp only [Plain.render, tail, hname, String.append_assoc]

theorem name_mem_copied (m : Metric) : m.name ∈ m.copied := by
  cases m <;> exact List.mem_cons_self

theorem Tidy.colon_notMem (h : m.Tidy) {s : String} (hs : s ∈ m.copied) : ':' ∉ s.toList :=
  h s hs ':' List.mem_cons_self

theorem Tidy.colon_notMem_value (h : m.Tidy) : ':' ∉ m.plain.value.toList := by
  -- numbers have digits, a sign and a point, and a member is among the copied texts
  cases m with
  | count name delta options => exact Decimal.notMem_integer rfl (by decide) _
  | timing name milliseconds options => exact Decimal.notMem_natural rfl _
  | gauge name value _ | histogram name value _ =>
    exact Binary64.notMem_fixed rfl (by decide) (by decide) _
  | unique name member tags => exact h.colon_notMem (List.mem_cons_of_mem _ List.mem_cons_self)

theorem colon_notMem_rate (m : Metric) : ':' ∉ (rateClause m.plain.rate).toList := by
  obtain hnone | ⟨x, hx⟩ := m.exists_rate_eq
  · -- a rate that is left out has no clause, and one that is written is a number
    rw [hnone]
    decide
  · have hopening : ':' ∉ "|@".toList := by decide
    have hfixed : ':' ∉ x.fixed.toList := Binary64.notMem_fixed rfl (by decide) (by decide) x
    rw [hx, rateClause, String.toList_append, List.mem_append, not_or]
    exact ⟨hopening, hfixed⟩

/-- The tags that are written are tags of the metric. -/
theorem mem_copied_of_tags {s : String} (h : m.plain.tags = some s) : s ∈ m.copied := by
  -- empty tags are left out, the others are written as they are
  have hgiven : ∀ tags : Option String, writtenTags tags = some s → s ∈ tags.toList := by
    intro tags htags
    rw [Option.mem_toList]
    exact (Option.filter_eq_some_iff.1 htags).1
  cases m with
  | unique name member tags =>
    exact List.mem_cons_of_mem _ (List.mem_cons_of_mem _ (hgiven _ h))
  | _ => exact List.mem_cons_of_mem _ (hgiven _ h)

theorem Tidy.colon_notMem_tags (h : m.Tidy) : ':' ∉ (tagsClause m.plain.tags).toList := by
  cases htags : m.plain.tags with
  | none => decide
  | some s =>
    have hopening : ':' ∉ "|#".toList := by decide
    rw [tagsClause, String.toList_append, List.mem_append, not_or]
    exact ⟨hopening, h.colon_notMem (mem_copied_of_tags htags)⟩

/-- The line of a tidy metric has one colon, that after the name. -/
theorem Tidy.colon_notMem_tail (h : m.Tidy) : ':' ∉ m.tail.toList := by
  have hbar : ':' ∉ "|".toList := by decide
  have hcodes : ∀ code ∈ ["c", "g", "ms", "h", "s"], ':' ∉ code.toList := by decide
  simp only [tail, String.toList_append, List.mem_append, not_or]
  exact ⟨⟨⟨⟨h.colon_notMem_value, hbar⟩, hcodes _ m.code_mem⟩, m.colon_notMem_rate⟩,
    h.colon_notMem_tags⟩

/-! ### One line for both -/

variable {e : Event} {t t' : Instant} {line line' : Line}

/-- A line that is both a tidy metric's and an event's is cut alike at its first colon, and the
event is a bare one. -/
theorem Tidy.cut (hm : m.Tidy) {now : UInt64} (h : m.plain.render = (e.framed now).render) :
    m.name = Framed.frame e.title e.text ∧ e.Bare ∧ m.tail = e.bareTail := by
  -- neither the name nor the frame has a colon, so each ends at the first one of its line
  have hname : ':' ∉ m.name.toList := hm.colon_notMem m.name_mem_copied
  have hframe := Framed.colon_notMem_frame e.title e.text
  have hcut : ∀ rest, m.plain.render = Framed.frame e.title e.text ++ (":" ++ rest) →
      m.name = Framed.frame e.title e.text ∧ m.tail = rest := by
    intro rest hrest
    rw [render_eq_tail] at hrest
    obtain ⟨hsame, hcolon⟩ :=
      cut_at_mark hname hframe (endsAt_append rfl) (endsAt_append rfl) hrest
    exact ⟨hsame, (String.append_right_inj ":").1 hcolon⟩
  -- the tail of the metric has no colon, so the clauses of the event have none
  have hbare : e.Bare := by
    obtain ⟨-, hrest⟩ := hcut _ (h.trans (e.render_eq_frame now))
    have hcolon := hm.colon_notMem_tail
    rw [hrest] at hcolon
    simp only [String.toList_append, List.mem_append, not_or] at hcolon
    exact Event.bare_of_notMem hcolon.1.2
  obtain ⟨hsame, hrest⟩ := hcut _ (h.trans (hbare.render_eq now))
  exact ⟨hsame, hbare, hrest⟩

/-- **When a metric is mistaken for an event.** A tidy metric has the line of an event exactly if it
is named like the frame of that event, the event has nothing but its texts and its tags, and these
make up all that the metric's line has after the name. So a metric with a name that does not begin
like a frame is never mistaken. -/
theorem mistaken_iff (h : (Observation.metric m).encode t = .ok line)
    (h' : (Observation.event e).encode t' = .ok line') (hm : m.Tidy) :
    (line = line' ↔
      m.name = Framed.frame e.title e.text ∧ e.Bare ∧ m.tail = e.bareTail) ∧
    (¬ "_e\x7b".toList <+: m.name.toList → line ≠ line') := by
  have hiff : line = line' ↔
      m.name = Framed.frame e.title e.text ∧ e.Bare ∧ m.tail = e.bareTail := by
    constructor
    · -- one line is one text
      intro hline
      have hsame : m.plain.render = (e.framed t'.seconds).render := by
        rw [← text_of_encode h, ← Event.text_of_encode h', hline]
      exact hm.cut hsame
    · -- the name is the frame, and the tails are the same
      rintro ⟨hname, hbare, htail⟩
      have htext : line.text = line'.text := by
        rw [text_of_encode h, Event.text_of_encode h', render_eq_tail, hbare.render_eq, hname,
          htail]
      exact congrArg Line.mk htext
  refine ⟨hiff, ?_⟩
  -- the name would be a frame, and every frame begins like this
  intro hopening hline
  apply hopening
  rw [(hiff.1 hline).1]
  exact Framed.opens_frame e.title e.text

/-- A gauge that is named like a frame, and whose value and tags would do as title, text and
tags. -/
def framedName : Metric := .gauge "_e\x7b5,1\x7d" ⟨0x4014000000000000⟩ (some "prod")

/-- The event that it looks like. -/
def framedEvent : Event := { title := "5.000", text := "g", stamp := .omitted, tags := some "prod" }

/-- It has the line of that event, and not that of the same event with a host. -/
theorem framedName_cut :
    ∃ line line' other, (Observation.metric framedName).encode ⟨0⟩ = .ok line ∧
      (Observation.event framedEvent).encode ⟨1⟩ = .ok line' ∧ line = line' ∧
      (Observation.event { framedEvent with host := some "web" }).encode ⟨2⟩ = .ok other ∧
      line ≠ other := by
  have hmetric : (Observation.metric framedName).encode ⟨0⟩ =
      .ok ⟨"_e\x7b5,1\x7d:5.000|g|#prod"⟩ :=
    Observation.encode_eq_ok_iff.2 (by decide +kernel)
  have hevent : (Observation.event framedEvent).encode ⟨1⟩ =
      .ok ⟨"_e\x7b5,1\x7d:5.000|g|#prod"⟩ :=
    Observation.encode_eq_ok_iff.2 (by decide +kernel)
  have hhosted : (Observation.event { framedEvent with host := some "web" }).encode ⟨2⟩ =
      .ok ⟨"_e\x7b5,1\x7d:5.000|g|h:web|#prod"⟩ :=
    Observation.encode_eq_ok_iff.2 (by decide +kernel)
  have htidy : framedName.Tidy := by decide
  refine ⟨_, _, _, hmetric, hevent, ?_, hhosted, ?_⟩
  · apply (mistaken_iff hmetric hevent htidy).1.2
    exact ⟨by decide +kernel, ⟨rfl, rfl, rfl, rfl, rfl, rfl⟩, by decide +kernel⟩
  · intro hline
    -- the event would have to be a bare one
    obtain ⟨-, hbare, -⟩ := (mistaken_iff hmetric hhosted htidy).1.1 hline
    cases hbare.host

/-- A count and an event that are encoded alike, although the name of the count avoids all reserved
characters. -/
theorem framedName_mistaken :
    (Metric.count "_e\x7b1,1\x7d" 5 {}).Tidy ∧
      ∃ line, (Observation.metric (.count "_e\x7b1,1\x7d" 5 {})).encode ⟨0⟩ = .ok line ∧
        (Observation.event { title := "5", text := "c", stamp := .omitted }).encode ⟨0⟩ =
          .ok line := by
  refine ⟨by decide, ⟨"_e\x7b1,1\x7d:5|c"⟩, ?_, ?_⟩
  · exact Observation.encode_eq_ok_iff.2 (by decide +kernel)
  · exact Observation.encode_eq_ok_iff.2 (by decide +kernel)

end Metric

end MetricCourier
