import MetricCourier.Proofs.Encoding.Framing
import MetricCourier.Proofs.Encoding.PlainLines

/-!
# Where a line breaks

A line is sent as it is, and a receiver takes a line break in it for the end of a record. The
formats write none of their own: their marks, letters and words, and all numerals, hold no line
break. But they copy the strings of the caller, and not only names and tags, which are the caller's
to keep clean: the member of a set, and title, text, host, group and source type of an event are
copied too, each as it is. So a line breaks exactly where one of the copied strings does
(`breaks_iff_copied`), and an event with a text of two lines, which has neither a name nor tags, is
encoded as two lines (`twoLines_break`).

Most strings stand in clauses that may be left out, so both formats come down to what a clause does
(`Framed.clause_breaks_iff`, `tagsClause_breaks_iff`).
-/

namespace MetricCourier

/-- The string holds a line break. -/
def Breaks (s : String) : Prop := '\n' ∈ s.toList

namespace Breaks

variable {s t : String}

instance : Decidable (Breaks s) := inferInstanceAs (Decidable ('\n' ∈ s.toList))

@[simp] theorem append_iff : Breaks (s ++ t) ↔ Breaks s ∨ Breaks t := by
  simp only [Breaks, String.toList_append, List.mem_append]

theorem not_natural (n : Nat) : ¬ Breaks (Decimal.natural n) := Decimal.notMem_natural rfl n

theorem not_integer (z : Int) : ¬ Breaks (Decimal.integer z) :=
  Decimal.notMem_integer rfl (by decide) z

theorem not_fixed (x : Binary64) : ¬ Breaks x.fixed :=
  Binary64.notMem_fixed rfl (by decide) (by decide) x

theorem not_priority (p : Priority) : ¬ Breaks p.word := by
  cases p <;> decide

theorem not_alertType (a : AlertType) : ¬ Breaks a.word := by
  cases a <;> decide

end Breaks

/-! ### Clauses that may be left out -/

/-- The tags break where they do; empty ones are not written, and do not break either. -/
theorem tagsClause_breaks_iff (tags : Option String) :
    Breaks (tagsClause (writtenTags tags)) ↔ ∃ s ∈ tags.toList, Breaks s := by
  have hopening : ¬ Breaks "|#" := by decide
  have hempty : ¬ Breaks "" := by decide
  cases tags with
  | none => simp [writtenTags, tagsClause, hempty]
  | some s =>
    by_cases hs : s = ""
    · subst hs
      -- empty tags are left out, and an empty string does not break
      have hnone : writtenTags (some "") = none := rfl
      rw [hnone]
      simp [tagsClause, hempty]
    · have hsome : writtenTags (some s) = some s := by simp [writtenTags, hs]
      simp [hsome, tagsClause, hopening]

namespace Framed

variable {letter : String}

theorem clause_breaks_iff (hletter : ¬ Breaks letter) (value : Option String) :
    Breaks (clause letter value) ↔ ∃ s ∈ value.toList, Breaks s := by
  have hbar : ¬ Breaks "|" := by decide
  have hcolon : ¬ Breaks ":" := by decide
  have hempty : ¬ Breaks "" := by decide
  cases value with
  | none => simp [clause, hempty]
  | some s => simp [clause, hbar, hletter, hcolon]

/-- A clause whose value is a numeral or a word of the format does not break. -/
theorem not_breaks_clause {α : Type} {word : α → String} (hletter : ¬ Breaks letter)
    (hword : ∀ a, ¬ Breaks (word a)) (value : Option α) :
    ¬ Breaks (clause letter (value.map word)) := by
  rw [clause_breaks_iff hletter]
  cases value with
  | none => simp
  | some a => simpa using hword a

end Framed

/-! ### The strings that are copied -/

/-- The strings of a metric that its line copies. -/
def Metric.copied : Metric → List String
  | count name _ options | timing name _ options | histogram name _ options =>
    name :: options.tags.toList
  | gauge name _ tags => name :: tags.toList
  | unique name member tags => name :: member :: tags.toList

/-- The strings of an event that its line copies. -/
def Event.copied (e : Event) : List String :=
  e.title :: e.text ::
    (e.host.toList ++ e.group.toList ++ e.sourceType.toList ++ e.tags.toList)

/-- The strings of an observation that its line copies. -/
def Observation.copied : Observation → List String
  | .metric m => m.copied
  | .event e => e.copied

/-- Name, value and tags are all of a plain line that can break. -/
theorem Plain.breaks_render_iff {p : Plain} (hcode : ¬ Breaks p.code)
    (hrate : ¬ Breaks (rateClause p.rate)) :
    Breaks p.render ↔ Breaks p.name ∨ Breaks p.value ∨ Breaks (tagsClause p.tags) := by
  have hcolon : ¬ Breaks ":" := by decide
  have hbar : ¬ Breaks "|" := by decide
  simp only [render, Breaks.append_iff, hcolon, hbar, hcode, hrate, or_false, or_assoc]

theorem Metric.breaks_plain_iff (m : Metric) :
    Breaks m.plain.render ↔ ∃ s ∈ m.copied, Breaks s := by
  have hcodes : ∀ code ∈ ["c", "g", "ms", "h", "s"], ¬ Breaks code := by decide
  -- a rate is written as a numeral, if it is
  have hrate : ¬ Breaks (rateClause m.plain.rate) := by
    have hopening : ¬ Breaks "|@" := by decide
    obtain hnone | ⟨x, hx⟩ := m.exists_rate_eq
    · rw [hnone]
      decide
    · rw [hx]
      simp [rateClause, hopening, Breaks.not_fixed]
  rw [Plain.breaks_render_iff (hcodes _ m.code_mem) hrate]
  cases m with
  | count name delta options =>
    simp [plain, copied, tagsClause_breaks_iff, Breaks.not_integer]
  | timing name milliseconds options =>
    simp [plain, copied, tagsClause_breaks_iff, Breaks.not_natural]
  | gauge name value _ | histogram name value _ =>
    simp [plain, copied, tagsClause_breaks_iff, Breaks.not_fixed]
  | unique name member tags =>
    simp [plain, copied, tagsClause_breaks_iff]

theorem Framed.breaks_header_iff (title text : String) :
    Breaks (header title text) ↔ Breaks title ∨ Breaks text := by
  have hopening : ¬ Breaks "_e\x7b" := by decide
  have hcomma : ¬ Breaks "," := by decide
  have hclosing : ¬ Breaks "\x7d:" := by decide
  have hbar : ¬ Breaks "|" := by decide
  simp only [header, Breaks.append_iff, Breaks.not_natural, hopening, hcomma, hclosing, hbar,
    false_or, or_false]

theorem Event.breaks_framed_iff (now : UInt64) (e : Event) :
    Breaks (e.framed now).render ↔ ∃ s ∈ e.copied, Breaks s := by
  have hletter : ∀ letter ∈ ["d", "h", "k", "s", "p", "t"], ¬ Breaks letter := by decide
  simp only [List.forall_mem_cons] at hletter
  obtain ⟨hd, hh, hk, hs, hp, ht, -⟩ := hletter
  -- three of the clauses hold numerals and words, which never break
  have hseconds := Framed.not_breaks_clause hd
    (fun seconds : UInt64 => Breaks.not_natural seconds.toNat) (e.stamp.resolve now)
  have hpriority := Framed.not_breaks_clause hp Breaks.not_priority e.priority
  have halert := Framed.not_breaks_clause ht Breaks.not_alertType e.alertType
  simp only [Framed.render, framed, copied, Breaks.append_iff, Framed.breaks_header_iff,
    Framed.clause_breaks_iff hh, Framed.clause_breaks_iff hk, Framed.clause_breaks_iff hs,
    tagsClause_breaks_iff, hseconds, hpriority, halert, or_false]
  simp only [List.mem_cons, List.mem_append, or_and_right, exists_or, exists_eq_left, or_assoc]

/-! ### What is encoded -/

variable {o : Observation} {now : Instant} {line : Line}

/-- **A line breaks exactly where a string breaks that it copies.** So an observation is encoded as
one line if none of its strings breaks, and as more than one if any does, be it its name or tags,
the member of a set, or one of the texts of an event. -/
theorem Observation.breaks_iff_copied (h : o.encode now = .ok line) :
    Breaks line.text ↔ ∃ s ∈ o.copied, Breaks s := by
  cases o with
  | metric m =>
    rw [Metric.text_of_encode h]
    exact m.breaks_plain_iff
  | event e =>
    rw [Event.text_of_encode h]
    exact e.breaks_framed_iff now.seconds

/-- A metric with a clean name and clean tags whose member has two lines, and an event with every
part that can be copied, none of which breaks. -/
theorem spreadMember_breaks :
    ∃ line line',
      (Observation.metric (.unique "users" "ann\nbob" (some "env:prod"))).encode ⟨0⟩ = .ok line ∧
      Breaks line.text ∧
      (Observation.event
        { title := "deploy", text := "up|d:9", host := some "web", group := some "",
          sourceType := some "ci", tags := some "a,b" }).encode ⟨5000000000⟩ = .ok line' ∧
      ¬ Breaks line'.text := by
  have hmember :
      (Observation.metric (.unique "users" "ann\nbob" (some "env:prod"))).encode ⟨0⟩ =
        .ok ⟨"users:ann\nbob|s|#env:prod"⟩ :=
    Observation.encode_eq_ok_iff.2 (by decide +kernel)
  have hevent :
      (Observation.event
        { title := "deploy", text := "up|d:9", host := some "web", group := some "",
          sourceType := some "ci", tags := some "a,b" }).encode ⟨5000000000⟩ =
        .ok ⟨"_e\x7b6,6\x7d:deploy|up|d:9|d:5|h:web|k:|s:ci|#a,b"⟩ :=
    Observation.encode_eq_ok_iff.2 (by decide +kernel)
  -- whether the lines break is read off the strings and not off the lines
  refine ⟨_, _, hmember, ?_, hevent, ?_⟩
  · exact (Observation.breaks_iff_copied hmember).2
      ⟨"ann\nbob", List.mem_cons_of_mem _ List.mem_cons_self, by decide⟩
  · rw [Observation.breaks_iff_copied hevent]
    decide

/-- An event whose text has two lines; it has no name, and there are no tags. -/
def twoLines : Event := { title := "deploy", text := "first\nsecond", stamp := .omitted }

/-- Its encoding has two lines as well. -/
theorem twoLines_break :
    twoLines.tags = none ∧
      ∃ line, (Observation.event twoLines).encode ⟨0⟩ = .ok line ∧ Breaks line.text := by
  refine ⟨rfl, ⟨"_e\x7b6,12\x7d:deploy|first\nsecond"⟩, ?_, by decide⟩
  exact Observation.encode_eq_ok_iff.2 (by decide +kernel)

end MetricCourier
