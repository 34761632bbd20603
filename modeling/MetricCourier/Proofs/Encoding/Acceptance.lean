import Mathlib.Data.Nat.Log
import MetricCourier.Proofs.Encoding.Framing

/-!
# Which observations are encoded

The encoder demands a few things of an observation, in a fixed order, and turns down the one that
falls short with the words for the first demand that is not met. `Observation.demands` lists them:
what must hold, beside the words. Whatever is not listed is no reason to turn an observation down;
so a sample rate may be zero, negative or not a number, and the line of a metric may have any
length.

The line of an event may not. Its demand is on the line that is not yet written, whose length is a
sum over the fields of the event (`Event.lineLength`). That the sum is the length of what is
written (`Event.size_render`) needs only that each numeral has as many bytes as its number has
digits (`Decimal.size_natural`), and that a clause adds three bytes to its value, and nothing
if it is left out. The seconds in it are those that the stamp stands for (`Stamp.secondsAt`).

The verdict on a list of demands is `Judged`, one case for each thing that can happen at the first
of them. Checks in a row lead to it one by one (`Judged.next`), and acceptance and the flaw are read
off it (`Judged.ok_iff`, `Judged.error_iff`).
-/

namespace MetricCourier

/-! ### Infinite rates -/

/-- The two infinities. -/
def Binary64.infinities : List Binary64 := [⟨0x7FF0000000000000⟩, ⟨0xFFF0000000000000⟩]

theorem Binary64.isInfinite_iff (x : Binary64) : x.isInfinite = true ↔ x ∈ infinities := by
  have hsize := x.bits.toNat_lt
  -- a number is its word, so all that is left is arithmetic on the word
  have hword : ∀ w : UInt64, x = ⟨w⟩ ↔ x.bits.toNat = w.toNat := by
    intro w
    rw [UInt64.toNat_inj]
    exact ⟨fun h => h ▸ rfl, fun h => congrArg Binary64.mk h⟩
  rw [infinities, List.mem_cons, List.mem_singleton, hword, hword, isInfinite, Bool.and_eq_true,
    decide_eq_true_iff, decide_eq_true_iff, exponent, fraction, leadingOne]
  change _ ↔ x.bits.toNat = 0x7FF0000000000000 ∨ x.bits.toNat = 0xFFF0000000000000
  omega

/-! ### Demands -/

/-- Something that is demanded of an observation, and what one that falls short of it is told. -/
structure Demand where
  met : Prop
  /-- What an observation is told that falls short. -/
  words : String
  /-- The flaw that it is found to have. -/
  flaw : Flaw
  message_flaw : flaw.message = words

namespace Demand

/-- A metric has a name. -/
def named (name : String) : Demand :=
  ⟨name ≠ "", "metric name must not be empty", .emptyName, rfl⟩

/-- The value of a metric is finite. -/
def finite (value : Binary64) : Demand :=
  ⟨value.isFinite = true, "metric value must be finite", .valueNotFinite, rfl⟩

/-- The sample rate of a metric is none of the infinities. -/
def bounded (rate : Binary64) : Demand :=
  ⟨rate ∉ Binary64.infinities, "sample rate must be finite", .rateNotFinite, rfl⟩

/-- What is put into a set is not empty. -/
def member (member : String) : Demand :=
  ⟨member ≠ "", "set member must not be empty", .emptyMember, rfl⟩

/-- An event has a title. -/
def titled (title : String) : Demand :=
  ⟨title ≠ "", "event title must not be empty", .emptyTitle, rfl⟩

/-- An event has a text. -/
def told (text : String) : Demand :=
  ⟨text ≠ "", "event text must not be empty", .emptyText, rfl⟩

/-- The line of an event has at most so many bytes. -/
def short (length : ℕ) : Demand :=
  ⟨length ≤ 8192, "maximum event length exceeded", .eventTooLong, rfl⟩

end Demand

/-- The demand is the first that is not met. -/
def FirstUnmet (d : Demand) (demands : List Demand) : Prop :=
  ∃ before after, demands = before ++ d :: after ∧ (∀ b ∈ before, b.met) ∧ ¬ d.met

/-- A verdict on an observation: it is refused for the first demand that is not met, and has a line
if there is none. -/
inductive Judged : List Demand → Except Flaw Line → Prop
  | accepted (line : Line) : Judged [] (.ok line)
  | refused {d : Demand} (ds : List Demand) (h : ¬ d.met) : Judged (d :: ds) (.error d.flaw)
  | passed {d : Demand} {ds : List Demand} {verdict : Except Flaw Line} (h : d.met)
      (rest : Judged ds verdict) : Judged (d :: ds) verdict

/-- The verdict where a flaw may have been found already. -/
def Flaw.orElse (verdict : Except Flaw Line) : Option Flaw → Except Flaw Line
  | some flaw => .error flaw
  | none => verdict

namespace Judged

variable {d : Demand} {ds : List Demand} {verdict : Except Flaw Line} {unfit : Bool}

/-- A check before other checks. -/
theorem next {later : Option Flaw} (h : unfit = true ↔ ¬ d.met)
    (hlater : Judged ds (Flaw.orElse verdict later)) :
    Judged (d :: ds) (Flaw.orElse verdict (d.flaw.when unfit <|> later)) := by
  cases unfit with
  | true => exact .refused ds (h.mp rfl)
  | false => exact .passed (not_not.mp (mt h.mpr Bool.false_ne_true)) hlater

/-- The last check. -/
theorem last (h : unfit = true ↔ ¬ d.met) (hverdict : Judged ds verdict) :
    Judged (d :: ds) (Flaw.orElse verdict (d.flaw.when unfit)) := by
  have hnone : Judged ds (Flaw.orElse verdict none) := hverdict
  simpa using next h hnone

/-- An observation is accepted exactly if every demand is met. -/
theorem ok_iff (h : Judged ds verdict) :
    (∃ line, verdict = .ok line) ↔ ∀ d ∈ ds, d.met := by
  -- by induction on the verdict
  induction h with
  | accepted line => simp
  | refused ds h => simp [h]
  | passed h rest ih => simp [h, ih]

/-- An observation is refused for a flaw exactly if that is the flaw of the first demand that is
not met. -/
theorem error_iff {flaw : Flaw} (h : Judged ds verdict) :
    verdict = .error flaw ↔ ∃ d, FirstUnmet d ds ∧ d.flaw = flaw := by
  induction h with
  -- no demand is left that could be unmet
  | accepted line =>
    refine ⟨nofun, ?_⟩
    rintro ⟨d, ⟨before, after, hsplit, -⟩, -⟩
    simp at hsplit
  | @refused d ds h =>
    constructor
    · intro hflaw
      exact ⟨d, ⟨[], ds, rfl, nofun, h⟩, Except.error.inj hflaw⟩
    · rintro ⟨d', ⟨before, after, hsplit, hbefore, -⟩, rfl⟩
      -- nothing can have been met before the first one
      cases before with
      | nil => cases hsplit; rfl
      | cons b before =>
        cases hsplit
        exact absurd (hbefore _ List.mem_cons_self) h
  | @passed d ds verdict h rest ih =>
    -- a demand that is met stands before the first that is not
    rw [ih]
    constructor
    · rintro ⟨d', ⟨before, after, rfl, hbefore, hunmet⟩, hflaw⟩
      exact ⟨d', ⟨d :: before, after, rfl, List.forall_mem_cons.mpr ⟨h, hbefore⟩, hunmet⟩, hflaw⟩
    · rintro ⟨d', ⟨before, after, hsplit, hbefore, hunmet⟩, hflaw⟩
      cases before with
      | nil =>
        cases hsplit
        exact absurd h hunmet
      | cons b before =>
        cases hsplit
        exact ⟨d', ⟨before, after, rfl, (List.forall_mem_cons.mp hbefore).2, hunmet⟩, hflaw⟩

end Judged

/-! ### Metrics -/

namespace Metric

/-- What is demanded of a metric: name, then value or member, then rate. -/
def demands : Metric → List Demand
  | count name _ options | timing name _ options => [.named name, .bounded options.sampleRate]
  | gauge name value _ => [.named name, .finite value]
  | histogram name value options => [.named name, .finite value, .bounded options.sampleRate]
  | unique name member _ => [.named name, .member member]

theorem encode_eq_orElse (m : Metric) :
    m.encode = Flaw.orElse (.ok ⟨m.plain.render⟩) m.flaw? := by
  rw [encode]
  cases m.flaw? <;> rfl

theorem judged (m : Metric) : Judged m.demands m.encode := by
  have hempty : ∀ s : String, s.isEmpty = true ↔ ¬ s ≠ "" := by simp
  have hfinite : ∀ x : Binary64, (!x.isFinite) = true ↔ ¬ x.isFinite = true := by simp
  have hrate : ∀ x : Binary64, x.isInfinite = true ↔ ¬ x ∉ Binary64.infinities := by
    simp [Binary64.isInfinite_iff]
  rw [encode_eq_orElse]
  cases m with
  | count name _ options | timing name _ options =>
    exact .next (hempty name) (.last (hrate options.sampleRate) (.accepted _))
  | gauge name value _ => exact .next (hempty name) (.last (hfinite value) (.accepted _))
  | histogram name value options =>
    exact .next (hempty name)
      (.next (hfinite value) (.last (hrate options.sampleRate) (.accepted _)))
  | unique name member _ => exact .next (hempty name) (.last (hempty member) (.accepted _))

end Metric

/-! ### The length of an event's line -/

/-- The number of digits of a number; zero has one. -/
def Decimal.places (n : ℕ) : ℕ := Nat.log 10 n + 1

/-- A numeral has a byte for every digit. -/
theorem Decimal.size_natural (n : ℕ) : (natural n).utf8ByteSize = places n := by
  have hdigit : ∀ d < 10, (digit d).utf8Size = 1 := by decide
  -- along the digits, the last one first
  induction n using Nat.strongRecOn with
  | _ n ih =>
    rw [natural, digits]
    split
    · next h =>
      rw [← String.singleton_eq_ofList, String.utf8ByteSize_singleton, hdigit n h, places,
        Nat.log_of_lt h]
    · -- more digits come before the last one
      next h =>
      have hlog : Nat.log 10 n = Nat.log 10 (n / 10) + 1 :=
        Nat.log_of_one_lt_of_le (by decide) (Nat.le_of_not_lt h)
      calc (String.ofList (digits (n / 10) ++ [digit (n % 10)])).utf8ByteSize
          = (natural (n / 10)).utf8ByteSize + (digit (n % 10)).utf8Size := by
            rw [String.ofList_append, String.utf8ByteSize_append, ← String.singleton_eq_ofList,
              String.utf8ByteSize_singleton, natural]
        _ = places (n / 10) + 1 := by
            rw [ih (n / 10) (by omega), hdigit _ (Nat.mod_lt _ (by decide))]
        _ = places n := by rw [places, places, hlog]

/-- The bytes of a clause: the bar, its letter, the colon and the value, if it is written. -/
def clauseLength : Option ℕ → ℕ
  | none => 0
  | some n => 3 + n

/-- The bytes of the tags and of what opens them; empty tags are not written. -/
def tagsLength (tags : Option String) : ℕ :=
  if tags.getD "" = "" then 0 else 2 + (tags.getD "").utf8ByteSize

theorem Framed.size_clause {letter : String} (hletter : letter.utf8ByteSize = 1)
    (value : Option String) :
    (clause letter value).utf8ByteSize = clauseLength (value.map String.utf8ByteSize) := by
  have hbar : ("|" : String).utf8ByteSize = 1 := rfl
  have hcolon : (":" : String).utf8ByteSize = 1 := rfl
  cases value with
  | none => rfl
  | some s =>
    rw [clause, Option.map_some, clauseLength]
    simp only [String.utf8ByteSize_append, hbar, hcolon, hletter]

theorem size_tagsClause (tags : Option String) :
    (tagsClause (writtenTags tags)).utf8ByteSize = tagsLength tags := by
  have hopening : ("|#" : String).utf8ByteSize = 2 := rfl
  cases tags with
  | none => rfl
  | some s =>
    -- empty tags are left out like none at all
    by_cases hs : s = ""
    · subst hs
      rfl
    · have hwritten : writtenTags (some s) = some s := by simp [writtenTags, hs]
      rw [hwritten, tagsClause, tagsLength, Option.getD_some, if_neg hs,
        String.utf8ByteSize_append, hopening]

theorem Framed.size_header (title text : String) :
    (header title text).utf8ByteSize =
      7 + Decimal.places title.utf8ByteSize + Decimal.places text.utf8ByteSize +
        title.utf8ByteSize + text.utf8ByteSize := by
  have hopening : ("_e\x7b" : String).utf8ByteSize = 3 := rfl
  have hcomma : ("," : String).utf8ByteSize = 1 := rfl
  have hclosing : ("\x7d:" : String).utf8ByteSize = 2 := rfl
  have hbar : ("|" : String).utf8ByteSize = 1 := rfl
  simp only [header, String.utf8ByteSize_append, Decimal.size_natural, hopening, hcomma, hclosing,
    hbar]
  omega

namespace Event

/-- The bytes of the word for a priority. -/
def priorityLength : Priority → ℕ
  | .normal => 6
  | .low => 3

/-- The bytes of the word for a sort of event. -/
def alertLength : AlertType → ℕ
  | .info => 4
  | .warning => 7
  | .error => 5
  | .success => 7

theorem size_priority (p : Priority) : p.word.utf8ByteSize = priorityLength p := by
  cases p <;> rfl

theorem size_alertType (a : AlertType) : a.word.utf8ByteSize = alertLength a := by
  cases a <;> rfl

/-- The bytes of the line of an event at the given time, whether or not it may be written. -/
def lineLength (now : Instant) (e : Event) : ℕ :=
  7 + Decimal.places e.title.utf8ByteSize + Decimal.places e.text.utf8ByteSize +
    e.title.utf8ByteSize + e.text.utf8ByteSize +
    clauseLength ((e.stamp.secondsAt now).map Decimal.places) +
    clauseLength (e.host.map String.utf8ByteSize) +
    clauseLength (e.group.map String.utf8ByteSize) +
    clauseLength (e.sourceType.map String.utf8ByteSize) +
    clauseLength (e.priority.map priorityLength) + clauseLength (e.alertType.map alertLength) +
    tagsLength e.tags

/-- The length is that of what is written. -/
theorem size_render (now : Instant) (e : Event) :
    (e.framed now.seconds).render.utf8ByteSize = e.lineLength now := by
  -- every clause has a letter of one byte
  have hletter : ∀ letter ∈ ["d", "h", "k", "s", "p", "t"], letter.utf8ByteSize = 1 := by decide
  simp only [List.forall_mem_cons] at hletter
  obtain ⟨hd, hh, hk, hs, hp, ht, -⟩ := hletter
  simp only [Framed.render, framed, lineLength, String.utf8ByteSize_append, Framed.size_header,
    Framed.size_clause hd, Framed.size_clause hh, Framed.size_clause hk, Framed.size_clause hs,
    Framed.size_clause hp, Framed.size_clause ht, size_tagsClause, ← Stamp.map_resolve,
    Option.map_map, Function.comp_def, Decimal.size_natural, size_priority, size_alertType]

/-- What is demanded of an event: title, then text, then the length of its line. -/
def demands (now : Instant) (e : Event) : List Demand :=
  [.titled e.title, .told e.text, .short (e.lineLength now)]

theorem encode_eq_orElse (now : Instant) (e : Event) :
    e.encode now.seconds =
      Flaw.orElse (Flaw.orElse (.ok ⟨(e.framed now.seconds).render⟩)
        (Flaw.eventTooLong.when (maxEventLength < e.lineLength now))) e.flaw? := by
  have hlength : Line.byteLength ⟨(e.framed now.seconds).render⟩ = e.lineLength now :=
    size_render now e
  simp only [encode, hlength]
  cases e.flaw? with
  | some flaw => rfl
  | none => by_cases h : maxEventLength < e.lineLength now <;> simp [Flaw.orElse, Flaw.when, h]

theorem judged (now : Instant) (e : Event) : Judged (e.demands now) (e.encode now.seconds) := by
  have hempty : ∀ s : String, s.isEmpty = true ↔ ¬ s ≠ "" := by simp
  have hlength : decide (maxEventLength < e.lineLength now) = true ↔ ¬ e.lineLength now ≤ 8192 := by
    rw [decide_eq_true_iff, not_le]
    rfl
  rw [encode_eq_orElse]
  exact .next (hempty e.title) (.last (hempty e.text) (.last hlength (.accepted _)))

end Event

/-! ### Observations -/

namespace Observation

/-- What is demanded of an observation that is encoded at the given time. -/
def demands (now : Instant) : Observation → List Demand
  | .metric m => m.demands
  | .event e => e.demands now

theorem judged (now : Instant) (o : Observation) : Judged (o.demands now) (o.encode now) := by
  cases o with
  | metric m => exact m.judged
  | event e => exact e.judged now

/-- **What the encoder accepts.** An observation has a line exactly if all that is demanded of it is
met; otherwise it is invalid, with the words for the first demand that is not met. The line of an
event has the length that is demanded to be at most 8192. -/
theorem accepted_iff_demands_met (o : Observation) (now : Instant) :
    ((∃ line, o.encode now = .ok line) ↔ ∀ d ∈ o.demands now, d.met) ∧
    (∀ fault, (o.encode now).mapError Flaw.fault = .error fault ↔
      ∃ d, FirstUnmet d (o.demands now) ∧ fault = .described .invalidObservation d.words) ∧
    ∀ e line, o = .event e → o.encode now = .ok line → line.byteLength = e.lineLength now := by
  refine ⟨(o.judged now).ok_iff, fun fault => ?_, ?_⟩
  · -- the fault is made of the flaw, and the flaw is that of a demand
    have hfault : (o.encode now).mapError Flaw.fault = .error fault ↔
        ∃ flaw, o.encode now = .error flaw ∧ fault = flaw.fault := by
      cases o.encode now with
      | ok line => simp [Except.mapError]
      | error flaw => simp [Except.mapError, eq_comm]
    simp only [hfault, (o.judged now).error_iff, Flaw.fault, ← Demand.message_flaw]
    constructor
    · rintro ⟨_, ⟨d, hd, rfl⟩, rfl⟩
      exact ⟨d, hd, rfl⟩
    · rintro ⟨d, hd, rfl⟩
      exact ⟨d.flaw, ⟨d, hd, rfl⟩, rfl⟩
  · rintro e line rfl hline
    rw [Line.byteLength, Event.text_of_encode hline, Event.size_render]

/-- An event whose text has so many letters of two bytes each, stamped when it is encoded. -/
def accented (letters : ℕ) : Event :=
  { title := "abc", text := String.ofList (List.replicate letters 'é') }

theorem size_accented (letters : ℕ) : (accented letters).text.utf8ByteSize = 2 * letters := by
  induction letters with
  | zero => rfl
  | succ n ih =>
    have hsplit : (accented (n + 1)).text = String.singleton 'é' ++ (accented n).text := by
      rw [accented, List.replicate_succ, String.singleton_eq_ofList, accented,
        ← String.ofList_append]
      rfl
    have hletter : 'é'.utf8Size = 2 := by decide
    rw [hsplit, String.utf8ByteSize_append, String.utf8ByteSize_singleton, ih, hletter]
    omega

/-- A time with ten digits of seconds. -/
def encodedAt : Instant := ⟨1700000000999999999⟩

theorem lineLength_accented (letters : ℕ) :
    (accented letters).lineLength encodedAt =
      24 + Decimal.places (2 * letters) + 2 * letters := by
  have hnumeral : Decimal.places ("abc" : String).utf8ByteSize = 1 := by decide
  have hseconds : clauseLength ((Stamp.whenEncoded.secondsAt encodedAt).map Decimal.places) = 13 := by
    decide
  calc (accented letters).lineLength encodedAt
      = 7 + Decimal.places ("abc" : String).utf8ByteSize +
          Decimal.places (accented letters).text.utf8ByteSize + 3 +
          (accented letters).text.utf8ByteSize +
          clauseLength ((Stamp.whenEncoded.secondsAt encodedAt).map Decimal.places) := rfl
    _ = 24 + Decimal.places (2 * letters) + 2 * letters := by
        rw [size_accented, hnumeral, hseconds]
        omega

/-- With 4082 such letters the line of the event has just the length that is allowed, its time
included, and one more letter is too many. -/
theorem accented_accepted :
    (∃ line, (Observation.event (accented 4082)).encode encodedAt = .ok line ∧
      line.byteLength = 8192) ∧
    ((Observation.event (accented 4083)).encode encodedAt).mapError Flaw.fault =
      .error (.described .invalidObservation "maximum event length exceeded") := by
  have htitle : ∀ n, (accented n).title ≠ "" := fun _ => (by decide : "abc" ≠ "")
  have htext : ∀ n, n ≠ 0 → (accented n).text ≠ "" := by
    intro n hn h
    have hsize := size_accented n
    rw [h, String.utf8ByteSize_empty] at hsize
    omega
  -- the text has a length of four digits, so a letter more is two bytes more
  have hfull : (accented 4082).lineLength encodedAt = 8192 := by rw [lineLength_accented]; decide
  have hover : (accented 4083).lineLength encodedAt = 8194 := by rw [lineLength_accented]; decide
  obtain ⟨haccepted, -, hbytes⟩ := accepted_iff_demands_met (.event (accented 4082)) encodedAt
  obtain ⟨-, hrefused, -⟩ := accepted_iff_demands_met (.event (accented 4083)) encodedAt
  constructor
  · have hmet : ∀ d ∈ (Observation.event (accented 4082)).demands encodedAt, d.met :=
      List.forall_mem_cons.mpr ⟨htitle _, List.forall_mem_cons.mpr ⟨htext _ (by decide),
        List.forall_mem_singleton.mpr hfull.le⟩⟩
    obtain ⟨line, hline⟩ := haccepted.mpr hmet
    exact ⟨line, hline, (hbytes _ _ rfl hline).trans hfull⟩
  · -- title and text are there, so the length is the first demand that is not met
    have hunmet : ¬ (accented 4083).lineLength encodedAt ≤ 8192 := by rw [hover]; decide
    refine (hrefused _).mpr ⟨.short _, ⟨[.titled _, .told _], [], rfl, ?_, hunmet⟩, rfl⟩
    exact List.forall_mem_cons.mpr ⟨htitle _, List.forall_mem_singleton.mpr (htext _ (by decide))⟩

end Observation

end MetricCourier
