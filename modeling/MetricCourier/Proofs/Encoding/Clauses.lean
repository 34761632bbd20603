import Mathlib.Data.List.Infix
import MetricCourier.Encoding.Plain

/-!
# Cutting a line into its parts

A line puts texts side by side, and what a line says can be read off it only if each text is cut
off at the right place. There are three ways to know the place.

* A text that does not hold a mark is cut off where the mark first stands, or at the end of the line
  (`cut_at_mark`).
* A text whose length in bytes is known is cut off there, whatever it holds (`cut_at_size`).
* A clause that may be left out is known by its opening. Where all openings begin with the bar and
  none begins another, a series of clauses is cut at the bars, and the opening after each bar says
  which clauses were left out before it (`Clause.series_injective`). The text after the last clause
  is free.
-/

namespace MetricCourier

/-! ### Marks and lengths -/

/-- The rest of a line ends a text at the mark: it opens with the mark, or there is no rest. -/
def EndsAt (mark : Char) (rest : String) : Prop := ∀ c ∈ rest.toList.head?, c = mark

variable {s s' rest rest' : String}

/-- A text that does not hold the mark is what stands before the first one. -/
theorem takeWhile_of_endsAt {mark : Char} (hs : mark ∉ s.toList) (hrest : EndsAt mark rest) :
    (s ++ rest).toList.takeWhile (· != mark) = s.toList := by
  have hall : ∀ c ∈ s.toList, (c != mark) = true := by
    intro c hc
    exact bne_iff_ne.2 fun h => hs (h ▸ hc)
  -- the rest begins with the mark or not at all
  have hnone : rest.toList.takeWhile (· != mark) = [] := by
    unfold EndsAt at hrest
    cases hlist : rest.toList with
    | nil => rfl
    | cons c cs =>
      rw [hlist] at hrest
      rw [hrest c rfl, List.takeWhile_cons_of_neg (by simp)]
  rw [String.toList_append, List.takeWhile_append_of_pos hall, hnone, List.append_nil]

/-- Two texts without the mark, each ended by it, agree when their lines do. -/
theorem cut_at_mark {mark : Char} (hs : mark ∉ s.toList) (hs' : mark ∉ s'.toList)
    (hrest : EndsAt mark rest) (hrest' : EndsAt mark rest') (h : s ++ rest = s' ++ rest') :
    s = s' ∧ rest = rest' := by
  -- each text is what its line has before the first mark
  have htext : s = s' := by
    apply String.toList_injective
    rw [← takeWhile_of_endsAt hs hrest, h, takeWhile_of_endsAt hs' hrest']
  subst htext
  exact ⟨rfl, (String.append_right_inj s).1 h⟩

/-- Two texts of one length in bytes agree when their lines do, whatever they hold. -/
theorem cut_at_size (hsize : s.utf8ByteSize = s'.utf8ByteSize) (h : s ++ rest = s' ++ rest') :
    s = s' ∧ rest = rest' := by
  -- equal bytes in front, as many as both texts have
  have htext : s = s' := by
    have hbytes := congrArg String.toByteArray h
    rw [String.toByteArray_append, String.toByteArray_append] at hbytes
    exact String.toByteArray_inj.1 (ByteArray.append_inj_left hbytes hsize)
  subst htext
  exact ⟨rfl, (String.append_right_inj s).1 h⟩

theorem endsAt_empty (mark : Char) : EndsAt mark "" := fun _ h => nomatch h

/-- A line that opens with the mark ends a text there. -/
theorem endsAt_append {mark : Char} (h : s.toList.head? = some mark) : EndsAt mark (s ++ rest) := by
  intro c hc
  rw [String.toList_append, List.head?_append, h] at hc
  exact (Option.some.inj hc).symm

/-! ### Clauses that may be left out -/

/-- A clause that may be left out: what opens it, and its value where it is written. -/
structure Clause where
  opening : String
  value : Option String

namespace Clause

/-- The text of a clause. -/
def render (c : Clause) : String :=
  match c.value with
  | none => ""
  | some value => c.opening ++ value

/-- The value does not hold the bar with which the next clause opens. -/
def Barless (c : Clause) : Prop := ∀ value ∈ c.value, '|' ∉ value.toList

/-- The texts of clauses in order, and what follows them. -/
def series (cs : List Clause) (rest : String) : String :=
  cs.foldr (fun c line => c.render ++ line) rest

end Clause

/-- Openings that can be told apart: each begins with the bar, and none begins another. -/
structure Openings (os : List String) : Prop where
  bar : ∀ o ∈ os, o.toList.head? = some '|'
  apart : os.Pairwise fun a b => ¬ a.toList <+: b.toList ∧ ¬ b.toList <+: a.toList

/-- The line begins with one of the openings, or is empty. -/
def Opened (os : List String) (line : String) : Prop :=
  line = "" ∨ ∃ o ∈ os, o.toList <+: line.toList

section Series

variable {o : String} {os : List String} {c d : Clause} {cs ds : List Clause}

theorem Openings.tail (h : Openings (o :: os)) : Openings os where
  bar p hp := h.bar p (List.mem_cons_of_mem o hp)
  apart := (List.pairwise_cons.1 h.apart).2

theorem Opened.append (h : Opened os rest) : Opened (c.opening :: os) (c.render ++ rest) := by
  unfold Clause.render
  split
  · -- the clause is left out, and the rest opens as it did
    obtain rfl | ⟨p, hp, hbegins⟩ := h
    · exact .inl rfl
    · exact .inr ⟨p, List.mem_cons_of_mem _ hp, by simpa using hbegins⟩
  · next value _ =>
    refine .inr ⟨c.opening, List.mem_cons_self, ?_⟩
    rw [String.append_assoc, String.toList_append]
    exact List.prefix_append _ _

theorem Opened.series (h : Opened os rest) :
    Opened (cs.map Clause.opening ++ os) (Clause.series cs rest) := by
  induction cs with
  | nil => exact h
  | cons c cs ih => exact ih.append

/-- A line that is empty or opens with a bar ends a text at the bar. -/
theorem Opened.endsAt (h : Opened os rest) (hbar : ∀ o ∈ os, o.toList.head? = some '|') :
    EndsAt '|' rest := by
  obtain rfl | ⟨o, ho, tail, htail⟩ := h
  · exact endsAt_empty _
  · intro c hc
    rw [← htail, List.head?_append, hbar o ho] at hc
    exact (Option.some.inj hc).symm

/-- A line with one opening is none with the others. -/
theorem Openings.ne_of_opened (hos : Openings (o :: os)) (h : Opened os rest) (s : String) :
    o ++ s ≠ rest := by
  rintro rfl
  have hbegins : o.toList <+: (o ++ s).toList := by
    rw [String.toList_append]
    exact List.prefix_append _ _
  obtain hempty | ⟨p, hp, hp'⟩ := h
  · -- an opening is not empty
    have hbar := hos.bar o List.mem_cons_self
    rw [hempty, String.toList_empty, List.prefix_nil] at hbegins
    rw [hbegins] at hbar
    cases hbar
  · obtain ⟨hop, hpo⟩ := (List.pairwise_cons.1 hos.apart).1 p hp
    exact (List.prefix_or_prefix_of_prefix hbegins hp').elim hop hpo

/-- A clause is read off the line that it begins: it is written in both lines, and ends at the
next bar, or in neither, since the line after it opens otherwise. -/
theorem Clause.append_injective (hos : Openings (c.opening :: os)) (hsame : c.opening = d.opening)
    (hc : c.Barless) (hd : d.Barless) (hrest : Opened os rest) (hrest' : Opened os rest')
    (h : c.render ++ rest = d.render ++ rest') : c = d ∧ rest = rest' := by
  obtain ⟨o, value⟩ := c
  obtain ⟨o', value'⟩ := d
  cases hsame
  cases value with
  | none =>
    cases value' with
    | none => exact ⟨rfl, (String.append_right_inj "").1 h⟩
    | some v' =>
      -- left out in one line only, the other would open with a later clause
      refine absurd ?_ (hos.ne_of_opened hrest (v' ++ rest'))
      simpa [render, String.append_assoc] using h.symm
  | some v =>
    cases value' with
    | none =>
      refine absurd ?_ (hos.ne_of_opened hrest' (v ++ rest))
      simpa [render, String.append_assoc] using h
    | some v' =>
      -- written in both, the value ends at the bar of what comes next
      have hline : v ++ rest = v' ++ rest' := by
        apply (String.append_right_inj o).1
        simpa [render, String.append_assoc] using h
      obtain ⟨rfl, hrests⟩ := cut_at_mark (hc v rfl) (hd v' rfl) (hrest.endsAt hos.tail.bar)
        (hrest'.endsAt hos.tail.bar) hline
      exact ⟨rfl, hrests⟩

/-- **Clauses are read off their line.** Two series with the same openings, whose values hold no bar
and which are followed by texts that open otherwise, are written alike only if they have the same
values and the same text follows. -/
theorem Clause.series_injective (hos : Openings (cs.map opening ++ os))
    (hsame : cs.map opening = ds.map opening)
    (hcs : ∀ c ∈ cs, c.Barless) (hds : ∀ d ∈ ds, d.Barless)
    (hrest : Opened os rest) (hrest' : Opened os rest') (h : series cs rest = series ds rest') :
    cs = ds ∧ rest = rest' := by
  induction cs generalizing ds with
  | nil =>
    cases ds with
    | nil => exact ⟨rfl, h⟩
    | cons d ds => cases hsame
  | cons c cs ih =>
    cases ds with
    | nil => cases hsame
    | cons d ds =>
      obtain ⟨hopening, hlater⟩ := List.cons.inj hsame
      obtain ⟨hc, hfree⟩ := List.forall_mem_cons.1 hcs
      obtain ⟨hd, hfree'⟩ := List.forall_mem_cons.1 hds
      -- the rest after a clause opens as a later clause or as what follows them all
      have hopened : Opened (cs.map opening ++ os) (series cs rest) := hrest.series
      have hopened' : Opened (cs.map opening ++ os) (series ds rest') := hlater ▸ hrest'.series
      obtain ⟨rfl, hline⟩ := append_injective hos hopening hc hd hopened hopened' h
      obtain ⟨rfl, hrests⟩ := ih hos.tail hlater hfree hfree' hline
      exact ⟨rfl, hrests⟩

end Series

/-! ### Tags -/

theorem tagsClause_injective {tags tags' : Option String} (h : tagsClause tags = tagsClause tags') :
    tags = tags' := by
  -- a clause that is written is not empty
  have hwritten : ∀ t : String, "|#" ++ t ≠ "" := by
    intro t ht
    have hlist := congrArg String.toList ht
    rw [String.toList_append] at hlist
    cases hlist
  cases tags with
  | none =>
    cases tags' with
    | none => rfl
    | some t' => exact absurd h.symm (hwritten t')
  | some t =>
    cases tags' with
    | none => exact absurd h (hwritten t)
    | some t' => exact congrArg some ((String.append_right_inj "|#").1 h)

/-- What ends a line with its tags opens as such, or is empty. -/
theorem opened_tagsClause (tags : Option String) : Opened ["|#"] (tagsClause tags) := by
  cases tags with
  | none => exact .inl rfl
  | some t =>
    refine .inr ⟨"|#", List.mem_cons_self, ?_⟩
    rw [tagsClause, String.toList_append]
    exact List.prefix_append _ _

/-- The same tags are written exactly where the tags are the same, and none are as good as empty
ones. -/
theorem writtenTags_eq_iff {tags tags' : Option String} :
    writtenTags tags = writtenTags tags' ↔ tags.getD "" = tags'.getD "" := by
  -- both read tags that are missing as empty ones
  have hwritten : ∀ o : Option String,
      writtenTags o = if o.getD "" = "" then none else some (o.getD "") := by
    intro o
    cases o with
    | none => rfl
    | some s => by_cases hs : s = "" <;> simp [writtenTags, Option.filter_some, hs]
  rw [hwritten, hwritten]
  by_cases h : tags.getD "" = ""
  · by_cases h' : tags'.getD "" = ""
    · simp [h, h']
    · simp [h, h', Ne.symm h']
  · by_cases h' : tags'.getD "" = ""
    · simp [h, h']
    · simp [h, h']

end MetricCourier
