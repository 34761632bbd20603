import MetricCourier.Proofs.Text.Numerals
import MetricCourier.Text.Quoted

/-!
# What quoting yields

A message that quotes a text shows all of it. `Quotes` says what a quoted text looks like, without a
word on how it comes about: double quotes at both ends, and between them one piece after the other for
the characters of the text. A piece is an escape of two characters for the few that have one, the
number of a character that would not show, or the character itself (`Quoted.Piece`).

`Quoted.quote` writes this and nothing else (`quotes_iff`). No text is confused with another
(`Quotes.injective`): an escape shows by its backslash and is told from the others by the letter after
it, and the number in one ends at the brace, so the first piece of what is quoted can always be cut off
(`Quoted.Piece.cut`).
-/

namespace MetricCourier

namespace Quoted

/-- The characters that have an escape of two characters, with the letter of each. -/
def letters : List (Char × Char) :=
  [('"', '"'), ('\\', '\\'), ('\n', 'n'), ('\r', 'r'), ('\t', 't'), ('\x00', '0')]

/-- The character would not show as it is: it extends the one before it, shows nothing by itself, or
is of a category that is not printed. -/
def Hidden (c : Char) : Prop :=
  ∃ table ∈ [Extending.basicPlane, Extending.otherPlanes, Ignorable.table, Unprintable.basicPlane,
    Unprintable.otherPlanes], ∃ range ∈ table, range.1 ≤ c.toNat ∧ c.toNat ≤ range.2

/-- What stands for a character between the quotes. -/
inductive Piece : Char → List Char → Prop
  | escape {c letter : Char} (h : (c, letter) ∈ letters) : Piece c ['\\', letter]
  | number {c : Char} (hc : c ∉ letters.map Prod.fst) (hidden : Hidden c) :
      Piece c ('\\' :: 'u' :: '\x7b' :: (Nat.toDigits 16 c.toNat ++ ['\x7d']))
  | plain {c : Char} (hc : c ∉ letters.map Prod.fst) (shown : ¬ Hidden c) : Piece c [c]

/-- The pieces for some characters, one after the other. -/
inductive Pieces : List Char → List Char → Prop
  | nil : Pieces [] []
  | cons {c : Char} {cs piece rest : List Char} (h : Piece c piece) (hrest : Pieces cs rest) :
      Pieces (c :: cs) (piece ++ rest)

end Quoted

/-- The second text is the first one quoted. -/
def Quotes (text quoted : String) : Prop :=
  ∃ body, Quoted.Pieces text.toList body ∧ quoted.toList = '"' :: (body ++ ['"'])

namespace Quoted

/-! ### The tables -/

/-- Of two tables, one for each half of the code points, the half of a character tells which one to
look it up in. -/
theorem contains_halves {basic other : CharTable} (hbasic : basic.ascending)
    (hother : other.ascending) (hlow : basic.all fun r => r.2 < 0x10000)
    (hhigh : other.all fun r => 0x10000 ≤ r.1) (c : Char) :
    (if c.toNat < 0x10000 then basic.contains c else other.contains c) = true ↔
      ∃ table ∈ [basic, other], ∃ r ∈ table, r.1 ≤ c.toNat ∧ c.toNat ≤ r.2 := by
  have hlow' : ∀ r ∈ basic, r.2 < 0x10000 := by simpa using hlow
  have hhigh' : ∀ r ∈ other, 0x10000 ≤ r.1 := by simpa using hhigh
  simp only [List.mem_cons, List.not_mem_nil, or_false, exists_eq_or_imp, exists_eq_left]
  split
  · -- below the first plane ends the other table cannot have it
    rw [CharTable.contains_iff hbasic]
    refine ⟨Or.inl, ?_⟩
    rintro (h | ⟨r, hr, hle, -⟩)
    · exact h
    · have := hhigh' r hr
      omega
  · -- and the other way round
    rw [CharTable.contains_iff hother]
    refine ⟨Or.inr, ?_⟩
    rintro (⟨r, hr, -, hle⟩ | h)
    · have := hlow' r hr
      omega
    · exact h

theorem hidden_iff (c : Char) :
    Hidden c ↔ (Extending.isExtending c || Ignorable.isIgnorable c ||
      Unprintable.isUnprintable c) = true := by
  have hextending := contains_halves Extending.ascending_basicPlane
    Extending.ascending_otherPlanes (by decide +kernel) (by decide +kernel) c
  have hunprintable := contains_halves Unprintable.ascending_basicPlane
    Unprintable.ascending_otherPlanes (by decide +kernel) (by decide +kernel) c
  have hignorable := CharTable.contains_iff Ignorable.ascending_table (c := c)
  rw [Bool.or_eq_true, Bool.or_eq_true, Extending.isExtending, Unprintable.isUnprintable,
    Ignorable.isIgnorable, hextending, hignorable, hunprintable, Hidden]
  simp only [List.mem_cons, List.not_mem_nil, or_false, exists_eq_or_imp, exists_eq_left, or_assoc]

/-! ### What is written -/

theorem mem_fst_letters {c : Char} :
    c ∈ letters.map Prod.fst ↔
      c = '"' ∨ c = '\\' ∨ c = '\n' ∨ c = '\r' ∨ c = '\t' ∨ c = '\x00' := by
  simp [letters]

/-- A character without an escape of its own is written by its number or as it is. -/
theorem escape_of_notMem {c : Char} (h : c ∉ letters.map Prod.fst) :
    escape c = if Extending.isExtending c || Ignorable.isIgnorable c || Unprintable.isUnprintable c
      then '\\' :: 'u' :: '\x7b' :: (Nat.toDigits 16 c.toNat ++ ['\x7d']) else [c] := by
  rw [mem_fst_letters] at h
  simp only [not_or] at h
  obtain ⟨h1, h2, h3, h4, h5, h6⟩ := h
  -- the null character is found by its number, the others by comparison
  have hzero : c.toNat ≠ 0 := fun hc => h6 (Char.toNat_inj.mp hc)
  rw [escape, if_neg h1, if_neg h2, if_neg h3, if_neg h4, if_neg h5, if_neg hzero,
    Hexadecimal.digits_eq]
  rfl

theorem piece_iff {c : Char} {piece : List Char} : Piece c piece ↔ piece = escape c := by
  have hletters : ∀ p ∈ letters, escape p.1 = ['\\', p.2] := by decide
  constructor
  · intro h
    cases h with
    | escape h => exact (hletters _ h).symm
    | number hc hidden => rw [escape_of_notMem hc, if_pos ((hidden_iff c).mp hidden)]
    | plain hc shown => rw [escape_of_notMem hc, if_neg (mt (hidden_iff c).mpr shown)]
  · rintro rfl
    -- the three ways to write a character are the three kinds of pieces
    by_cases hc : c ∈ letters.map Prod.fst
    · obtain ⟨p, hp, rfl⟩ := List.mem_map.mp hc
      rw [hletters p hp]
      exact .escape hp
    · rw [escape_of_notMem hc]
      split
      · next h => exact .number hc ((hidden_iff c).mpr h)
      · next h => exact .plain hc (mt (hidden_iff c).mp h)

theorem pieces_iff {cs body : List Char} : Pieces cs body ↔ body = cs.flatMap escape := by
  constructor
  · intro h
    induction h with
    | nil => rfl
    | cons h _ ih => rw [List.flatMap_cons, ← ih, piece_iff.mp h]
  · rintro rfl
    induction cs with
    | nil => exact .nil
    | cons c cs ih => exact .cons (piece_iff.mpr rfl) ih

/-! ### What is read off it -/

/-- The number of a character ends at the brace behind it. -/
theorem cut_number {n n' : ℕ} {rest rest' : List Char}
    (h : Nat.toDigits 16 n ++ '\x7d' :: rest = Nat.toDigits 16 n' ++ '\x7d' :: rest') :
    n = n' ∧ rest = rest' := by
  have hdigits : ∀ n, ∀ c ∈ Nat.toDigits 16 n, Hexadecimal.isDigit c = true :=
    fun _ _ hc => Hexadecimal.isDigit_zeros (k := 0) hc
  -- the brace is no digit
  have hends : ∀ rest, Ends Hexadecimal.isDigit ('\x7d' :: rest) := ends_cons rfl
  have htake := congrArg (List.takeWhile Hexadecimal.isDigit) h
  have hdrop := congrArg (List.dropWhile Hexadecimal.isDigit) h
  rw [takeWhile_append_of_ends (hdigits n) (hends _),
    takeWhile_append_of_ends (hdigits n') (hends _)] at htake
  rw [dropWhile_append_of_ends (hdigits n) (hends _),
    dropWhile_append_of_ends (hdigits n') (hends _)] at hdrop
  have hvalue := congrArg Hexadecimal.value htake
  rw [← Hexadecimal.digits_eq, ← Hexadecimal.digits_eq, Hexadecimal.value_digits,
    Hexadecimal.value_digits] at hvalue
  exact ⟨hvalue, List.tail_eq_of_cons_eq hdrop⟩

/-- The first piece of what is quoted can be cut off, and says which character it stands for. -/
theorem Piece.cut {c c' : Char} {piece piece' rest rest' : List Char} (h : Piece c piece)
    (h' : Piece c' piece') (heq : piece ++ rest = piece' ++ rest') : c = c' ∧ rest = rest' := by
  -- no two escapes have the same letter, and none has that of a number
  have hletter : ∀ p ∈ letters, ∀ q ∈ letters, p.2 = q.2 → p.1 = q.1 := by decide
  have hu : ∀ p ∈ letters, p.2 ≠ 'u' := by decide
  have hbackslash : ∀ c, c ∉ letters.map Prod.fst → c ≠ '\\' := by
    rintro c hc rfl
    exact hc (by decide)
  -- two pieces that begin alike are of one kind
  cases h with
  | escape hp =>
    cases h' with
    | escape hq =>
      simp only [List.cons_append, List.nil_append, List.cons.injEq, true_and] at heq
      exact ⟨hletter _ hp _ hq heq.1, heq.2⟩
    | number hc _ =>
      simp only [List.cons_append, List.nil_append, List.cons.injEq, true_and] at heq
      exact absurd heq.1 (hu _ hp)
    | plain hc _ => exact absurd (List.head_eq_of_cons_eq heq).symm (hbackslash _ hc)
  | number hc _ =>
    cases h' with
    | escape hq =>
      simp only [List.cons_append, List.nil_append, List.cons.injEq, true_and] at heq
      exact absurd heq.1.symm (hu _ hq)
    | number hc' _ =>
      simp only [List.cons_append, List.append_assoc, List.nil_append, List.cons.injEq,
        true_and] at heq
      obtain ⟨hnumber, hrest⟩ := cut_number heq
      exact ⟨Char.toNat_inj.mp hnumber, hrest⟩
    | plain hc' _ => exact absurd (List.head_eq_of_cons_eq heq).symm (hbackslash _ hc')
  | plain hc _ =>
    cases h' with
    | escape _ | number _ _ => exact absurd (List.head_eq_of_cons_eq heq) (hbackslash _ hc)
    | plain hc' _ => exact ⟨List.head_eq_of_cons_eq heq, List.tail_eq_of_cons_eq heq⟩

theorem Piece.ne_nil {c : Char} {piece : List Char} (h : Piece c piece) : piece ≠ [] := by
  cases h with
  | escape _ | number _ _ | plain _ _ => exact List.cons_ne_nil _ _

/-- Characters can be read off their pieces. -/
theorem Pieces.injective {cs cs' body : List Char} (h : Pieces cs body) (h' : Pieces cs' body) :
    cs = cs' := by
  -- by induction on the pieces of the one text, cutting them off both
  induction h generalizing cs' with
  | nil =>
    generalize hbody : ([] : List Char) = body at h'
    cases h' with
    | nil => rfl
    | cons h' _ => exact absurd (List.append_eq_nil_iff.mp hbody.symm).1 h'.ne_nil
  | @cons c cs piece rest h hrest ih =>
    generalize hbody : piece ++ rest = body at h'
    cases h' with
    | nil => exact absurd (List.append_eq_nil_iff.mp hbody).1 h.ne_nil
    | cons h' hrest' =>
      obtain ⟨rfl, rfl⟩ := h.cut h' hbody
      rw [ih hrest']

end Quoted

/-- **Quoting yields just this.** -/
theorem quotes_iff {text quoted : String} : Quotes text quoted ↔ quoted = Quoted.quote text := by
  have hbody : (Quoted.quote text).toList = '"' :: (text.toList.flatMap Quoted.escape ++ ['"']) := by
    rw [Quoted.quote, String.toList_ofList]
    rfl
  rw [← String.toList_inj, hbody]
  constructor
  · rintro ⟨body, hpieces, hquoted⟩
    rw [hquoted, Quoted.pieces_iff.mp hpieces]
  · intro h
    exact ⟨_, Quoted.pieces_iff.mpr rfl, h⟩

/-- **A text can be read off its quoted form.** -/
theorem Quotes.injective {text text' quoted : String} (h : Quotes text quoted)
    (h' : Quotes text' quoted) : text = text' := by
  obtain ⟨body, hpieces, hquoted⟩ := h
  obtain ⟨body', hpieces', hquoted'⟩ := h'
  -- the quotes at both ends are the same
  have hbody : body = body' := by
    have hends := List.tail_eq_of_cons_eq (hquoted.symm.trans hquoted')
    exact List.append_cancel_right hends
  subst hbody
  exact String.toList_inj.mp (hpieces.injective hpieces')

end MetricCourier
