import MetricCourier.Net.Literal
import MetricCourier.Proofs.Text.Numerals

/-!
# Reading numerals and addresses of the fourth version

A reader takes what it recognises off the front of a text. What was written is read back, and all
that follows is handed on, if the text does not go on as if it were part of what was written: a
numeral ends where no digit follows (`Ends`), and so do an octet (`Ipv4.readOctet_digits`), an
address of the fourth version, which ends in one (`Ipv4.read_text`), and a port
(`Port.read_digits`).

A reader of octets also looks no further than a colon. What it makes of a text is the same before a
colon as by itself (`Local`), which is why a host and a port can be told apart that are written with
a colon between them.
-/

namespace MetricCourier

/-! ### Readers that look no further than a colon -/

/-- What the reader makes of a text does not depend on whether a colon and more follow. -/
def Local {α : Type} (reader : List Char → Option (α × List Char)) : Prop :=
  ∀ cs tail, reader (cs ++ ':' :: tail) = (reader cs).map fun r => (r.1, r.2 ++ ':' :: tail)

namespace Local

variable {α β : Type}

theorem pure (a : α) : Local fun cs => some (a, cs) := fun _ _ => rfl

/-- One such reader after another is one, too. -/
theorem bind {first : List Char → Option (α × List Char)}
    {second : α → List Char → Option (β × List Char)} (hfirst : Local first)
    (hsecond : ∀ a, Local (second a)) :
    Local fun cs => (first cs).bind fun r => second r.1 r.2 := by
  intro cs tail
  dsimp only
  rw [hfirst cs tail]
  -- the second reader is handed what the first one left, colon included
  cases first cs with
  | none => rfl
  | some r => exact hsecond r.1 r.2 tail

/-- A run of characters that a colon does not belong to ends before the colon. -/
theorem takeWhile {kind : Char → Bool} (hcolon : kind ':' = false) (cs tail : List Char) :
    (cs ++ ':' :: tail).takeWhile kind = cs.takeWhile kind := by
  -- along the text
  induction cs with
  | nil => exact List.takeWhile_cons_of_neg (by rw [hcolon]; exact Bool.false_ne_true)
  | cons c cs ih =>
    rw [List.cons_append, List.takeWhile_cons, List.takeWhile_cons, ih]

theorem dropWhile {kind : Char → Bool} (hcolon : kind ':' = false) (cs tail : List Char) :
    (cs ++ ':' :: tail).dropWhile kind = cs.dropWhile kind ++ ':' :: tail := by
  induction cs with
  | nil => exact List.dropWhile_cons_of_neg (by rw [hcolon]; exact Bool.false_ne_true)
  | cons c cs ih =>
    rw [List.cons_append, List.dropWhile_cons, List.dropWhile_cons, ih]
    split <;> rfl

end Local

/-! ### Addresses of the fourth version -/

namespace Ipv4

variable {rest : List Char}

theorem readOctet_digits (o : UInt8) (hrest : Ends Decimal.isDigit rest) :
    readOctet (Decimal.digits o.toNat ++ rest) = some (o, rest) := by
  have hsize : o.toNat < 256 := o.toNat_lt
  have hdigits : ∀ c ∈ Decimal.digits o.toNat, Decimal.isDigit c = true :=
    fun c => Decimal.isDigit_of_mem_digits
  have hlength : (Decimal.digits o.toNat).length ≤ 3 :=
    Decimal.length_digits_le (by decide) (Nat.lt_trans hsize (by decide))
  -- a first zero is the only digit
  have hzero : ¬ ((Decimal.digits o.toNat).head? = some '0' ∧
      1 < (Decimal.digits o.toNat).length) := by
    rintro ⟨hhead, hmore⟩
    rw [Decimal.eq_zero_of_head_digits hhead, Decimal.digits] at hmore
    exact Nat.lt_irrefl 1 hmore
  -- the run of digits is the numeral, and nothing that is wrong with a run is wrong with it
  unfold readOctet
  simp only [takeWhile_append_of_ends hdigits hrest, dropWhile_append_of_ends hdigits hrest,
    Decimal.value_digits]
  rw [if_neg]
  · rw [UInt8.ofNat_toNat]
  · rintro (hnone | hlong | hpadded | hlarge)
    · exact Decimal.digits_ne_nil _ hnone
    · omega
    · exact hzero hpadded
    · omega

theorem readNext_digits (o : UInt8) (hrest : Ends Decimal.isDigit rest) :
    readNext ('.' :: (Decimal.digits o.toNat ++ rest)) = some (o, rest) :=
  readOctet_digits o hrest

theorem toList_text (a : Ipv4) :
    a.text.toList = Decimal.digits a.first.toNat ++ '.' :: (Decimal.digits a.second.toNat ++
      '.' :: (Decimal.digits a.third.toNat ++ '.' :: Decimal.digits a.fourth.toNat)) := by
  simp [text, Decimal.natural]

/-- **The text of an address is read back,** whatever follows but a digit. -/
theorem read_text (a : Ipv4) (hrest : Ends Decimal.isDigit rest) :
    read (a.text.toList ++ rest) = some (a, rest) := by
  have hpoint : ∀ more, Ends Decimal.isDigit ('.' :: more) := ends_cons rfl
  simp only [toList_text, List.append_assoc, List.cons_append, read, readOctet_digits _ (hpoint _),
    readNext_digits _ (hpoint _), readNext_digits _ hrest, Option.bind_eq_bind, Option.bind_some]
  rfl

theorem rest_of_readOctet {cs cs' : List Char} {o : UInt8} (h : readOctet cs = some (o, cs')) :
    cs' = cs.dropWhile Decimal.isDigit := by
  simp only [readOctet] at h
  split at h
  · cases h
  · cases h
    rfl

theorem read_text_nil (a : Ipv4) : read a.text.toList = some (a, []) := by
  have h := read_text a (ends_nil _)
  rwa [List.append_nil] at h

/-- A text whose first digits are not followed by a point is no address. -/
theorem read_eq_none {cs : List Char} (h : (cs.dropWhile Decimal.isDigit).head? ≠ some '.') :
    read cs = none := by
  have hnext : readNext (cs.dropWhile Decimal.isDigit) = none := by
    cases hcs : cs.dropWhile Decimal.isDigit with
    | nil => rfl
    | cons c tail =>
      rw [hcs] at h
      have hc : c ≠ '.' := fun heq => h (congrArg some heq)
      simp only [readNext, skipChar, if_neg hc]
      rfl
  -- after an octet the digits are used up, and no point follows
  cases hoctet : readOctet cs with
  | none => simp only [read, hoctet, Option.bind_eq_bind, Option.bind_none]
  | some r =>
    rw [← rest_of_readOctet (show readOctet cs = some (r.1, r.2) from hoctet)] at hnext
    simp only [read, hoctet, Option.bind_eq_bind, Option.bind_some, hnext, Option.bind_none]

theorem local_readOctet : Local readOctet := by
  intro cs tail
  have htake := Local.takeWhile (rfl : Decimal.isDigit ':' = false) cs tail
  have hdrop := Local.dropWhile (rfl : Decimal.isDigit ':' = false) cs tail
  simp only [readOctet, htake, hdrop]
  split <;> rfl

theorem local_readNext : Local readNext := by
  intro cs tail
  cases cs with
  | nil => rfl
  | cons c cs =>
    -- the point comes first or the reader gives up
    by_cases hc : c = '.'
    · subst hc
      exact local_readOctet cs tail
    · simp only [readNext, List.cons_append, skipChar, if_neg hc]
      rfl

theorem local_read : Local read :=
  local_readOctet.bind fun _ => local_readNext.bind fun _ => local_readNext.bind fun _ =>
    local_readNext.bind fun _ => Local.pure _

end Ipv4

/-! ### Ports -/

namespace Port

variable {rest : List Char}

theorem ofDigits?_digits (p : UInt16) : ofDigits? (Decimal.digits p.toNat) = some p := by
  have hsize : p.toNat < 65536 := p.toNat_lt
  have hdigits : (Decimal.digits p.toNat).all Decimal.isDigit = true :=
    List.all_eq_true.2 fun c => Decimal.isDigit_of_mem_digits
  -- the digits have the value they were written for
  have hread : Decimal.read? (Decimal.digits p.toNat) = some p.toNat := by
    rw [Decimal.read?, if_pos ⟨Decimal.digits_ne_nil _, hdigits⟩, Decimal.value_digits]
  have hsmall : p.toNat ≤ 65535 := by omega
  simp only [ofDigits?, hread, Option.bind_eq_bind, Option.bind_some, if_pos hsmall,
    UInt16.ofNat_toNat]

/-- A port behind a colon is read back, whatever follows but a digit. -/
theorem read_digits (p : UInt16) (hrest : Ends Decimal.isDigit rest) :
    read (':' :: (Decimal.digits p.toNat ++ rest)) = some (p, rest) := by
  have hdigits : ∀ c ∈ Decimal.digits p.toNat, Decimal.isDigit c = true :=
    fun c => Decimal.isDigit_of_mem_digits
  simp only [read, skipChar, if_true, Option.bind_eq_bind, Option.bind_some,
    takeWhile_append_of_ends hdigits hrest, dropWhile_append_of_ends hdigits hrest,
    ofDigits?_digits]
  rfl

theorem read_digits_nil (p : UInt16) :
    read (':' :: Decimal.digits p.toNat) = some (p, []) := by
  have h := read_digits p (ends_nil _)
  rwa [List.append_nil] at h

/-- A port by itself is read back: its first character is a digit and no sign. -/
theorem ofText?_digits (p : UInt16) : ofText? (Decimal.digits p.toNat) = some p := by
  unfold ofText?
  split
  · next digits hplus =>
    have hdigit : Decimal.isDigit '+' = true :=
      Decimal.isDigit_of_mem_digits (n := p.toNat) (by rw [hplus]; exact List.mem_cons_self)
    cases hdigit
  · exact ofDigits?_digits p

end Port

end MetricCourier
