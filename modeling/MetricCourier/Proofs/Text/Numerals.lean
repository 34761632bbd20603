import Mathlib.Data.List.Induction
import MetricCourier.Text.Decimal
import MetricCourier.Text.Hexadecimal

/-!
# Numerals as the library writes them

The numerals of this library are those of Lean's own `Nat.toDigits`, in base ten
(`Decimal.digits_eq`) and in base sixteen (`Hexadecimal.digits_eq`). So what a text must look like to
be a numeral can be said without the readers, and each reader is shown to agree with that: a list of
digits is the numeral of the number that it denotes, with zeros before it (`Decimal.exists_zeros`,
`Hexadecimal.exists_zeros`), in lower case where there are two. Both are one fact about digits in any
base (`exists_zeros_of_digits`).

In a text a numeral ends where no digit follows, which is what `Ends` says for characters of any kind.
-/

namespace MetricCourier

/-! ### Where digits end -/

/-- The text does not go on with a character of the given kind. -/
def Ends (kind : Char → Bool) (rest : List Char) : Prop := ∀ c ∈ rest.head?, kind c = false

section Ends

variable {kind : Char → Bool} {cs rest : List Char}

theorem ends_nil (kind : Char → Bool) : Ends kind [] := fun _ h => nomatch h

theorem ends_cons {c : Char} (h : kind c = false) (rest : List Char) : Ends kind (c :: rest) := by
  intro d hd
  rw [← Option.some.inj hd]
  exact h

theorem takeWhile_of_ends (hrest : Ends kind rest) : rest.takeWhile kind = [] := by
  cases rest with
  | nil => rfl
  | cons c tail => exact List.takeWhile_cons_of_neg (by rw [hrest c rfl]; exact Bool.false_ne_true)

theorem dropWhile_of_ends (hrest : Ends kind rest) : rest.dropWhile kind = rest := by
  cases rest with
  | nil => rfl
  | cons c tail => exact List.dropWhile_cons_of_neg (by rw [hrest c rfl]; exact Bool.false_ne_true)

theorem takeWhile_append_of_ends (hcs : ∀ c ∈ cs, kind c = true) (hrest : Ends kind rest) :
    (cs ++ rest).takeWhile kind = cs := by
  rw [List.takeWhile_append_of_pos hcs, takeWhile_of_ends hrest, List.append_nil]

theorem dropWhile_append_of_ends (hcs : ∀ c ∈ cs, kind c = true) (hrest : Ends kind rest) :
    (cs ++ rest).dropWhile kind = rest := by
  rw [List.dropWhile_append_of_pos hcs, dropWhile_of_ends hrest]

end Ends

/-! ### Zeros in front -/

/-- Digits, each of a value below the base, are zeros and then the numeral of what they add up to. -/
theorem exists_zeros_of_digits {base : ℕ} (hbase : 1 < base) {value : Char → ℕ} {low : Char → Char}
    {cs : List Char} (hcs : cs ≠ [])
    (hdigit : ∀ c ∈ cs, value c < base ∧ (value c).digitChar = low c) :
    ∃ k, cs.map low = List.replicate k '0' ++
      Nat.toDigits base (cs.foldl (fun n c => base * n + value c) 0) := by
  -- along the digits, the last one first
  induction cs using List.reverseRecOn with
  | nil => exact absurd rfl hcs
  | append_singleton ds d ih =>
    obtain ⟨hvalue, hlow⟩ := hdigit d (List.mem_append_right _ List.mem_cons_self)
    rw [List.map_append, List.map_singleton, List.foldl_append, List.foldl_cons, List.foldl_nil]
    generalize hn : ds.foldl (fun n c => base * n + value c) 0 = n at ih ⊢
    by_cases hds : ds = []
    · subst hds
      obtain rfl : 0 = n := hn
      -- a single digit is its own numeral
      refine ⟨0, ?_⟩
      rw [Nat.mul_zero, Nat.zero_add, Nat.toDigits_of_lt_base hvalue, hlow]
      rfl
    · obtain ⟨k, hk⟩ := ih hds fun c hc => hdigit c (List.mem_append_left _ hc)
      rw [hk]
      by_cases hzero : n = 0
      · -- so far there are only zeros, and the numeral of zero is one more of them
        refine ⟨k + 1, ?_⟩
        rw [hzero, Nat.mul_zero, Nat.zero_add, Nat.toDigits_zero, Nat.toDigits_of_lt_base hvalue,
          hlow, List.replicate_succ']
      · -- a numeral that is not zero takes one more digit at its end
        refine ⟨k, ?_⟩
        rw [← Nat.toDigits_append_toDigits hbase (Nat.pos_of_ne_zero hzero) hvalue,
          Nat.toDigits_of_lt_base hvalue, hlow, List.append_assoc]

namespace Decimal

/-- Decimal digits are zeros and then the numeral of the number that they denote. -/
theorem exists_zeros {cs : List Char} (hcs : cs ≠ []) (hdigit : ∀ c ∈ cs, isDigit c = true) :
    ∃ k, cs = List.replicate k '0' ++ Nat.toDigits 10 (value cs) := by
  have hchar : ∀ c ∈ cs, c.toNat - 48 < 10 ∧ (c.toNat - 48).digitChar = c := by
    intro c hc
    have hrange := hdigit c hc
    rw [isDigit, Bool.and_eq_true, decide_eq_true_iff, decide_eq_true_iff] at hrange
    refine ⟨by omega, Char.toNat_inj.mp ?_⟩
    rw [Nat.toNat_digitChar_of_lt_ten (by omega)]
    omega
  have hzeros := exists_zeros_of_digits (by decide) hcs hchar
  rwa [List.map_id'] at hzeros

/-- Zeros and then a numeral are digits that denote its number. -/
theorem value_zeros (k n : ℕ) :
    value (List.replicate k '0' ++ Nat.toDigits 10 n) = n := by
  have hpadded : List.replicate k '0' ++ Nat.toDigits 10 n = padded (k + (digits n).length) n := by
    rw [padded, Nat.add_sub_cancel, digits_eq]
  rw [hpadded, value_padded]

theorem isDigit_zeros {k n : ℕ} {c : Char} (h : c ∈ List.replicate k '0' ++ Nat.toDigits 10 n) :
    isDigit c = true := by
  obtain h | h := List.mem_append.mp h
  · rw [List.eq_of_mem_replicate h]
    rfl
  · rw [← digits_eq] at h
    exact isDigit_of_mem_digits h

end Decimal

namespace Hexadecimal

/-- A digit of either case has the value of the digit that it is in lower case. -/
theorem digitChar_value {c : Char} {v : ℕ} (h : digitValue? c = some v) :
    v < 16 ∧ v.digitChar = c.toLower := by
  have hascii : c.toNat < 128 := by
    unfold digitValue? at h
    dsimp only at h
    split at h
    · omega
    · split at h
      · omega
      · split at h
        · omega
        · cases h
  -- the digits are ASCII characters, so they can be looked through one by one
  have hall : ∀ n < 128, ∀ v ∈ digitValue? (Char.ofNat n),
      v < 16 ∧ v.digitChar = (Char.ofNat n).toLower := by decide
  have hchar := hall c.toNat hascii
  rw [Char.ofNat_toNat] at hchar
  exact hchar v h

/-- The case of a digit does not matter. -/
theorem digitValue?_toLower (c : Char) : digitValue? c.toLower = digitValue? c := by
  by_cases hascii : c.toNat < 128
  · have hall : ∀ n < 128,
        digitValue? (Char.ofNat n).toLower = digitValue? (Char.ofNat n) := by decide
    have hchar := hall c.toNat hascii
    rwa [Char.ofNat_toNat] at hchar
  · -- only ASCII letters have a lower case here
    have hsame : c.toLower = c := by
      refine dif_neg fun hupper => hascii ?_
      exact Nat.lt_of_le_of_lt hupper.2 (by decide)
    rw [hsame]

/-- A numeral is written in lower case. -/
theorem map_toLower_digits (n : ℕ) : (digits n).map Char.toLower = digits n := by
  have hdigit : ∀ d < 16, (digit d).toLower = digit d := by decide
  -- along the digits, the last one first
  induction n using Nat.strongRecOn with
  | _ n ih =>
    rw [digits]
    split
    · next h => rw [List.map_singleton, hdigit n h]
    · rw [List.map_append, List.map_singleton, ih _ (by omega), hdigit _ (Nat.mod_lt _ (by decide))]

theorem isDigit_toLower (c : Char) : isDigit c.toLower = isDigit c := by
  rw [isDigit, isDigit, digitValue?_toLower]

theorem value_toLower (cs : List Char) : value (cs.map Char.toLower) = value cs := by
  rw [value, List.foldl_map]
  simp only [digitValue?_toLower]
  rfl

/-- Hexadecimal digits are, in lower case, zeros and then the numeral of the number that they
denote. -/
theorem exists_zeros {cs : List Char} (hcs : cs ≠ []) (hdigit : ∀ c ∈ cs, isDigit c = true) :
    ∃ k, cs.map Char.toLower = List.replicate k '0' ++ Nat.toDigits 16 (value cs) := by
  have hchar : ∀ c ∈ cs,
      (digitValue? c).getD 0 < 16 ∧ ((digitValue? c).getD 0).digitChar = c.toLower := by
    intro c hc
    obtain ⟨v, hv⟩ := Option.isSome_iff_exists.mp (hdigit c hc)
    rw [hv]
    exact digitChar_value hv
  exact exists_zeros_of_digits (by decide) hcs hchar

/-- Zeros and then a numeral are digits that denote its number. -/
theorem value_zeros (k n : ℕ) : value (List.replicate k '0' ++ Nat.toDigits 16 n) = n := by
  have hzeros : (List.replicate k '0').foldl
      (fun n c => 16 * n + (digitValue? c).getD 0) 0 = 0 := by
    induction k with
    | zero => rfl
    | succ k ih => rw [List.replicate_succ, List.foldl_cons]; exact ih
  rw [value, List.foldl_append, hzeros, ← digits_eq]
  exact value_digits n

theorem isDigit_zeros {k n : ℕ} {c : Char} (h : c ∈ List.replicate k '0' ++ Nat.toDigits 16 n) :
    isDigit c = true := by
  obtain h | h := List.mem_append.mp h
  · rw [List.eq_of_mem_replicate h]
    rfl
  · rw [← digits_eq] at h
    exact isDigit_of_mem_digits h

end Hexadecimal

end MetricCourier
