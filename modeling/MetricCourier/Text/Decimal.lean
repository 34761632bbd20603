/-!
# Decimal numerals

Every number in a line, a length header, an address or a message is a decimal numeral without
superfluous leading zeros. This module writes them and reads digits back.

* `Decimal.digits` is the numeral of a natural number, most significant digit first;
  `Decimal.natural` and `Decimal.integer` are its texts.
* `Decimal.padded` fills a numeral up to a width with zeros, as the places after a point need.
* `Decimal.value` is the number a list of digits denotes, and `Decimal.read?` also demands that
  there is at least one digit and nothing else.

The numerals are those of `Nat.toDigits` in base ten (`digits_eq`). `value_digits` says that reading
inverts writing, so two numerals agree only when their numbers do (`natural_injective`,
`integer_injective`). A numeral holds nothing but digits (`isDigit_of_mem_digits`), so that whatever
else follows it ends it; it has at least one (`digits_ne_nil`), no more than its number needs
(`length_digits_le`), and no zero first unless it is zero (`eq_zero_of_head_digits`). Filling up with
zeros changes the width (`length_padded`) and not the number (`value_padded`).
-/

namespace MetricCourier.Decimal

/-- The character of a digit below ten. -/
def digit (d : Nat) : Char := Char.ofNat (48 + d)

/-- Is the character one of the ten ASCII digits? -/
def isDigit (c : Char) : Bool := 48 ≤ c.toNat && c.toNat ≤ 57

/-- The numeral of a number, most significant digit first; zero has one digit. -/
def digits (n : Nat) : List Char :=
  if n < 10 then [digit n] else digits (n / 10) ++ [digit (n % 10)]

/-- The numeral of a number, with zeros before it up to the given width. -/
def padded (width n : Nat) : List Char :=
  List.replicate (width - (digits n).length) '0' ++ digits n

/-- The numeral of a natural number as text. -/
def natural (n : Nat) : String := String.ofList (digits n)

/-- The numeral of an integer: a minus sign stands before a negative one. -/
def integer (z : Int) : String :=
  if z < 0 then "-" ++ natural z.natAbs else natural z.natAbs

/-- The number that a list of digits denotes, read from the left. -/
def value (cs : List Char) : Nat := cs.foldl (fun n c => 10 * n + (c.toNat - 48)) 0

/-- Reads a numeral: one or more ASCII digits and nothing else, leading zeros allowed. -/
def read? (cs : List Char) : Option Nat :=
  if cs ≠ [] ∧ cs.all isDigit then some (value cs) else none

/-- A numeral is Lean's own. -/
theorem digits_eq (n : Nat) : digits n = Nat.toDigits 10 n := by
  have hdigit : ∀ d < 10, digit d = d.digitChar := by decide
  -- along the digits, the last one first
  induction n using Nat.strongRecOn with
  | _ n ih =>
    rw [digits, Nat.toDigits_eq_if (by decide)]
    split
    · next h => rw [hdigit n h]
    · next h => rw [ih _ (by omega), hdigit _ (Nat.mod_lt _ (by decide))]

theorem natural_eq (n : Nat) : natural n = Nat.repr n := by
  rw [natural, digits_eq, Nat.repr_eq_ofList_toDigits]

/-- A digit's character lies as far above `0` as the digit says. -/
theorem toNat_digit {d : Nat} (h : d < 10) : (digit d).toNat = 48 + d :=
  (by decide : ∀ d < 10, (digit d).toNat = 48 + d) d h

/-- Reading a numeral gives back its number. -/
theorem value_digits (n : Nat) : value (digits n) = n := by
  induction n using Nat.strongRecOn with
  | _ n ih =>
    unfold digits
    split
    · next h => simp [value, toNat_digit h]
    · next h =>
      -- the digits before the last one denote the quotient by ten
      have hq := ih (n / 10) (by omega)
      have hr : n % 10 < 10 := Nat.mod_lt _ (by omega)
      unfold value at hq ⊢
      rw [List.foldl_append, hq]
      simp only [List.foldl_cons, List.foldl_nil, toNat_digit hr]
      omega

/-- Different numbers have different numerals. -/
theorem digits_injective {m n : Nat} (h : digits m = digits n) : m = n := by
  rw [← value_digits m, h, value_digits]

theorem isDigit_digit {d : Nat} (h : d < 10) : isDigit (digit d) = true :=
  (by decide : ∀ d < 10, isDigit (digit d) = true) d h

/-- A numeral holds nothing but digits. -/
theorem isDigit_of_mem_digits {n : Nat} {c : Char} (h : c ∈ digits n) : isDigit c = true := by
  induction n using Nat.strongRecOn with
  | _ n ih =>
    rw [digits] at h
    split at h
    · next hn =>
      rw [List.mem_singleton] at h
      exact h ▸ isDigit_digit hn
    · next hn =>
      -- the last digit, or one before it
      obtain h | h := List.mem_append.1 h
      · exact ih (n / 10) (by omega) h
      · rw [List.mem_singleton] at h
        exact h ▸ isDigit_digit (Nat.mod_lt _ (by omega))

theorem digits_ne_nil (n : Nat) : digits n ≠ [] := by
  rw [digits_eq]
  exact Nat.toDigits_ne_nil

/-- A number below a power of ten has no more digits than that power has zeros. -/
theorem length_digits_le {n places : Nat} (hplaces : 0 < places) (h : n < Nat.pow 10 places) :
    (digits n).length ≤ places := by
  rw [digits_eq]
  exact (Nat.length_toDigits_le_iff (by decide) hplaces).mpr h

/-- Only zero is written with a zero first. -/
theorem eq_zero_of_head_digits {n : Nat} (h : (digits n).head? = some '0') : n = 0 := by
  induction n using Nat.strongRecOn with
  | _ n ih =>
    rw [digits] at h
    split at h
    · next hn =>
      have hzero : ∀ d < 10, digit d = '0' → d = 0 := by decide
      exact hzero n hn (Option.some.inj h)
    · next hn =>
      -- the first digit is that of the quotient, since a quotient has digits
      have hhead : (digits (n / 10)).head? = some '0' := by
        obtain ⟨c, cs, hcs⟩ := List.exists_cons_of_ne_nil (digits_ne_nil (n / 10))
        rw [hcs] at h ⊢
        exact h
      have hq := ih (n / 10) (by omega) hhead
      omega

/-- Zeros before a numeral do not count. -/
theorem value_padded (width n : Nat) : value (padded width n) = n := by
  have hzeros : ∀ k, (List.replicate k '0').foldl (fun n c => 10 * n + (c.toNat - 48)) 0 = 0 := by
    intro k
    induction k with
    | zero => rfl
    | succ k ih => rw [List.replicate_succ, List.foldl_cons]; exact ih
  rw [value, padded, List.foldl_append, hzeros]
  exact value_digits n

/-- A number below a power of ten takes as many places as that power has zeros. -/
theorem length_padded {width n : Nat} (hwidth : 0 < width) (h : n < Nat.pow 10 width) :
    (padded width n).length = width := by
  rw [padded, List.length_append, List.length_replicate]
  exact Nat.sub_add_cancel (length_digits_le hwidth h)

theorem isDigit_of_mem_padded {width n : Nat} {c : Char} (h : c ∈ padded width n) :
    isDigit c = true := by
  obtain h | h := List.mem_append.1 h
  · rw [List.eq_of_mem_replicate h]
    rfl
  · exact isDigit_of_mem_digits h

theorem toList_natural (n : Nat) : (natural n).toList = digits n := String.toList_ofList

theorem isDigit_of_mem_natural {n : Nat} {c : Char} (h : c ∈ (natural n).toList) :
    isDigit c = true := by
  rw [toList_natural] at h
  exact isDigit_of_mem_digits h

theorem notMem_natural {c : Char} (hc : isDigit c = false) (n : Nat) : c ∉ (natural n).toList := by
  intro h
  rw [isDigit_of_mem_natural h] at hc
  cases hc

/-- A numeral with a sign holds digits and perhaps a minus sign. -/
theorem notMem_integer {c : Char} (hc : isDigit c = false) (hsign : c ≠ '-') (z : Int) :
    c ∉ (integer z).toList := by
  intro h
  unfold integer at h
  split at h
  · rw [String.toList_append, List.mem_append] at h
    -- the sign, or a digit behind it
    obtain h | h := h
    · exact hsign (List.mem_singleton.1 h)
    · exact notMem_natural hc _ h
  · exact notMem_natural hc _ h

theorem natural_injective {m n : Nat} (h : natural m = natural n) : m = n :=
  digits_injective (String.ofList_injective h)

/-- Different integers have different numerals: the sign of a negative one is no digit. -/
theorem integer_injective {y z : Int} (h : integer y = integer z) : y = z := by
  have hsign : ∀ m n, natural m ≠ "-" ++ natural n := by
    intro m n hmn
    refine notMem_natural (rfl : isDigit '-' = false) m ?_
    rw [hmn, String.toList_append]
    exact List.mem_append_left _ List.mem_cons_self
  unfold integer at h
  -- both negative, one of them, or none
  split at h <;> split at h
  · have := natural_injective ((String.append_right_inj _).1 h)
    omega
  · exact absurd h.symm (hsign _ _)
  · exact absurd h (hsign _ _)
  · have := natural_injective h
    omega

end MetricCourier.Decimal
