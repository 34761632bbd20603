/-!
# Hexadecimal numerals

The numerals of groups in addresses and of characters in quoted text: lower case and without
leading zeros when written, as `Nat.toDigits` has them in base sixteen (`digits_eq`), and either case
when read.
-/

namespace MetricCourier.Hexadecimal

/-- The character of a digit below sixteen. -/
def digit (d : Nat) : Char := Char.ofNat (if d < 10 then 48 + d else 87 + d)

/-- The numeral of a number, most significant digit first; zero has one digit. -/
def digits (n : Nat) : List Char :=
  if n < 16 then [digit n] else digits (n / 16) ++ [digit (n % 16)]

/-- The value of a digit of either case. -/
def digitValue? (c : Char) : Option Nat :=
  let n := c.toNat
  if 48 ≤ n ∧ n ≤ 57 then some (n - 48)
  else if 97 ≤ n ∧ n ≤ 102 then some (n - 87)
  else if 65 ≤ n ∧ n ≤ 70 then some (n - 55)
  else none

/-- Is the character a digit? -/
def isDigit (c : Char) : Bool := (digitValue? c).isSome

/-- The number that a list of digits denotes, read from the left. -/
def value (cs : List Char) : Nat := cs.foldl (fun n c => 16 * n + (digitValue? c).getD 0) 0

/-- A numeral is Lean's own. -/
theorem digits_eq (n : Nat) : digits n = Nat.toDigits 16 n := by
  have hdigit : ∀ d < 16, digit d = d.digitChar := by decide
  -- along the digits, the last one first
  induction n using Nat.strongRecOn with
  | _ n ih =>
    rw [digits, Nat.toDigits_eq_if (by decide)]
    split
    · next h => rw [hdigit n h]
    · next h => rw [ih _ (by omega), hdigit _ (Nat.mod_lt _ (by decide))]

/-- A written digit is read back. -/
theorem digitValue?_digit {d : Nat} (h : d < 16) : digitValue? (digit d) = some d :=
  (by decide : ∀ d < 16, digitValue? (digit d) = some d) d h

/-- Reading a numeral gives back its number. -/
theorem value_digits (n : Nat) : value (digits n) = n := by
  induction n using Nat.strongRecOn with
  | _ n ih =>
    unfold digits
    split
    · next h => simp [value, digitValue?_digit h]
    · next h =>
      -- the digits before the last one denote the quotient by sixteen
      have hq := ih (n / 16) (by omega)
      have hr : n % 16 < 16 := Nat.mod_lt _ (by omega)
      unfold value at hq ⊢
      rw [List.foldl_append, hq]
      simp only [List.foldl_cons, List.foldl_nil, digitValue?_digit hr, Option.getD_some]
      omega

theorem isDigit_digit {d : Nat} (h : d < 16) : isDigit (digit d) = true := by
  rw [isDigit, digitValue?_digit h]
  rfl

/-- A numeral holds nothing but digits. -/
theorem isDigit_of_mem_digits {n : Nat} {c : Char} (h : c ∈ digits n) : isDigit c = true := by
  induction n using Nat.strongRecOn with
  | _ n ih =>
    rw [digits] at h
    split at h
    · next hn =>
      rw [List.mem_singleton] at h
      exact h ▸ isDigit_digit hn
    · next hn =>
      obtain h | h := List.mem_append.1 h
      · exact ih (n / 16) (by omega) h
      · rw [List.mem_singleton] at h
        exact h ▸ isDigit_digit (Nat.mod_lt _ (by omega))

/-- A number below a power of sixteen has no more digits than that power has zeros. -/
theorem length_digits_le {n places : Nat} (hplaces : 0 < places) (h : n < Nat.pow 16 places) :
    (digits n).length ≤ places := by
  rw [digits_eq]
  exact (Nat.length_toDigits_le_iff (by decide) hplaces).mpr h

end MetricCourier.Hexadecimal
