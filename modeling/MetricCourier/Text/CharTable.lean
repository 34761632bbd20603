/-!
# Character tables

A class of characters that a standard fixes is a table: inclusive ranges of code points, disjoint
and in ascending order. Looking a character up stops at the first range that does not end before
it, so the common characters, which come first, cost little.

For a table in ascending order the look-up finds exactly the characters in its ranges
(`contains_iff`).
-/

namespace MetricCourier

/-- Inclusive ranges of code points, disjoint and in ascending order. -/
abbrev CharTable := List (Nat × Nat)

namespace CharTable

/-- Is the character in one of the ranges? -/
def contains : CharTable → Char → Bool
  | [], _ => false
  | (first, last) :: rest, c =>
    if c.toNat ≤ last then first ≤ c.toNat else contains rest c

/-- Does each range begin after the given code point and after the range before it, and end no
sooner than it begins? -/
def ascendsFrom (bound : Nat) : CharTable → Bool
  | [] => true
  | (first, last) :: rest => bound ≤ first && first ≤ last && ascendsFrom (last + 1) rest

/-- Are the ranges disjoint and in ascending order? -/
def ascending (t : CharTable) : Bool := t.ascendsFrom 0

/-- No range of an ascending table begins before its bound. -/
theorem le_of_mem {bound : Nat} {t : CharTable} (h : t.ascendsFrom bound) {r : Nat × Nat}
    (hr : r ∈ t) : bound ≤ r.1 := by
  induction t generalizing bound with
  | nil => cases hr
  | cons s rest ih =>
    obtain ⟨first, last⟩ := s
    simp only [ascendsFrom, Bool.and_eq_true, decide_eq_true_eq] at h
    rcases List.mem_cons.1 hr with rfl | hr
    · exact h.1.1
    · have := ih h.2 hr
      omega

/-- In an ascending table a character is found exactly if one of the ranges holds it. -/
theorem contains_iff {t : CharTable} (h : t.ascending) {c : Char} :
    t.contains c ↔ ∃ r ∈ t, r.1 ≤ c.toNat ∧ c.toNat ≤ r.2 := by
  unfold ascending at h
  generalize 0 = bound at h
  induction t generalizing bound with
  | nil => simp [contains]
  | cons s rest ih =>
    obtain ⟨first, last⟩ := s
    simp only [ascendsFrom, Bool.and_eq_true, decide_eq_true_eq] at h
    simp only [contains, List.mem_cons, exists_eq_or_imp]
    split
    · next hle =>
      -- The ranges behind this one begin after its end, so they do not hold the character.
      have hrest : ¬ ∃ r ∈ rest, r.1 ≤ c.toNat ∧ c.toNat ≤ r.2 := by
        rintro ⟨r, hr, hlow, _⟩
        have := le_of_mem h.2 hr
        omega
      simp [hle, hrest]
    · next hle =>
      rw [ih (last + 1) h.2]
      simp [hle]

end CharTable

end MetricCourier
