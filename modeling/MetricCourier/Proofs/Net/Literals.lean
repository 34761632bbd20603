import Mathlib.Data.List.TakeWhile
import MetricCourier.Proofs.Net.Reading

/-!
# Address literals

Which texts are addresses is said here without a reader. An address of the fourth version is four
octets in decimal, without leading zeros, with points between them (`Ipv4.Spells`). One of the sixth
is spelled by groups with colons between them: each has one to four hexadecimal digits of either
case, and the last two may be written as an address of the fourth version. There are eight groups,
or fewer with a double colon, once, in place of one or more that are zero (`Ipv6.Spells`).

The readers take these texts and no others (`IpAddress.ofText?_eq_some_iff`). That they take them is
shown with any rest that cannot belong to an address. Groups are read for as long as some follow, so
what is read depends on what comes next: a text `Stops` the groups if neither it nor what its colon
leads to goes on like a group or an octet, as the end of the text does, or a double colon. A group is
never taken for an octet, since no point comes after its digits (`Ipv6.readV4_eq_none`). That they
take no others is read off each of their steps.
-/

namespace MetricCourier

/-! ### How addresses are written -/

/-- The characters are the address: its octets in decimal with points between them. -/
def Ipv4.Spells (cs : List Char) (a : Ipv4) : Prop :=
  cs = Nat.toDigits 10 a.first.toNat ++ '.' :: (Nat.toDigits 10 a.second.toNat ++
    '.' :: (Nat.toDigits 10 a.third.toNat ++ '.' :: Nat.toDigits 10 a.fourth.toNat))

namespace Ipv6

/-- The characters are the group: at most four, and in lower case zeros and then its hexadecimal
numeral. -/
structure SpellsGroup (cs : List Char) (g : UInt16) : Prop where
  length_le : cs.length ≤ 4
  exists_zeros : ∃ k, cs.map Char.toLower = List.replicate k '0' ++ Nat.toDigits 16 g.toNat

/-- The characters are groups with colons between them; the flag says whether the last two are
written as an address of the fourth version. -/
inductive SpellsGroups : Bool → List Char → List UInt16 → Prop
  | one {cs : List Char} {g : UInt16} (h : SpellsGroup cs g) : SpellsGroups false cs [g]
  | v4 {cs : List Char} {a : Ipv4} {high low : UInt16} (h : Ipv4.Spells cs a)
      (hhigh : high.toNat = 256 * a.first.toNat + a.second.toNat)
      (hlow : low.toNat = 256 * a.third.toNat + a.fourth.toNat) :
      SpellsGroups true cs [high, low]
  | cons {mixed : Bool} {cs rest : List Char} {g : UInt16} {gs : List UInt16}
      (h : SpellsGroup cs g) (hrest : SpellsGroups mixed rest gs) :
      SpellsGroups mixed (cs ++ ':' :: rest) (g :: gs)

/-- The characters are groups like that, or there are none. -/
inductive SpellsSide : Bool → List Char → List UInt16 → Prop
  | none : SpellsSide false [] []
  | some {mixed : Bool} {cs : List Char} {gs : List UInt16} (h : SpellsGroups mixed cs gs) :
      SpellsSide mixed cs gs

/-- The characters are the address: its eight groups, or those on either side of a double colon that
stands for the zeros that are missing. -/
inductive Spells : List Char → Ipv6 → Prop
  | full {mixed : Bool} {cs : List Char} {a : Ipv6} (h : SpellsGroups mixed cs a.groups) :
      Spells cs a
  | short {mixed : Bool} {front back : List Char} {before after : List UInt16} {a : Ipv6}
      (hfront : SpellsSide false front before) (hback : SpellsSide mixed back after)
      (hfew : before.length + after.length < 8)
      (ha : a.groups =
        before ++ List.replicate (8 - before.length - after.length) 0 ++ after) :
      Spells (front ++ ':' :: ':' :: back) a

end Ipv6

/-- The text is an address. -/
inductive IpAddress.Literal : String → IpAddress → Prop
  | v4 {s : String} {a : Ipv4} (h : Ipv4.Spells s.toList a) : Literal s (.v4 a)
  | v6 {s : String} {a : Ipv6} (h : Ipv6.Spells s.toList a) : Literal s (.v6 a)

/-! ### The fourth version -/

theorem eq_of_skipChar {c : Char} {cs rest : List Char} (h : skipChar c cs = some rest) :
    cs = c :: rest := by
  unfold skipChar at h
  split at h
  · split at h
    · next hc => cases h; rw [hc]
    · cases h
  · cases h

namespace Ipv4

variable {cs rest : List Char} {a : Ipv4}

theorem spells_iff : Spells cs a ↔ cs = a.text.toList := by
  rw [Spells, toList_text]
  simp only [Decimal.digits_eq]

theorem eq_of_readOctet {o : UInt8} (h : readOctet cs = some (o, rest)) :
    cs = Nat.toDigits 10 o.toNat ++ rest := by
  simp only [readOctet] at h
  split at h
  · cases h
  · next hfit =>
    cases h
    simp only [not_or, not_and, Nat.not_lt] at hfit
    obtain ⟨hnil, -, hzero, hle⟩ := hfit
    -- the run of digits is the numeral of its value, with zeros before it
    obtain ⟨k, hk⟩ := Decimal.exists_zeros hnil fun c hc => List.mem_takeWhile_imp hc
    have hvalue : (UInt8.ofNat (Decimal.value (cs.takeWhile Decimal.isDigit))).toNat =
        Decimal.value (cs.takeWhile Decimal.isDigit) :=
      UInt8.toNat_ofNat_of_lt' (Nat.lt_succ_of_le hle)
    cases k with
    | zero =>
      -- no zeros, as it should be
      rw [hvalue]
      rw [List.replicate_zero, List.nil_append] at hk
      rw [← hk, List.takeWhile_append_dropWhile]
    | succ k =>
      -- a zero in front of the numeral is a second digit
      have hlength := hzero (by rw [hk]; rfl)
      have hpos : ∀ n, 0 < (Nat.toDigits 10 n).length := fun _ => Nat.length_toDigits_pos
      have hmore := hpos (Decimal.value (cs.takeWhile Decimal.isDigit))
      rw [hk, List.length_append, List.length_replicate] at hlength
      omega

theorem eq_of_readNext {o : UInt8} (h : readNext cs = some (o, rest)) :
    cs = '.' :: (Nat.toDigits 10 o.toNat ++ rest) := by
  rw [readNext, Option.bind_eq_bind, Option.bind_eq_some_iff] at h
  obtain ⟨body, hskip, hoctet⟩ := h
  rw [eq_of_skipChar hskip, eq_of_readOctet hoctet]

/-- **What is read as an address is one.** -/
theorem spells_of_read (h : read cs = some (a, rest)) : ∃ used, Spells used a ∧ cs = used ++ rest := by
  simp only [read, Option.bind_eq_bind, Option.bind_eq_some_iff] at h
  obtain ⟨⟨o1, c1⟩, h1, ⟨o2, c2⟩, h2, ⟨o3, c3⟩, h3, ⟨o4, c4⟩, h4, heq⟩ := h
  cases heq
  refine ⟨_, rfl, ?_⟩
  dsimp only at h2 h3 h4 ⊢
  rw [eq_of_readOctet h1, eq_of_readNext h2, eq_of_readNext h3, eq_of_readNext h4]
  simp only [List.append_assoc, List.cons_append]

/-- The group that two octets fill. -/
theorem toNat_group (high low : UInt8) :
    (high.toUInt16 <<< 8 ||| low.toUInt16).toNat = 256 * high.toNat + low.toNat := by
  have hhigh : high.toNat < 256 := high.toNat_lt
  have hlow : low.toNat < Nat.pow 2 8 := low.toNat_lt
  calc (high.toUInt16 <<< 8 ||| low.toUInt16).toNat
      = high.toNat <<< 8 % 65536 ||| low.toNat := by simp
    _ = high.toNat <<< 8 ||| low.toNat := by
        rw [Nat.shiftLeft_eq, Nat.mod_eq_of_lt (by omega)]
    -- the low byte fits below the high one, so the bits do not meet
    _ = high.toNat <<< 8 + low.toNat := (Nat.shiftLeft_add_eq_or_of_lt hlow _).symm
    _ = 256 * high.toNat + low.toNat := by rw [Nat.shiftLeft_eq, Nat.mul_comm]

end Ipv4

/-! ### The sixth version -/

namespace Ipv6

/-- Can the character belong to a group or to an octet in its place? -/
def inGroup (c : Char) : Bool := Hexadecimal.isDigit c || c == '.'

/-- Can the character belong to an address? -/
def inAddress (c : Char) : Bool := inGroup c || c == ':'

/-- No group follows, neither at once nor behind a colon. -/
def Stops (rest : List Char) : Prop :=
  Ends inGroup rest ∧ ∀ more, skipChar ':' rest = some more → Ends inGroup more

section Stops

variable {rest : List Char}

theorem inGroup_of_inAddress {c : Char} (h : inAddress c = false) : inGroup c = false :=
  (Bool.or_eq_false_iff.1 h).1

theorem ends_inGroup (h : Ends inAddress rest) : Ends inGroup rest :=
  fun c hc => inGroup_of_inAddress (h c hc)

theorem stops_of_ends (h : Ends inAddress rest) : Stops rest := by
  refine ⟨ends_inGroup h, ?_⟩
  intro more hmore
  -- a colon belongs to an address, so none comes first
  cases rest with
  | nil => cases hmore
  | cons c tail =>
    have hc : c ≠ ':' := by
      rintro rfl
      cases h ':' rfl
    rw [skipChar, if_neg hc] at hmore
    cases hmore

theorem stops_doubleColon (rest : List Char) : Stops (':' :: ':' :: rest) := by
  refine ⟨ends_cons rfl _, ?_⟩
  intro more hmore
  cases hmore
  exact ends_cons rfl _

theorem ends_hexadecimal (h : Ends inGroup rest) : Ends Hexadecimal.isDigit rest :=
  fun c hc => (Bool.or_eq_false_iff.1 (h c hc)).1

theorem isDigit_hexadecimal {c : Char} (h : Decimal.isDigit c = true) :
    Hexadecimal.isDigit c = true := by
  simp only [Decimal.isDigit, Bool.and_eq_true, decide_eq_true_eq] at h
  simp only [Hexadecimal.isDigit, Hexadecimal.digitValue?]
  rw [if_pos h]
  rfl

theorem ends_decimal (h : Ends inGroup rest) : Ends Decimal.isDigit rest := by
  intro c hc
  -- a decimal digit would be a hexadecimal one
  by_contra hdigit
  have hhex := isDigit_hexadecimal (Bool.not_eq_false _ ▸ hdigit)
  rw [ends_hexadecimal h c hc] at hhex
  cases hhex

end Stops

/-! ### One group -/

section Group

variable {cs rest : List Char} {g : UInt16}

theorem SpellsGroup.isDigit (h : SpellsGroup cs g) : ∀ c ∈ cs, Hexadecimal.isDigit c = true := by
  obtain ⟨k, hk⟩ := h.exists_zeros
  intro c hc
  rw [← Hexadecimal.isDigit_toLower]
  exact Hexadecimal.isDigit_zeros (hk ▸ List.mem_map_of_mem hc)

theorem SpellsGroup.value (h : SpellsGroup cs g) : Hexadecimal.value cs = g.toNat := by
  obtain ⟨k, hk⟩ := h.exists_zeros
  rw [← Hexadecimal.value_toLower, hk, Hexadecimal.value_zeros]

theorem SpellsGroup.ne_nil (h : SpellsGroup cs g) : cs ≠ [] := by
  rintro rfl
  obtain ⟨k, hk⟩ := h.exists_zeros
  exact Nat.toDigits_ne_nil (List.append_eq_nil_iff.mp hk.symm).2

theorem readGroup_of_spells (h : SpellsGroup cs g) (hrest : Ends inGroup rest) :
    readGroup (cs ++ rest) = some (g, rest) := by
  have hends := ends_hexadecimal hrest
  simp only [readGroup, takeWhile_append_of_ends h.isDigit hends,
    dropWhile_append_of_ends h.isDigit hends, h.value, UInt16.ofNat_toNat]
  rw [if_neg]
  -- there is a digit, and there are not too many
  rintro (hnil | hlong)
  · exact h.ne_nil hnil
  · exact absurd h.length_le (Nat.not_le_of_lt hlong)

theorem spells_of_readGroup (h : readGroup cs = some (g, rest)) :
    ∃ used, SpellsGroup used g ∧ cs = used ++ rest := by
  simp only [readGroup] at h
  split at h
  · cases h
  · next hfit =>
    cases h
    simp only [not_or, Nat.not_lt] at hfit
    obtain ⟨hnil, hlength⟩ := hfit
    refine ⟨cs.takeWhile Hexadecimal.isDigit, ⟨hlength, ?_⟩, List.takeWhile_append_dropWhile.symm⟩
    obtain ⟨k, hk⟩ := Hexadecimal.exists_zeros hnil fun c hc => List.mem_takeWhile_imp hc
    -- four digits cannot say more than a group can hold
    have hdigits := congrArg List.length hk
    rw [List.length_map, List.length_append] at hdigits
    have hsize : Hexadecimal.value (cs.takeWhile Hexadecimal.isDigit) < UInt16.size :=
      (Nat.length_toDigits_le_iff (b := 16) (k := 4) (by decide) (by decide)).mp (by omega)
    exact ⟨k, by rw [UInt16.toNat_ofNat_of_lt' hsize, hk]⟩

theorem readGroup_eq_none (hrest : Ends inGroup rest) : readGroup rest = none := by
  rw [readGroup, takeWhile_of_ends (ends_hexadecimal hrest), if_pos (.inl rfl)]

/-- Hexadecimal digits with no point behind them are no octet. -/
theorem readV4_eq_none {ds : List Char} (hds : ∀ c ∈ ds, Hexadecimal.isDigit c = true)
    (hrest : Ends inGroup rest) : Ipv4.read (ds ++ rest) = none := by
  apply Ipv4.read_eq_none
  -- the decimal digits at the front end at the rest or at another hexadecimal digit
  induction ds with
  | nil =>
    intro hpoint
    rw [List.nil_append, dropWhile_of_ends (ends_decimal hrest)] at hpoint
    cases hrest '.' hpoint
  | cons d ds ih =>
    rw [List.cons_append, List.dropWhile_cons]
    split
    · exact ih fun c hc => hds c (List.mem_cons_of_mem d hc)
    · intro hpoint
      have hpoint' := hds d List.mem_cons_self
      rw [Option.some.inj hpoint] at hpoint'
      cases hpoint'

end Group

/-! ### Groups with colons between them -/

section Groups

variable {limit : ℕ} {atStart mixed : Bool} {cs used rest : List Char} {gs : List UInt16}

theorem readGroups_stops (atStart : Bool) (h : Stops rest) :
    readGroups limit atStart rest = ([], false, rest) := by
  cases limit with
  | zero => rfl
  | succ limit =>
    -- with or without a colon before it no group follows
    have hbody : ∀ body, afterSeparator atStart rest = some body → Ends inGroup body := by
      intro body hbody
      cases atStart with
      | true => exact Option.some.inj hbody ▸ h.1
      | false => exact h.2 body hbody
    unfold readGroups
    cases hafter : afterSeparator atStart rest with
    | none => rfl
    | some body =>
      have hends := hbody body hafter
      have hoctet : Ipv4.read ([] ++ body) = none := readV4_eq_none (fun _ h => nomatch h) hends
      rw [List.nil_append] at hoctet
      simp only [hoctet, ite_self, readGroup_eq_none hends]

/-- A group is read, and then those after it. -/
theorem readGroups_of_spellsGroup {more : List Char} {g : UInt16}
    (hcs : afterSeparator atStart cs = some (used ++ more)) (h : SpellsGroup used g)
    (hmore : Ends inGroup more) :
    readGroups (limit + 1) atStart cs =
      (g :: (readGroups limit false more).1, (readGroups limit false more).2) := by
  simp only [readGroups, hcs, readV4_eq_none h.isDigit hmore, ite_self,
    readGroup_of_spells h hmore]

/-- **Groups are read** up to where they stop. -/
theorem readGroups_of_spells (h : SpellsGroups mixed used gs) (hlimit : gs.length ≤ limit)
    (hrest : Stops rest) (hcs : afterSeparator atStart cs = some (used ++ rest)) :
    readGroups limit atStart cs = (gs, mixed, rest) := by
  -- by induction on the spelling, with the limit that is left
  induction h generalizing limit atStart cs with
  | one h =>
    cases limit with
    | zero => cases hlimit
    | succ limit => rw [readGroups_of_spellsGroup hcs h hrest.1, readGroups_stops false hrest]
  | @v4 used a high low h hhigh hlow =>
    cases limit with
    | zero => cases hlimit
    | succ limit =>
      have hroom : 1 ≤ limit := Nat.le_of_succ_le_succ hlimit
      have hread : Ipv4.read (used ++ rest) = some (a, rest) := by
        rw [Ipv4.spells_iff.mp h]
        exact Ipv4.read_text a (ends_decimal hrest.1)
      -- the two groups are what the four octets fill
      have hgroups : a.groups = [high, low] := by
        rw [Ipv4.groups, ← UInt16.toNat_inj.mp (hhigh.trans (Ipv4.toNat_group _ _).symm),
          ← UInt16.toNat_inj.mp (hlow.trans (Ipv4.toNat_group _ _).symm)]
      simp only [readGroups, hcs, if_pos hroom, hread, hgroups]
  | cons h _ ih =>
    cases limit with
    | zero => cases hlimit
    | succ limit =>
      -- a colon follows the group, and behind it the others are read
      rw [List.append_assoc] at hcs
      rw [readGroups_of_spellsGroup hcs h (ends_cons rfl _),
        ih (Nat.le_of_succ_le_succ hlimit) rfl]

theorem readGroups_of_side (h : SpellsSide mixed used gs) (hlimit : gs.length ≤ limit)
    (hrest : Stops rest) : readGroups limit true (used ++ rest) = (gs, mixed, rest) := by
  cases h with
  | none => exact readGroups_stops true hrest
  | some h => exact readGroups_of_spells h hlimit hrest rfl

/-- What is read as groups is spelled like that, and is not more than the limit allows. -/
theorem spells_of_readGroups (h : readGroups limit atStart cs = (gs, mixed, rest)) :
    gs.length ≤ limit ∧ (gs = [] ∧ mixed = false ∧ rest = cs ∨
      ∃ used, SpellsGroups mixed used gs ∧ afterSeparator atStart cs = some (used ++ rest)) := by
  -- by induction on the limit, which is what the reader recurses on
  induction limit generalizing atStart cs gs mixed rest with
  | zero =>
    cases h
    exact ⟨Nat.le_refl 0, .inl ⟨rfl, rfl, rfl⟩⟩
  | succ limit ih =>
    -- wherever the reader gives up it has used nothing
    have hnothing : ([], false, cs) = (gs, mixed, rest) →
        gs.length ≤ limit + 1 ∧ (gs = [] ∧ mixed = false ∧ rest = cs ∨
          ∃ used, SpellsGroups mixed used gs ∧
            afterSeparator atStart cs = some (used ++ rest)) := by
      intro h
      cases h
      exact ⟨Nat.zero_le _, .inl ⟨rfl, rfl, rfl⟩⟩
    unfold readGroups at h
    split at h
    · exact hnothing h
    · next body hbody =>
      split at h
      · next a rest' hv4 =>
        -- an address of the fourth version, where two groups fit
        cases h
        split at hv4
        · next hroom =>
          obtain ⟨used, hused, rfl⟩ := Ipv4.spells_of_read hv4
          exact ⟨Nat.succ_le_succ hroom, .inr ⟨used,
            .v4 hused (Ipv4.toNat_group _ _) (Ipv4.toNat_group _ _), hbody⟩⟩
        · cases hv4
      · split at h
        · exact hnothing h
        · -- a group, and what was read behind it
          next g more hgroup =>
          obtain ⟨used, hused, rfl⟩ := spells_of_readGroup hgroup
          generalize hlater : readGroups limit false more = later at h
          obtain ⟨gs', mixed', rest'⟩ := later
          cases h
          obtain ⟨hle, ⟨rfl, rfl, rfl⟩ | ⟨behind, hbehind, hcolon⟩⟩ := ih hlater
          · -- nothing was read behind it, or more groups behind a colon
            exact ⟨Nat.succ_le_succ hle, .inr ⟨used, .one hused, hbody⟩⟩
          · refine ⟨Nat.succ_le_succ hle, .inr ⟨_, .cons hused hbehind, ?_⟩⟩
            rw [hbody, eq_of_skipChar hcolon, List.append_assoc]
            rfl

theorem side_of_readGroups (h : readGroups limit true cs = (gs, mixed, rest)) :
    gs.length ≤ limit ∧ ∃ used, SpellsSide mixed used gs ∧ cs = used ++ rest := by
  obtain ⟨hle, ⟨rfl, rfl, rfl⟩ | ⟨used, hused, hcs⟩⟩ := spells_of_readGroups h
  · exact ⟨hle, [], .none, rfl⟩
  · exact ⟨hle, used, .some hused, Option.some.inj hcs⟩

theorem SpellsSide.groups (h : SpellsSide mixed cs gs) (hgs : gs ≠ []) : SpellsGroups mixed cs gs := by
  cases h with
  | none => exact absurd rfl hgs
  | some h => exact h

end Groups

/-! ### Addresses -/

section Address

variable {cs used rest : List Char} {a : Ipv6}

theorem ofGroups?_groups (a : Ipv6) : ofGroups? a.groups = some a :=
  dif_pos a.length_groups

/-- An address without a double colon. -/
theorem read_eight {cs : List Char} {a : Ipv6} {mixed : Bool}
    (h : readGroups 8 true cs = (a.groups, mixed, rest)) : read cs = some (a, rest) := by
  simp only [read, h, a.length_groups, if_true, ofGroups?_groups]
  rfl

/-- An address with a double colon, which stands for the zeros that are missing. -/
theorem read_around {cs tail : List Char} {front back : List UInt16} {a : Ipv6} {mixed : Bool}
    (hfront : readGroups 8 true cs = (front, false, ':' :: ':' :: tail))
    (hback : readGroups (7 - front.length) true tail = (back, mixed, rest))
    (hshort : front.length + back.length < 8)
    (ha : a.groups = front ++ List.replicate (8 - front.length - back.length) 0 ++ back) :
    read cs = some (a, rest) := by
  have hfew : front.length ≠ 8 := by omega
  simp only [read, hfront, if_neg hfew, Bool.false_eq_true, if_false, skipChar, if_true,
    Option.bind_eq_bind, Option.bind_some, hback, ← ha, ofGroups?_groups]
  rfl

/-- **A literal is read as its address,** whatever follows that cannot belong to an address. -/
theorem read_of_spells (h : Spells used a) (hrest : Ends inAddress rest) :
    read (used ++ rest) = some (a, rest) := by
  have hstops := stops_of_ends hrest
  -- the groups of a full address end with it, the others before the double colon
  cases h with
  | full h => exact read_eight (readGroups_of_spells h (Nat.le_of_eq a.length_groups) hstops rfl)
  | short hfront hback hfew ha =>
    rw [List.append_assoc, List.cons_append, List.cons_append]
    exact read_around (readGroups_of_side hfront (by omega) (stops_doubleColon _))
      (readGroups_of_side hback (by omega) hstops) hfew ha

/-- **What is read as an address is a literal of it.** -/
theorem spells_of_read (h : read cs = some (a, rest)) :
    ∃ used, Spells used a ∧ cs = used ++ rest := by
  have hgroups : ∀ gs, ofGroups? gs = some a → a.groups = gs := by
    intro gs hgs
    unfold ofGroups? at hgs
    split at hgs
    · cases hgs
      rfl
    · cases hgs
  unfold read at h
  generalize hhead : readGroups 8 true cs = head at h
  obtain ⟨before, mixed, behind⟩ := head
  obtain ⟨hbefore, front, hfront, rfl⟩ := side_of_readGroups hhead
  dsimp only at h
  split at h
  · next height =>
    simp only [Option.bind_eq_bind, Option.bind_eq_some_iff] at h
    obtain ⟨b, hb, heq⟩ := h
    cases heq
    have hsome : before ≠ [] := by
      rintro rfl
      cases height
    exact ⟨front, .full ((hgroups _ hb).symm ▸ hfront.groups hsome), rfl⟩
  · next hshort =>
    split at h
    · cases h
    · next hplain =>
      simp only [Option.bind_eq_bind, Option.bind_eq_some_iff] at h
      obtain ⟨cs', hcolon, cs'', hcolons, hrest⟩ := h
      rw [eq_of_skipChar hcolon, eq_of_skipChar hcolons]
      generalize htail : readGroups (7 - before.length) true cs'' = tail at hrest
      obtain ⟨after, mixed', rest'⟩ := tail
      obtain ⟨hafter, back, hback, rfl⟩ := side_of_readGroups htail
      obtain ⟨b, hb, heq⟩ := hrest
      cases heq
      rw [Bool.not_eq_true] at hplain
      rw [hplain] at hfront
      refine ⟨_, .short hfront hback (by omega) (hgroups _ hb), ?_⟩
      rw [List.append_assoc]
      rfl

/-- A text whose front is an address of the fourth version is none of the sixth. -/
theorem readV4_of_read {cs : List Char} {r : Ipv6 × List Char} (h : read cs = some r) :
    Ipv4.read cs = none := by
  cases hv4 : Ipv4.read cs with
  | none => rfl
  | some q =>
    -- its two groups are too few, and no double colon may follow such an address
    have hgroups : readGroups 8 true cs = (q.1.groups, true, q.2) := by
      simp only [readGroups, afterSeparator, hv4, if_true, Nat.reduceLeDiff]
    have hfew : q.1.groups.length ≠ 8 := by
      show 2 ≠ 8
      decide
    simp only [read, hgroups, if_neg hfew, if_true] at h
    cases h

/-- An address does not start with a bracket. -/
theorem head_of_read {cs : List Char} {r : Ipv6 × List Char} (h : read cs = some r) :
    cs.head? ≠ some '[' := by
  intro hhead
  obtain ⟨tail, rfl⟩ : ∃ tail, cs = '[' :: tail := by
    cases cs with
    | nil => cases hhead
    | cons c tail => exact ⟨tail, by rw [Option.some.inj hhead]⟩
  -- nothing is read before the bracket, and a bracket is no double colon
  have hgroups : readGroups 8 true ('[' :: tail) = ([], false, '[' :: tail) :=
    readGroups_stops true (stops_of_ends (ends_cons rfl tail))
  simp only [read, hgroups] at h
  cases h

end Address

end Ipv6

/-! ### Both versions -/

namespace IpAddress

theorem ofText?_v4 {s : String} {a : Ipv4} (h : Ipv4.read s.toList = some (a, [])) :
    ofText? s = some (.v4 a) := by
  rw [ofText?, h]
  rfl

theorem ofText?_v6 {s : String} {a : Ipv6} (h : Ipv6.read s.toList = some (a, [])) :
    ofText? s = some (.v6 a) := by
  rw [ofText?, Ipv6.readV4_of_read h, h]
  rfl

theorem eq_some_of_whole {α : Type} {r : Option (α × List Char)} {a : α}
    (h : whole r = some a) : r = some (a, []) := by
  unfold whole at h
  split at h
  · cases h
    rfl
  · cases h

/-- A text denotes an address if one of the two readers takes the whole of it. -/
theorem read_of_ofText? {s : String} {ip : IpAddress} (h : ofText? s = some ip) :
    (∃ a, ip = .v4 a ∧ Ipv4.read s.toList = some (a, [])) ∨
      ∃ a, ip = .v6 a ∧ Ipv6.read s.toList = some (a, []) := by
  unfold ofText? at h
  cases h4 : whole (Ipv4.read s.toList) with
  | some a =>
    rw [h4] at h
    exact .inl ⟨a, (Option.some.inj h).symm, eq_some_of_whole h4⟩
  | none =>
    cases h6 : whole (Ipv6.read s.toList) with
    | some a =>
      rw [h4, h6] at h
      exact .inr ⟨a, (Option.some.inj h).symm, eq_some_of_whole h6⟩
    | none =>
      rw [h4, h6] at h
      cases h

/-- **The texts that are addresses are the literals.** -/
theorem ofText?_eq_some_iff {s : String} {ip : IpAddress} :
    ofText? s = some ip ↔ Literal s ip := by
  constructor
  · intro h
    -- either reader has used the whole text
    obtain ⟨a, rfl, ha⟩ | ⟨a, rfl, ha⟩ := read_of_ofText? h
    · obtain ⟨used, hused, hs⟩ := Ipv4.spells_of_read ha
      rw [List.append_nil] at hs
      exact .v4 (hs ▸ hused)
    · obtain ⟨used, hused, hs⟩ := Ipv6.spells_of_read ha
      rw [List.append_nil] at hs
      exact .v6 (hs ▸ hused)
  · intro h
    cases h with
    | @v4 a h =>
      apply ofText?_v4
      rw [Ipv4.spells_iff.mp h]
      exact Ipv4.read_text_nil a
    | v6 h =>
      have hread := Ipv6.read_of_spells h (ends_nil _)
      rw [List.append_nil] at hread
      exact ofText?_v6 hread

end IpAddress

end MetricCourier
