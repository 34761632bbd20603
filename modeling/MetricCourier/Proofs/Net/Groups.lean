import MetricCourier.Proofs.Net.Literals

/-!
# Canonical texts of the sixth version

The canonical text of an address is one of its literals (`Ipv6.spells_text`), so it is read back as
that address (`Ipv6.read_text`). There are three kinds of such texts: eight groups with colons
between them, the groups on either side of a double colon, and the text of an address of the fourth
version behind `::ffff:`.

What a double colon leaves out are zeros whatever run of them was chosen
(`Ipv6.eq_around_longestZeros`); that it is the first of the longest plays no part in reading.
-/

namespace MetricCourier.Ipv6

/-! ### Groups with colons between them -/

theorem spells_groupText (g : UInt16) : SpellsGroup (groupText g).toList g := by
  have hsize : g.toNat < Nat.pow 16 4 := g.toNat_lt
  rw [groupText, String.toList_ofList]
  refine ⟨Hexadecimal.length_digits_le (by decide) hsize, 0, ?_⟩
  -- the digits are written in lower case
  rw [Hexadecimal.map_toLower_digits, Hexadecimal.digits_eq]
  rfl

theorem groupsText_cons_cons (g g' : UInt16) (gs : List UInt16) :
    (groupsText (g :: g' :: gs)).toList =
      (groupText g).toList ++ ':' :: (groupsText (g' :: gs)).toList := by
  simp [groupsText, String.intercalate_cons_cons]

theorem spells_groupsText (g : UInt16) (gs : List UInt16) :
    SpellsGroups false (groupsText (g :: gs)).toList (g :: gs) := by
  -- by induction on the groups, the first one at the front of the text
  induction gs generalizing g with
  | nil =>
    have hone : groupsText [g] = groupText g := by simp [groupsText]
    rw [hone]
    exact .one (spells_groupText g)
  | cons g' gs ih =>
    rw [groupsText_cons_cons]
    exact .cons (spells_groupText g) (ih g')

theorem side_groupsText (gs : List UInt16) : SpellsSide false (groupsText gs).toList gs := by
  cases gs with
  | nil => exact .none
  | cons g gs => exact .some (spells_groupsText g gs)

/-! ### Which groups a double colon leaves out -/

theorem take_leadingZeros (gs : List UInt16) :
    gs.take (leadingZeros gs) = List.replicate (leadingZeros gs) 0 := by
  -- the leading zeros are the longest run of zeros at the front
  have htake : gs.take (leadingZeros gs) = gs.takeWhile (· = 0) :=
    (List.prefix_iff_eq_take.1 (List.takeWhile_prefix _)).symm
  rw [htake]
  refine List.eq_replicate_iff.2 ⟨rfl, ?_⟩
  intro g hg
  exact of_decide_eq_true (List.mem_takeWhile_imp (p := fun x : UInt16 => decide (x = 0)) hg)

/-- The chosen run holds zeros: every run that the search has looked at does. -/
theorem take_longestZeros (gs : List UInt16) :
    (gs.drop (longestZeros gs).1).take (longestZeros gs).2 =
      List.replicate (longestZeros gs).2 0 := by
  unfold longestZeros
  -- the best run so far holds zeros, at the beginning because it is empty
  refine List.foldlRecOn (motive := fun best : Nat × Nat =>
    (gs.drop best.1).take best.2 = List.replicate best.2 0) _ _ rfl ?_
  intro best hbest start _
  dsimp only
  split
  · exact take_leadingZeros (gs.drop start)
  · exact hbest

/-- The groups are those before the chosen run, the run and those behind it. -/
theorem eq_around_longestZeros (gs : List UInt16) :
    gs = gs.take (longestZeros gs).1 ++ List.replicate (longestZeros gs).2 0 ++
      gs.drop ((longestZeros gs).1 + (longestZeros gs).2) := by
  rw [← take_longestZeros, List.append_assoc, ← List.drop_drop, List.take_append_drop,
    List.take_append_drop]

/-! ### Addresses that stand for one of the fourth version -/

/-- The two bytes of a group, put together again, are the group. -/
theorem bytes_of_group (g : UInt16) :
    256 * (g >>> 8).toUInt8.toNat + g.toUInt8.toNat = g.toNat := by
  have hsize : g.toNat < 65536 := g.toNat_lt
  -- the one byte is the quotient by 256, and the other is the remainder
  have hhigh : (g >>> 8).toUInt8.toNat = g.toNat / 256 % 256 := by
    simp [Nat.shiftRight_eq_div_pow]
  have hlow : g.toUInt8.toNat = g.toNat % 256 := by simp
  omega

/-- Such an address is spelled by five zeros, ones and the address that it stands for. -/
theorem spells_mapped {a : Ipv6} {inner : Ipv4} (h : a.mapped? = some inner) :
    Spells ("::ffff:" ++ inner.text).toList a := by
  have hones : SpellsGroup "ffff".toList 0xffff := ⟨by decide, 0, by decide⟩
  unfold mapped? at h
  split at h
  · next high low hgroups =>
    have hinner : Ipv4.Spells inner.text.toList inner := Ipv4.spells_iff.mpr rfl
    cases h
    -- five zeros are left out; the ones and the two groups of the inner address are behind them
    have hback := SpellsGroups.cons hones
      (.v4 hinner (bytes_of_group high).symm (bytes_of_group low).symm)
    rw [String.toList_append]
    exact .short .none (.some hback) (by decide : 3 < 8) hgroups
  · cases h

/-! ### Canonical texts -/

/-- **The text of an address is a literal of it.** -/
theorem spells_text (a : Ipv6) : Spells a.text.toList a := by
  unfold text
  split
  · next inner h => exact spells_mapped h
  · -- the groups on both sides are fewer than eight by the length of the run
    have hgroups := eq_around_longestZeros a.groups
    have hlength := congrArg List.length hgroups
    simp only [a.length_groups, List.length_append, List.length_replicate] at hlength
    dsimp only
    split
    · next hrun =>
      have hzeros : 8 - (a.groups.take (longestZeros a.groups).1).length -
          (a.groups.drop ((longestZeros a.groups).1 + (longestZeros a.groups).2)).length =
            (longestZeros a.groups).2 := by
        omega
      rw [String.toList_append, String.toList_append, List.append_assoc]
      refine .short (side_groupsText _) (side_groupsText _) (by omega) ?_
      rw [hzeros]
      exact hgroups
    · exact .full ((side_groupsText a.groups).groups fun hnil => by
        have height := a.length_groups
        rw [hnil] at height
        cases height)

/-- The text of an address is read back, whatever follows that cannot belong to an address. -/
theorem read_text (a : Ipv6) {rest : List Char} (hrest : Ends inAddress rest) :
    read (a.text.toList ++ rest) = some (a, rest) :=
  read_of_spells (spells_text a) hrest

theorem read_text_nil (a : Ipv6) : read a.text.toList = some (a, []) := by
  have h := read_text a (ends_nil _)
  rwa [List.append_nil] at h

end MetricCourier.Ipv6
