import Mathlib.Data.Nat.ModEq
import Runesmith.Proofs.Address.Regroup

/-!
# Regrouping there and back

With padding, the groups that are given out are the only ones with the bits that were read and too
few zeros behind them to fill a group. Without padding they are the only ones with the bits of the
whole groups, and whether there are any is told by the bits behind these. So regrouping can be
undone by regrouping, whatever the two widths.

* `whole_and_leftOver_of_cut`: groups and less than a group cut a string in one place only;
* `regroup_padded_eq_some_iff`, `regroup_unpadded_eq_none_iff`, `regroup_unpadded_eq_some_iff`: what
  is given out, said of bit strings alone;
* `regroup_there_and_back`, `regroup_back_and_there`: from one width to the other and back;
* `regroup_lossless`: all of it.
-/

namespace Runesmith.Bech32

/-! ## Cutting a string -/

/-- The bits of a string that fill whole groups. -/
def wholeGroups (size : Nat) (bs : List Bool) : List Bool :=
  bs.take (bs.length - bs.length % size)

/-- The bits of a string behind its last whole group. -/
def leftOver (size : Nat) (bs : List Bool) : List Bool :=
  bs.drop (bs.length - bs.length % size)

theorem wholeGroups_append_leftOver (size : Nat) (bs : List Bool) :
    wholeGroups size bs ++ leftOver size bs = bs :=
  List.take_append_drop _ bs

/-- Where groups are followed by less than a group, the whole groups end. -/
theorem whole_and_leftOver_of_cut {size : Nat} {groups : List Nat} {bs rest : List Bool}
    (hcut : bs = bitString size groups ++ rest) (hrest : rest.length < size) :
    wholeGroups size bs = bitString size groups ∧ leftOver size bs = rest := by
  have hlength : bs.length = size * groups.length + rest.length := by
    rw [hcut, List.length_append, length_bitString]
  have hleft : bs.length % size = rest.length := by
    rw [hlength, Nat.mul_add_mod, Nat.mod_eq_of_lt hrest]
  have hwhole : bs.length - bs.length % size = (bitString size groups).length := by
    rw [hleft, hlength, Nat.add_sub_cancel, length_bitString]
  constructor
  · rw [wholeGroups, hwhole, hcut, List.take_left]
  · rw [leftOver, hwhole, hcut, List.drop_left]

/-- Two paddings of one string to whole groups, both shorter than a group, are the same. -/
theorem padding_unique {size zeros other : Nat} {gs hs : List Nat} {bs : List Bool}
    (hg : bitString size gs = bs ++ List.replicate zeros false) (hzeros : zeros < size)
    (hh : bitString size hs = bs ++ List.replicate other false) (hother : other < size) :
    zeros = other := by
  have hglength := congrArg List.length hg
  have hhlength := congrArg List.length hh
  rw [length_bitString, List.length_append, List.length_replicate] at hglength hhlength
  have hmod : bs.length + zeros ≡ bs.length + other [MOD size] := by
    rw [← hglength, ← hhlength]
    exact (Nat.mul_mod_right ..).trans (Nat.mul_mod_right ..).symm
  exact (Nat.ModEq.add_left_cancel' bs.length hmod).eq_of_lt_of_lt hzeros hother

/-- Groups are determined by their string. -/
theorem eq_of_bitString {size : Nat} (hsize : 0 < size) {gs hs : List Nat}
    (hg : ∀ g ∈ gs, g < 2 ^ size) (hh : ∀ h ∈ hs, h < 2 ^ size)
    (heq : bitString size gs = bitString size hs) : gs = hs := by
  have hnone : ([] : List Bool).length < size := hsize
  have hcut : bitString size gs ++ [] = bitString size hs ++ [] := by
    rw [heq]
  exact (bitString_inj hg hh hnone hnone hcut).1

/-! ## What is given out -/

section

variable {width size : Nat} (hsize : 0 < size) {values : List Nat}
  (hvalues : ∀ v ∈ values, v < 2 ^ width)

include hsize hvalues

/-- With padding: the groups with the bits that were read, and with zeros behind them that do not
fill a group. -/
theorem regroup_padded_eq_some_iff {groups : List Nat} :
    regroup width size true values = some groups ↔
      (∀ g ∈ groups, g < 2 ^ size) ∧ ∃ zeros < size,
        bitString size groups = bitString width values ++ List.replicate zeros false := by
  rcases regroup_padded hsize hvalues with ⟨given, zeros, hrun, hgiven, hzeros, hbits⟩
  constructor
  · intro h
    rw [hrun] at h
    cases h
    exact ⟨hgiven, zeros, hzeros, hbits⟩
  · intro h
    rcases h with ⟨hgroups, other, hother, hother_bits⟩
    have hsame := padding_unique hbits hzeros hother_bits hother
    rw [hrun, eq_of_bitString hsize hgiven hgroups]
    rw [hbits, hother_bits, hsame]

/-- How the string is cut without padding, and what is given out then. -/
theorem regroup_unpadded_cut :
    ∃ groups, bitString size groups = wholeGroups size (bitString width values)
      ∧ (∀ g ∈ groups, g < 2 ^ size)
      ∧ regroup width size false values =
        if width ≤ (leftOver size (bitString width values)).length
            ∨ true ∈ leftOver size (bitString width values)
          then none else some groups := by
  rcases regroup_unpadded hsize hvalues with ⟨groups, rest, hcut, hgroups, hrest, hrun⟩
  rcases whole_and_leftOver_of_cut hcut hrest with ⟨hwhole, hleft⟩
  refine ⟨groups, hwhole.symm, hgroups, ?_⟩
  rw [hleft]
  exact hrun

/-- Without padding, nothing is given out exactly if the bits behind the whole groups could be a
value that was read, or are not all zero. -/
theorem regroup_unpadded_eq_none_iff :
    regroup width size false values = none ↔
      width ≤ (leftOver size (bitString width values)).length
        ∨ true ∈ leftOver size (bitString width values) := by
  rcases regroup_unpadded_cut hsize hvalues with ⟨groups, -, -, hrun⟩
  rw [hrun]
  constructor
  · intro h
    split at h
    case isTrue hrefused => exact hrefused
    case isFalse => cases h
  · intro h
    rw [if_pos h]

/-- Else the groups with the bits of the whole groups are. -/
theorem regroup_unpadded_eq_some_iff {groups : List Nat} :
    regroup width size false values = some groups ↔
      ((leftOver size (bitString width values)).length < width
        ∧ true ∉ leftOver size (bitString width values))
      ∧ (∀ g ∈ groups, g < 2 ^ size)
      ∧ bitString size groups = wholeGroups size (bitString width values) := by
  rcases regroup_unpadded_cut hsize hvalues with ⟨given, hbits, hgiven, hrun⟩
  rw [hrun]
  constructor
  · intro h
    split at h
    case isTrue => cases h
    case isFalse hleft =>
      cases h
      rcases not_or.1 hleft with ⟨hfew, hzero⟩
      exact ⟨⟨Nat.lt_of_not_le hfew, hzero⟩, hgiven, hbits⟩
  · intro h
    rcases h with ⟨⟨hfew, hzero⟩, hgroups, hgroups_bits⟩
    rw [if_neg (not_or.2 ⟨Nat.not_le_of_lt hfew, hzero⟩),
      eq_of_bitString hsize hgiven hgroups (hbits.trans hgroups_bits.symm)]

/-! ## There and back -/

/-- Values in groups of at most their width are found again. -/
theorem regroup_there_and_back (hle : size ≤ width) :
    (regroup width size true values).bind (regroup size width false) = some values := by
  rcases regroup_padded hsize hvalues with ⟨groups, zeros, hrun, hgroups, hzeros, hbits⟩
  have hwidth : 0 < width := by omega
  -- The zeros of the padding are all that is left over on the way back.
  have hpadding : (List.replicate zeros false).length < width := by
    rw [List.length_replicate]
    omega
  rcases whole_and_leftOver_of_cut hbits hpadding with ⟨hwhole, hleft⟩
  rw [hrun, Option.bind_some, regroup_unpadded_eq_some_iff hwidth hgroups, hwhole, hleft]
  refine ⟨⟨?few, ?zero⟩, hvalues, rfl⟩
  case few =>
    rw [List.length_replicate]
    exact hzeros
  case zero =>
    intro hmem
    have hfalse := List.eq_of_mem_replicate hmem
    cases hfalse

/-- Groups that are given out without padding are padded to the values that they were made of. -/
theorem regroup_back_and_there {groups : List Nat}
    (h : regroup width size false values = some groups) :
    regroup size width true groups = some values := by
  rcases (regroup_unpadded_eq_some_iff hsize hvalues).1 h with ⟨⟨hfew, hzero⟩, hgroups, hbits⟩
  have hwidth : 0 < width := Nat.lt_of_le_of_lt (Nat.zero_le _) hfew
  apply (regroup_padded_eq_some_iff hwidth hgroups).2
  refine ⟨hvalues, (leftOver size (bitString width values)).length, hfew, ?_⟩
  calc bitString width values
    _ = wholeGroups size (bitString width values) ++ leftOver size (bitString width values) :=
        (wholeGroups_append_leftOver size _).symm
    _ = bitString size groups ++ leftOver size (bitString width values) := by rw [hbits]
    _ = _ := congrArg _ (eq_replicate_of_true_notMem hzero)

end

/-- Regrouping loses nothing. With padding there are always groups, and they are those with the bits
that were read and with zeros behind them that do not fill a group. Without padding there are none
exactly if the bits behind the whole groups are as many as a value has, or not all zero, and else
they are those with the bits of the whole groups. From groups with padding the way back leads to the
values, if a group has no more bits than a value, as with bytes in groups of five bits; and from
groups without padding it leads there always. -/
theorem regroup_lossless {width size : Nat} (hsize : 0 < size) {values : List Nat}
    (hvalues : ∀ v ∈ values, v < 2 ^ width) :
    (∃ groups, regroup width size true values = some groups)
    ∧ (∀ groups, regroup width size true values = some groups ↔
      (∀ g ∈ groups, g < 2 ^ size) ∧ ∃ zeros < size,
        bitString size groups = bitString width values ++ List.replicate zeros false)
    ∧ (regroup width size false values = none ↔
      width ≤ (leftOver size (bitString width values)).length
        ∨ true ∈ leftOver size (bitString width values))
    ∧ (∀ groups, regroup width size false values = some groups ↔
      ((leftOver size (bitString width values)).length < width
        ∧ true ∉ leftOver size (bitString width values))
      ∧ (∀ g ∈ groups, g < 2 ^ size)
      ∧ bitString size groups = wholeGroups size (bitString width values))
    ∧ (size ≤ width →
      (regroup width size true values).bind (regroup size width false) = some values)
    ∧ (∀ groups, regroup width size false values = some groups →
      regroup size width true groups = some values) := by
  refine ⟨?given, ?padded, ?refused, ?unpadded, ?back, ?there⟩
  case given =>
    rcases regroup_padded hsize hvalues with ⟨groups, zeros, hrun, -⟩
    exact ⟨groups, hrun⟩
  case padded =>
    intro groups
    exact regroup_padded_eq_some_iff hsize hvalues
  case refused =>
    exact regroup_unpadded_eq_none_iff hsize hvalues
  case unpadded =>
    intro groups
    exact regroup_unpadded_eq_some_iff hsize hvalues
  case back =>
    intro hle
    exact regroup_there_and_back hsize hvalues hle
  case there =>
    intro groups h
    exact regroup_back_and_there hsize hvalues h

/-- Two bytes fill three symbols and one bit of a fourth. Back from the symbols come the bytes, but
not from symbols whose last one is not padded with zeros. -/
theorem regroup_twoBytes :
    (∀ v ∈ [0xff, 0x01], v < 2 ^ 8) ∧ (∀ v ∈ [31, 28, 0, 17], v < 2 ^ 5)
      ∧ regroup 8 5 true [0xff, 0x01] = some [31, 28, 0, 16]
      ∧ (regroup 8 5 true [0xff, 0x01]).bind (regroup 5 8 false) = some [0xff, 0x01]
      ∧ regroup 5 8 false [31, 28, 0, 17] = none := by
  have hbytes : ∀ v ∈ [0xff, 0x01], v < 2 ^ 8 := by decide
  have hsymbols : ∀ v ∈ [31, 28, 0, 17], v < 2 ^ 5 := by decide
  rcases regroup_lossless (show 0 < 5 by decide) hbytes with ⟨-, hpadded, -, -, hback, -⟩
  rcases regroup_lossless (show 0 < 8 by decide) hsymbols with ⟨-, -, hrefused, -, -, -⟩
  refine ⟨hbytes, hsymbols, ?padded, hback (by decide), ?refused⟩
  case padded => exact (hpadded [31, 28, 0, 16]).2 ⟨by decide, 4, by decide, by decide⟩
  case refused => exact hrefused.2 (.inr (by decide))

end Runesmith.Bech32
