import Mathlib.Data.Nat.Bitwise
import Runesmith.Address.Bech32

/-!
# Regrouping is about one bit string

Numbers of a fixed width stand for the string of their bits. Regrouping cuts the same string at
other places. The accumulator is cut down after every number, so the invariant is about the bits
that are still wanted:

* `takeGroups_bits`, `regroupFrom_bits`: no pending bit is lost, whatever the two widths.
* `regroup_padded`, `regroup_unpadded`: the string that was read is the one that is given out, up to
  a padding of zeros or up to the bits that are left over.
* `bitString_inj`: groups and left-over bits are determined by the string.
-/

namespace Runesmith.Bech32

/-! ## The bits of numbers -/

/-- The lowest `width` bits of a number, highest first. -/
def bits : Nat → Nat → List Bool
  | 0, _ => []
  | width + 1, n => n.testBit width :: bits width n

/-- The bits of numbers of `width` bits, one number after the other. -/
def bitString (width : Nat) (values : List Nat) : List Bool :=
  values.flatMap (bits width)

@[simp] theorem length_bits (width n : Nat) : (bits width n).length = width := by
  induction width with
  | zero => rfl
  | succ width ih => rw [bits, List.length_cons, ih]

/-- Bits depend on nothing above them. -/
theorem bits_congr {width n m : Nat} (h : ∀ i < width, n.testBit i = m.testBit i) :
    bits width n = bits width m := by
  induction width with
  | zero => rfl
  | succ width ih =>
    rw [bits, bits, h width (Nat.lt_succ_self width), ih fun i hi => h i (Nat.lt_succ_of_lt hi)]

theorem testBit_of_bits {width n m : Nat} (h : bits width n = bits width m) {i : Nat}
    (hi : i < width) : n.testBit i = m.testBit i := by
  induction width with
  | zero => omega
  | succ width ih =>
    rw [bits, bits, List.cons.injEq] at h
    rcases Nat.lt_succ_iff_lt_or_eq.1 hi with hi | rfl
    · exact ih h.2 hi
    · exact h.1

theorem bits_inj {width n m : Nat} (hn : n < 2 ^ width) (hm : m < 2 ^ width)
    (h : bits width n = bits width m) : n = m := by
  apply Nat.eq_of_testBit_eq
  intro i
  rcases Nat.lt_or_ge i width with hi | hi
  · exact testBit_of_bits h hi
  · have hbound := Nat.pow_le_pow_right (n := 2) (by decide) hi
    rw [Nat.testBit_lt_two_pow (Nat.lt_of_lt_of_le hn hbound),
      Nat.testBit_lt_two_pow (Nat.lt_of_lt_of_le hm hbound)]

theorem bits_mod {width k : Nat} (h : width ≤ k) (n : Nat) :
    bits width (n % 2 ^ k) = bits width n := by
  apply bits_congr
  intro i hi
  rw [Nat.testBit_mod_two_pow, decide_eq_true (by omega), Bool.true_and]

theorem bits_add (high low n : Nat) :
    bits (high + low) n = bits high (n / 2 ^ low) ++ bits low n := by
  induction high with
  | zero => rw [Nat.zero_add, bits, List.nil_append]
  | succ high ih =>
    rw [Nat.add_right_comm, bits, bits, ih, Nat.testBit_div_two_pow, List.cons_append]

theorem bits_zero (width : Nat) : bits width 0 = List.replicate width false := by
  induction width with
  | zero => rfl
  | succ width ih => rw [bits, Nat.zero_testBit, ih, List.replicate_succ]

/-- A number shifted to the left and filled up with another one has the bits of both. -/
theorem bits_shift_or {width value : Nat} (h : value < 2 ^ width) (kept acc : Nat) :
    bits (kept + width) (acc * 2 ^ width ||| value) = bits kept acc ++ bits width value := by
  rw [bits_add]
  congr 1
  · apply bits_congr
    intro i _
    have hvalue : value.testBit (i + width) = false :=
      Nat.testBit_lt_two_pow (Nat.lt_of_lt_of_le h (Nat.pow_le_pow_right (by decide) (by omega)))
    rw [Nat.testBit_div_two_pow, Nat.testBit_or, hvalue, Bool.or_false, Nat.testBit_mul_two_pow,
      decide_eq_true (by omega), Bool.true_and, Nat.add_sub_cancel]
  · apply bits_congr
    intro i hi
    rw [Nat.testBit_or, Nat.testBit_mul_two_pow, decide_eq_false (by omega), Bool.false_and,
      Bool.false_or]

/-- The bits of a number that is shifted to the left are followed by zeros. -/
theorem bits_shift (kept added acc : Nat) :
    bits (kept + added) (acc * 2 ^ added) = bits kept acc ++ List.replicate added false := by
  have h := bits_shift_or (Nat.two_pow_pos added) kept acc
  rwa [Nat.or_zero, bits_zero] at h

/-- Pending bits, padded with zeros to a group of `size` bits. -/
theorem bits_padded {pending size : Nat} (h : pending < size) (acc : Nat) :
    bits size (acc * 2 ^ (size - pending) % 2 ^ size) =
      bits pending acc ++ List.replicate (size - pending) false := by
  have hsplit : pending + (size - pending) = size := by omega
  have hshift := bits_shift pending (size - pending) acc
  rw [bits_mod (Nat.le_refl size)]
  rwa [hsplit] at hshift

theorem eq_replicate_of_true_notMem {bs : List Bool} (h : true ∉ bs) :
    bs = List.replicate bs.length false := by
  refine List.eq_replicate_iff.2 ⟨rfl, fun b hb => ?_⟩
  cases b with
  | true => exact absurd hb h
  | false => rfl

/-- The padded group is zero exactly if all of the pending bits are. -/
theorem padded_ne_zero_iff {pending size : Nat} (h : pending < size) (acc : Nat) :
    acc * 2 ^ (size - pending) % 2 ^ size ≠ 0 ↔ true ∈ bits pending acc := by
  have hpadded := bits_padded h acc
  constructor
  · intro hne
    by_contra hall
    have hfalse := eq_replicate_of_true_notMem hall
    rw [length_bits] at hfalse
    rw [hfalse, List.replicate_append_replicate, Nat.add_sub_cancel' h.le, ← bits_zero] at hpadded
    exact hne (bits_inj (Nat.mod_lt _ (Nat.two_pow_pos size)) (Nat.two_pow_pos size) hpadded)
  · intro hmem hzero
    rw [hzero, bits_zero] at hpadded
    have hin : true ∈ List.replicate size false := by
      rw [hpadded]
      exact List.mem_append_left _ hmem
    simp at hin

@[simp] theorem bitString_nil (width : Nat) : bitString width [] = [] := rfl

@[simp] theorem bitString_cons (width value : Nat) (values : List Nat) :
    bitString width (value :: values) = bits width value ++ bitString width values := rfl

@[simp] theorem bitString_append (width : Nat) (values more : List Nat) :
    bitString width (values ++ more) = bitString width values ++ bitString width more :=
  List.flatMap_append

theorem length_bitString (width : Nat) (values : List Nat) :
    (bitString width values).length = width * values.length := by
  induction values with
  | nil => rfl
  | cons value values ih =>
    rw [bitString_cons, List.length_append, length_bits, ih, List.length_cons, Nat.mul_succ,
      Nat.add_comm]

/-- A string is cut into groups, with fewer bits left over than a group has, in one way only. -/
theorem bitString_inj {size : Nat} {gs hs : List Nat} {rest other : List Bool}
    (hg : ∀ g ∈ gs, g < 2 ^ size) (hh : ∀ h ∈ hs, h < 2 ^ size)
    (hrest : rest.length < size) (hother : other.length < size)
    (heq : bitString size gs ++ rest = bitString size hs ++ other) : gs = hs ∧ rest = other := by
  induction gs generalizing hs with
  | nil =>
    match hs with
    | [] => exact ⟨rfl, heq⟩
    | h :: hs =>
      -- The left side is too short to hold a group.
      have hlen := congrArg List.length heq
      simp only [bitString_nil, bitString_cons, List.length_append, length_bits,
        List.length_nil] at hlen
      omega
  | cons g gs ih =>
    match hs with
    | [] =>
      have hlen := congrArg List.length heq
      simp only [bitString_nil, bitString_cons, List.length_append, length_bits,
        List.length_nil] at hlen
      omega
    | h :: hs =>
      rw [bitString_cons, bitString_cons, List.append_assoc, List.append_assoc] at heq
      obtain ⟨hbits, htail⟩ := List.append_inj heq (by rw [length_bits, length_bits])
      have hhead := bits_inj (hg g (by simp)) (hh h (by simp)) hbits
      obtain ⟨htails, hrests⟩ := ih (fun g hmem => hg g (by simp [hmem]))
        (fun h hmem => hh h (by simp [hmem])) htail
      exact ⟨by rw [hhead, htails], hrests⟩

/-! ## The invariant of the accumulator -/

section

variable {width size : Nat} (hsize : 0 < size)

include hsize

/-- Taking groups off the top splits the pending bits. -/
theorem takeGroups_bits (acc pending : Nat) :
    ∃ groups left, takeGroups size acc pending = (groups, left) ∧ left < size ∧
      (∀ g ∈ groups, g < 2 ^ size) ∧
      bits pending acc = bitString size groups ++ bits left acc := by
  induction pending using Nat.strongRecOn with
  | ind pending ih =>
    rw [takeGroups]
    split
    case isTrue h =>
      obtain ⟨groups, left, hmore, hleft, hgroups, hbits⟩ := ih (pending - size) (by omega)
      rw [hmore]
      refine ⟨_, left, rfl, hleft, ?_, ?_⟩
      · intro g hg
        rcases List.mem_cons.1 hg with rfl | hg
        · exact Nat.mod_lt _ (Nat.two_pow_pos size)
        · exact hgroups g hg
      · have hsplit : size + (pending - size) = pending := by omega
        calc bits pending acc
          _ = bits (size + (pending - size)) acc := by rw [hsplit]
          _ = bits size (acc / 2 ^ (pending - size)) ++ bits (pending - size) acc := bits_add ..
          _ = bits size (acc / 2 ^ (pending - size) % 2 ^ size) ++
                (bitString size groups ++ bits left acc) := by
              rw [bits_mod (Nat.le_refl size), hbits]
          _ = _ := by rw [bitString_cons, List.append_assoc]; rfl
    case isFalse h =>
      exact ⟨[], pending, rfl, by omega, by simp, by simp⟩

/-- The pending bits and those that come in are given out, or pending at the end. -/
theorem regroupFrom_bits {values : List Nat} (hvalues : ∀ v ∈ values, v < 2 ^ width)
    (acc : Nat) {pending : Nat} (hpending : pending < size) :
    ∃ groups last left, regroupFrom width size acc pending values = (groups, last, left) ∧
      left < size ∧ (∀ g ∈ groups, g < 2 ^ size) ∧
      bits pending acc ++ bitString width values = bitString size groups ++ bits left last := by
  induction values generalizing acc pending with
  | nil => exact ⟨[], acc, pending, rfl, hpending, by simp, by simp⟩
  | cons value rest ih =>
    have hvalue : value < 2 ^ width := hvalues value (by simp)
    -- The cut leaves all the bits that are pending, old and new.
    have hkept : bits (pending + width) ((acc * 2 ^ width ||| value) % 2 ^ (width + size - 1)) =
        bits pending acc ++ bits width value := by
      rw [bits_mod (by omega), bits_shift_or hvalue]
    obtain ⟨groups, pending', htaken, hpending', hgroups, hbits⟩ := takeGroups_bits hsize
      ((acc * 2 ^ width ||| value) % 2 ^ (width + size - 1)) (pending + width)
    obtain ⟨more, last, left, hmore, hleft, hmoregroups, hmorebits⟩ :=
      ih (fun v hv => hvalues v (by simp [hv]))
        ((acc * 2 ^ width ||| value) % 2 ^ (width + size - 1)) hpending'
    refine ⟨groups ++ more, last, left, ?_, hleft, ?_, ?_⟩
    · simp only [regroupFrom, Nat.pow_eq, htaken, hmore]
    · intro g hg
      rcases List.mem_append.1 hg with hg | hg
      · exact hgroups g hg
      · exact hmoregroups g hg
    · rw [bitString_cons, bitString_append, ← List.append_assoc, ← hkept, hbits,
        List.append_assoc, hmorebits, List.append_assoc]

/-! ## Regrouping -/

/-- With padding, the groups hold the string and zeros, fewer than a group has. -/
theorem regroup_padded {values : List Nat} (hvalues : ∀ v ∈ values, v < 2 ^ width) :
    ∃ groups zeros, regroup width size true values = some groups ∧
      (∀ g ∈ groups, g < 2 ^ size) ∧ zeros < size ∧
      bitString size groups = bitString width values ++ List.replicate zeros false := by
  obtain ⟨groups, last, left, hrun, hleft, hgroups, hbits⟩ :=
    regroupFrom_bits hsize hvalues 0 hsize
  rw [bits, List.nil_append] at hbits
  by_cases hzero : left = 0
  · refine ⟨groups, 0, ?_, hgroups, hsize, ?_⟩
    · simp [regroup, hrun, hzero]
    · rw [hbits, hzero, bits, List.append_nil, List.replicate_zero, List.append_nil]
  · refine ⟨groups ++ [last * 2 ^ (size - left) % 2 ^ size], size - left, ?_, ?_, by omega, ?_⟩
    · simp [regroup, hrun, hzero]
    · intro g hg
      rcases List.mem_append.1 hg with hg | hg
      · exact hgroups g hg
      · rw [List.mem_singleton.1 hg]
        exact Nat.mod_lt _ (Nat.two_pow_pos size)
    · rw [bitString_append, bitString_cons, bitString_nil, List.append_nil, bits_padded hleft,
        hbits, List.append_assoc]

/-- Without padding, the groups hold the string up to left-over bits. These must be zeros, and fewer
than a number that was read has. -/
theorem regroup_unpadded {values : List Nat} (hvalues : ∀ v ∈ values, v < 2 ^ width) :
    ∃ groups rest, bitString width values = bitString size groups ++ rest ∧
      (∀ g ∈ groups, g < 2 ^ size) ∧ rest.length < size ∧
      regroup width size false values =
        if width ≤ rest.length ∨ true ∈ rest then none else some groups := by
  obtain ⟨groups, last, left, hrun, hleft, hgroups, hbits⟩ :=
    regroupFrom_bits hsize hvalues 0 hsize
  rw [bits, List.nil_append] at hbits
  refine ⟨groups, bits left last, hbits, hgroups, by rwa [length_bits], ?_⟩
  simp only [regroup, hrun, Nat.pow_eq, length_bits, padded_ne_zero_iff hleft, Bool.false_eq_true,
    if_false]

end

end Runesmith.Bech32
