import Mathlib.Algebra.Group.Nat.Defs
import Runesmith.Varint

/-!
# The numbers of a payload

`Denotes` says which number a string of base-128 groups stands for, without a bound on its length
or its value and without a rule that it be the shortest. Against it:

* `decode_eq_ok_iff`: a number is read exactly from the front parts of at most nineteen bytes that
  stand for a number of at most 128 bits.
* `decodeAll_eq_ok_iff`: the same for a whole payload.
* `decodeAll_encodeAll`: numbers that were written are read back.
-/

namespace Runesmith.Varint

/-! ## Base-128 groups -/

/-- The number that a string of groups stands for: the high bit is set on all bytes but the last,
and the first group is the least significant one. -/
inductive Denotes : Bytes → Nat → Prop where
  | last {b : UInt8} (h : b.toNat < 128) : Denotes [b] b.toNat
  | more {b : UInt8} {rest : Bytes} {n : Nat} (h : 128 ≤ b.toNat) (hrest : Denotes rest n) :
      Denotes (b :: rest) (b.toNat - 128 + 128 * n)

theorem Denotes.ne_nil {bytes : Bytes} {n : Nat} (h : Denotes bytes n) : bytes ≠ [] := by
  cases h <;> simp

/-- The writer writes the number that it was given. -/
theorem denotes_groups (n : Nat) : Denotes (groups n) n := by
  induction n using Nat.strongRecOn with
  | ind n ih =>
    rw [groups]
    split
    · rename_i hn
      have hb : (UInt8.ofNat n).toNat = n := UInt8.toNat_ofNat_of_lt' (by show n < 256; omega)
      have h := @Denotes.last (UInt8.ofNat n) (by omega)
      rwa [hb] at h
    · have hb : (UInt8.ofNat (n % 128 + 128)).toNat = n % 128 + 128 :=
        UInt8.toNat_ofNat_of_lt' (by show n % 128 + 128 < 256; omega)
      have h := Denotes.more (by omega : 128 ≤ (UInt8.ofNat (n % 128 + 128)).toNat)
        (ih (n / 128) (by omega))
      rw [hb] at h
      rwa [show n % 128 + 128 - 128 + 128 * (n / 128) = n by omega] at h

/-- Seven bits a byte bound the length of what is written. -/
theorem length_groups_le {width n : Nat} (h : n < 128 ^ width) (hw : 0 < width) :
    (groups n).length ≤ width := by
  induction width generalizing n with
  | zero => omega
  | succ width ih =>
    rw [groups]
    split
    · simp
    · rename_i hn
      have hrest : n / 128 < 128 ^ width := by
        rw [Nat.pow_succ] at h
        omega
      -- A number that needs a second byte leaves room for one.
      have hwidth : 0 < width := by
        rcases Nat.eq_zero_or_pos width with rfl | hpos
        · simp at hrest
          omega
        · exact hpos
      have := ih hrest hwidth
      simp only [List.length_cons]
      omega

/-- A number of at most 128 bits is written in at most nineteen bytes. -/
theorem length_groups_le_maxLength {n : Nat} (h : n ≤ maxU128) :
    (groups n).length ≤ maxLength := by
  apply length_groups_le
  · have : maxU128 < 128 ^ maxLength := by decide
    omega
  · decide

/-! ## Reading one number -/

/-- A front part of at most `room + 1` bytes is read if the number fits: seven bits in every byte
but the last possible one, two bits there. -/
theorem decodeWithin_of_denotes {room n : Nat} {front : Bytes} (rest : Bytes)
    (hd : Denotes front n) (hlen : front.length ≤ room + 1) (hn : n < 4 * 128 ^ room) :
    decodeWithin (room + 1) (front ++ rest) = .ok (n, rest) := by
  induction hd generalizing room with
  | @last b hb =>
    -- The last possible byte holds two bits only; the bound on the number says that they suffice.
    have hgroup : b.toNat % 128 = b.toNat := by omega
    have hfits : ¬(room = 0 ∧ 4 ≤ b.toNat) := by
      rintro ⟨rfl, hfour⟩
      simp only [Nat.pow_zero] at hn
      omega
    simp only [List.singleton_append, decodeWithin, hgroup]
    rw [if_neg hfits, if_pos hb]
  | @more b tail high hb hrest ih =>
    have hpos := List.length_pos_iff.2 hrest.ne_nil
    rw [List.length_cons] at hlen
    cases room with
    | zero => omega
    | succ room =>
      have hpow : 128 ^ (room + 1) = 128 ^ room * 128 := Nat.pow_succ ..
      have hgroup : b.toNat % 128 = b.toNat - 128 := by
        have := b.toNat_lt
        omega
      have hrec := @ih room (by omega) (by omega)
      simp only [List.cons_append, decodeWithin, hgroup]
      rw [if_neg (by omega), if_neg (by omega), hrec]

/-- What was read is such a front part. -/
theorem denotes_of_decodeWithin {room n : Nat} {bytes rest : Bytes}
    (h : decodeWithin (room + 1) bytes = .ok (n, rest)) :
    ∃ front, bytes = front ++ rest ∧ Denotes front n ∧ front.length ≤ room + 1
      ∧ n < 4 * 128 ^ room := by
  induction bytes generalizing room n with
  | nil => simp [decodeWithin] at h
  | cons b tail ih =>
    have hbyte := b.toNat_lt
    simp only [decodeWithin] at h
    split at h
    · simp at h
    · rename_i hfits
      split at h
      · rename_i hlast
        simp only [Except.ok.injEq, Prod.mk.injEq] at h
        rcases h with ⟨rfl, rfl⟩
        have hgroup : b.toNat % 128 = b.toNat := by omega
        rw [hgroup] at hfits ⊢
        -- Without more room the byte was checked; with more room any seven bits are small enough.
        have hpow : room = 0 ∨ 128 ^ 1 ≤ 128 ^ room := by
          rcases Nat.eq_zero_or_pos room with hzero | hpos
          · exact Or.inl hzero
          · exact Or.inr (Nat.pow_le_pow_right (by decide) hpos)
        refine ⟨[b], rfl, .last hlast, by simp, ?_⟩
        rcases hpow with rfl | hpow
        · simp only [true_and, Nat.pow_zero] at hfits ⊢
          omega
        · omega
      · split at h
        · rename_i hmore _ high rest' hrec
          simp only [Except.ok.injEq, Prod.mk.injEq] at h
          rcases h with ⟨rfl, rfl⟩
          cases room with
          | zero => cases tail <;> simp [decodeWithin] at hrec
          | succ room =>
            rcases ih hrec with ⟨front, rfl, hd, hlen, hn⟩
            have hpow : 128 ^ (room + 1) = 128 ^ room * 128 := Nat.pow_succ ..
            have hgroup : b.toNat % 128 = b.toNat - 128 := by omega
            rw [hgroup]
            refine ⟨b :: front, rfl, .more (by omega) hd, ?_, by omega⟩
            rw [List.length_cons]
            omega
        · simp at h

/-- A number is read exactly from a front part of at most nineteen bytes that stands for a number
of at most 128 bits; the shortest form is not asked for. -/
theorem decode_eq_ok_iff {bytes rest : Bytes} {n : Nat} :
    decode bytes = .ok (n, rest) ↔
      ∃ front, bytes = front ++ rest ∧ Denotes front n ∧ front.length ≤ maxLength
        ∧ n ≤ maxU128 := by
  have hbound : 4 * 128 ^ 18 = maxU128 + 1 := by decide
  constructor
  · intro h
    rcases @denotes_of_decodeWithin 18 _ _ _ h with ⟨front, hfront, hd, hlen, hn⟩
    exact ⟨front, hfront, hd, hlen, by omega⟩
  · rintro ⟨front, rfl, hd, hlen, hn⟩
    exact @decodeWithin_of_denotes 18 _ _ rest hd hlen (by omega)

theorem decode_groups {n : Nat} (h : n ≤ maxU128) (rest : Bytes) :
    decode (groups n ++ rest) = .ok (n, rest) :=
  decode_eq_ok_iff.2 ⟨groups n, rfl, denotes_groups n, length_groups_le_maxLength h, h⟩

/-! ## Reading all numbers -/

/-- The numbers that a payload stands for, each of at most nineteen bytes and 128 bits. -/
inductive DenotesAll : Bytes → List Nat → Prop where
  | nil : DenotesAll [] []
  | cons {front rest : Bytes} {n : Nat} {values : List Nat} (h : Denotes front n)
      (hlen : front.length ≤ maxLength) (hn : n ≤ maxU128) (hrest : DenotesAll rest values) :
      DenotesAll (front ++ rest) (n :: values)

theorem decodeAll_nil : decodeAll [] = .ok [] := by
  rw [decodeAll]
  simp

theorem decodeAll_of_decode {bytes rest : Bytes} {n : Nat} (h : decode bytes = .ok (n, rest)) :
    decodeAll bytes = (decodeAll rest).map (n :: ·) := by
  have hne : bytes ≠ [] := by
    rintro rfl
    simp [decode, maxLength, decodeWithin] at h
  rw [decodeAll, if_neg hne]
  split
  · rename_i e he
    rw [h] at he
    simp at he
  · rename_i value rest' hd
    rw [h] at hd
    simp only [Except.ok.injEq, Prod.mk.injEq] at hd
    rcases hd with ⟨rfl, rfl⟩
    cases decodeAll rest <;> rfl

/-- A payload is read exactly if all of it stands for numbers. -/
theorem decodeAll_eq_ok_iff {bytes : Bytes} {values : List Nat} :
    decodeAll bytes = .ok values ↔ DenotesAll bytes values := by
  constructor
  · intro h
    fun_induction decodeAll bytes generalizing values with
    | case1 =>
      simp only [Except.ok.injEq] at h
      rw [← h]
      exact .nil
    | case2 => simp at h
    | case3 => simp at h
    | case4 bytes _ value rest hd more _ ih =>
      simp only [Except.ok.injEq] at h
      rcases decode_eq_ok_iff.1 hd with ⟨front, rfl, hdenotes, hlen, hn⟩
      rw [← h]
      exact .cons hdenotes hlen hn (ih ‹_›)
  · intro h
    induction h with
    | nil => exact decodeAll_nil
    | cons hd hlen hn _ ih =>
      rw [decodeAll_of_decode (decode_eq_ok_iff.2 ⟨_, rfl, hd, hlen, hn⟩), ih]
      rfl

/-- Every number of a payload has at most 128 bits. -/
theorem DenotesAll.le_maxU128 {bytes : Bytes} {values : List Nat} (h : DenotesAll bytes values) :
    ∀ n ∈ values, n ≤ maxU128 := by
  induction h with
  | nil => simp
  | cons _ _ hn _ ih =>
    intro m hm
    rcases List.mem_cons.1 hm with rfl | hm
    · exact hn
    · exact ih m hm

/-! ## Writing and reading back -/

/-- Whether a number has an encoding. -/
def InRange (value : Int) : Prop := 0 ≤ value ∧ value ≤ maxU128

instance (value : Int) : Decidable (InRange value) :=
  inferInstanceAs (Decidable (_ ∧ _))

theorem inRange_natCast {n : Nat} : InRange n ↔ n ≤ maxU128 := by
  unfold InRange
  omega

theorem encode_eq_ok_iff {value : Int} {bytes : Bytes} :
    encode value = .ok bytes ↔ InRange value ∧ bytes = groups value.toNat := by
  unfold encode
  split
  · rename_i h
    simp [InRange, h, eq_comm]
  · rename_i h
    simp [InRange, h]

/-- Numbers can be written exactly if every one of them is in range. -/
theorem encodeAll_eq_ok_iff {values : List Int} {bytes : Bytes} :
    encodeAll values = .ok bytes ↔
      (∀ v ∈ values, InRange v) ∧ bytes = values.flatMap (groups ·.toNat) := by
  induction values generalizing bytes with
  | nil => simp [encodeAll, eq_comm]
  | cons v rest ih =>
    simp only [encodeAll, bind, Except.bind, pure, Except.pure]
    constructor
    · intro h
      cases hv : encode v with
      | error e => simp [hv] at h
      | ok front =>
        cases hr : encodeAll rest with
        | error e => simp [hv, hr] at h
        | ok back =>
          simp only [hv, hr, Except.ok.injEq] at h
          rcases encode_eq_ok_iff.1 hv with ⟨hrange, rfl⟩
          rcases ih.1 hr with ⟨hrest, rfl⟩
          exact ⟨by simpa using ⟨hrange, hrest⟩, by simpa [eq_comm] using h⟩
    · rintro ⟨hrange, rfl⟩
      have hv := encode_eq_ok_iff.2 ⟨hrange v (by simp), rfl⟩
      have hr := ih.2 ⟨fun w hw => hrange w (by simp [hw]), rfl⟩
      simp [hv, hr]

/-- Numbers that were written are read back. -/
theorem decodeAll_encodeAll {values : List Int} {bytes : Bytes} (h : encodeAll values = .ok bytes) :
    decodeAll bytes = .ok (values.map Int.toNat) := by
  rcases encodeAll_eq_ok_iff.1 h with ⟨hrange, rfl⟩
  clear h
  induction values with
  | nil => exact decodeAll_nil
  | cons v rest ih =>
    have hv : v.toNat ≤ maxU128 := by
      have := hrange v (by simp)
      unfold InRange at this
      omega
    rw [List.flatMap_cons, decodeAll_of_decode (decode_groups hv _),
      ih fun w hw => hrange w (by simp [hw])]
    rfl

end Runesmith.Varint
