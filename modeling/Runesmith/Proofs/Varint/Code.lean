import Mathlib.Data.List.Forall2
import Mathlib.Data.Nat.Digits.Defs
import Runesmith.Proofs.Varint

/-!
# Variable-length integers as a code

The bytes of a number are told here as a whole, by where they end and by the sum of their groups,
without following the reader from byte to byte.

* `denotes_iff`: bytes stand for a number exactly if they end with the first byte whose high bit is
  clear, and the number is the sum of their groups;
* `hasRoom_iff`: nineteen bytes have room for 128 bits exactly if the last is at most three;
* `decode_eq_ok_iff_groupSum`: what is read, in these terms;
* `encode_decode_faithful`: numbers of 128 bits are written so that they are read back, and every
  string of bytes either begins with a code that has room or is refused.
-/

namespace Runesmith.Varint

/-! ## Codes -/

/-- Bytes whose high bit is set, and behind them one whose high bit is clear. -/
def IsCode (bytes : Bytes) : Prop :=
  ∃ more last, bytes = more ++ [last] ∧ (∀ b ∈ more, 128 ≤ b.toNat) ∧ last.toNat < 128

/-- The sum of the groups of seven bits, of which the first is the least significant. -/
def groupSum (bytes : Bytes) : Nat :=
  Nat.ofDigits 128 (bytes.map fun b => b.toNat % 128)

/-- At most nineteen bytes, of which the nineteenth is at most three. -/
def HasRoom (bytes : Bytes) : Prop :=
  bytes.length ≤ 19 ∧ ∀ last, bytes[18]? = some last → last.toNat ≤ 3

theorem groupSum_nil : groupSum [] = 0 := rfl

theorem groupSum_cons (b : UInt8) (rest : Bytes) :
    groupSum (b :: rest) = b.toNat % 128 + 128 * groupSum rest :=
  Nat.ofDigits_cons ..

theorem groupSum_append_singleton (more : Bytes) (last : UInt8) :
    groupSum (more ++ [last]) = groupSum more + 128 ^ more.length * (last.toNat % 128) := by
  rw [groupSum, List.map_append, Nat.ofDigits_append, List.length_map, List.map_singleton,
    Nat.ofDigits_singleton]
  rfl

/-- Seven bits a byte bound the sum. -/
theorem groupSum_lt (bytes : Bytes) : groupSum bytes < 128 ^ bytes.length := by
  have hdigits : ∀ d ∈ bytes.map fun b => b.toNat % 128, d < 128 := by
    intro d hd
    obtain ⟨b, -, rfl⟩ := List.mem_map.1 hd
    exact Nat.mod_lt _ (by decide)
  have hlt := Nat.ofDigits_lt_base_pow_length (by decide : 1 < 128) hdigits
  rwa [List.length_map] at hlt

/-- A number is the sum of the groups of a code. -/
theorem denotes_iff {bytes : Bytes} {n : Nat} :
    Denotes bytes n ↔ IsCode bytes ∧ n = groupSum bytes := by
  constructor
  · intro h
    induction h with
    | @last b hb =>
      refine ⟨⟨[], b, rfl, by simp, hb⟩, ?_⟩
      rw [groupSum_cons, groupSum_nil]
      omega
    | @more b rest high hb _ ih =>
      obtain ⟨⟨more, last, hrest, hmore, hlast⟩, hsum⟩ := ih
      have hbyte := b.toNat_lt
      refine ⟨⟨b :: more, last, by rw [hrest]; rfl, ?_, hlast⟩, ?_⟩
      · intro c hc
        rcases List.mem_cons.1 hc with rfl | hc
        · exact hb
        · exact hmore c hc
      · rw [groupSum_cons, hsum]
        omega
  · rintro ⟨⟨more, last, rfl, hmore, hlast⟩, rfl⟩
    induction more with
    | nil =>
      have h := Denotes.last hlast
      rwa [← Nat.mod_eq_of_lt hlast] at h
    | cons b more ih =>
      obtain ⟨hb, hmore⟩ := List.forall_mem_cons.1 hmore
      have hbyte := b.toNat_lt
      have hgroup : b.toNat % 128 = b.toNat - 128 := by omega
      rw [List.cons_append, groupSum_cons, hgroup]
      exact .more hb (ih hmore)

/-- Nineteen bytes have room for 128 bits exactly if the last of them is at most three. -/
theorem hasRoom_iff {bytes : Bytes} (h : IsCode bytes) :
    HasRoom bytes ↔ bytes.length ≤ maxLength ∧ groupSum bytes ≤ maxU128 := by
  obtain ⟨more, last, rfl, -, hlast⟩ := h
  have hlength : (more ++ [last]).length = more.length + 1 := by simp
  have hlow := groupSum_lt more
  have hmax : maxU128 + 1 = 128 ^ 18 * 4 := by decide
  rw [HasRoom, groupSum_append_singleton, Nat.mod_eq_of_lt hlast, hlength, maxLength]
  rcases Nat.lt_trichotomy more.length 18 with hshort | hfull | hlong
  · -- Without a nineteenth byte the sum has at most 126 bits.
    have hnone : (more ++ [last])[18]? = none := by
      rw [List.getElem?_eq_none_iff]
      omega
    have hsum := groupSum_lt (more ++ [last])
    rw [groupSum_append_singleton, Nat.mod_eq_of_lt hlast, hlength] at hsum
    have hpow : 128 ^ (more.length + 1) ≤ 128 ^ 18 := Nat.pow_le_pow_right (by decide) (by omega)
    rw [hnone]
    exact iff_of_true ⟨by omega, by simp⟩ ⟨by omega, by omega⟩
  · have hsome : (more ++ [last])[18]? = some last := by
      rw [← hfull, List.getElem?_concat_length]
    rw [hfull] at hlow ⊢
    rw [hsome]
    constructor
    · rintro ⟨-, hthree⟩
      have hle := hthree last rfl
      exact ⟨by omega, by omega⟩
    · rintro ⟨-, hsum⟩
      refine ⟨by omega, ?_⟩
      intro other hother
      cases hother
      omega
  · exact iff_of_false (fun hroom => absurd hroom.1 (by omega))
      (fun hroom => absurd hroom.1 (by omega))

/-! ## Reading and writing codes -/

/-- What is read is a code with room, to its end, and the number is the sum of its groups. -/
theorem decode_eq_ok_iff_groupSum {bytes rest : Bytes} {n : Nat} :
    decode bytes = .ok (n, rest) ↔
      ∃ code, bytes = code ++ rest ∧ IsCode code ∧ HasRoom code ∧ n = groupSum code := by
  rw [decode_eq_ok_iff]
  constructor
  · rintro ⟨code, hbytes, hdenotes, hlength, hn⟩
    obtain ⟨hcode, rfl⟩ := denotes_iff.1 hdenotes
    exact ⟨code, hbytes, hcode, (hasRoom_iff hcode).2 ⟨hlength, hn⟩, rfl⟩
  · rintro ⟨code, hbytes, hcode, hroom, rfl⟩
    obtain ⟨hlength, hn⟩ := (hasRoom_iff hcode).1 hroom
    exact ⟨code, hbytes, denotes_iff.2 ⟨hcode, rfl⟩, hlength, hn⟩

/-- No code of a number is shorter than the one that is written. -/
theorem exists_encode_le {code : Bytes} (hcode : IsCode code) (hroom : HasRoom code) :
    ∃ shortest, encode (groupSum code) = .ok shortest ∧ shortest.length ≤ code.length := by
  have hrange : InRange (groupSum code) := inRange_natCast.2 ((hasRoom_iff hcode).1 hroom).2
  have hpos : 0 < code.length := by
    obtain ⟨more, last, rfl, -⟩ := hcode
    simp
  exact ⟨_, encode_eq_ok_iff.2 ⟨hrange, rfl⟩, length_groups_le (groupSum_lt code) hpos⟩

theorem exists_encode {n : Nat} (h : n < 2 ^ 128) : encode n = .ok (groups n) := by
  have hmax : maxU128 + 1 = 2 ^ 128 := by decide
  exact encode_eq_ok_iff.2 ⟨inRange_natCast.2 (by omega), rfl⟩

theorem decodeAll_flatten_groups {values : List Nat} (h : ∀ n ∈ values, n < 2 ^ 128) :
    decodeAll (values.map groups).flatten = .ok values := by
  induction values with
  | nil => exact decodeAll_nil
  | cons n rest ih =>
    obtain ⟨hn, hrest⟩ := List.forall_mem_cons.1 h
    have hmax : maxU128 + 1 = 2 ^ 128 := by decide
    rw [List.map_cons, List.flatten_cons, decodeAll_of_decode (decode_groups (by omega) _),
      ih hrest]
    rfl

/-- Numbers of at most 128 bits have codes, which are read back one behind the other, and each of
them whatever follows it. A string of bytes that begins with a code with room is read up to the end
of that code, as the sum of its groups, and what is written for the number is no longer. Any other
string of bytes is refused. -/
theorem encode_decode_faithful :
    (∀ values : List Nat, (∀ n ∈ values, n < 2 ^ 128) →
      ∃ codes, List.Forall₂ (fun (n : Nat) code => encode n = .ok code) values codes
        ∧ decodeAll codes.flatten = .ok values)
    ∧ (∀ n : Nat, n < 2 ^ 128 →
      ∃ code, encode n = .ok code ∧ ∀ rest, decode (code ++ rest) = .ok (n, rest))
    ∧ ∀ bytes : Bytes,
      (∃ code rest, bytes = code ++ rest ∧ IsCode code ∧ HasRoom code
        ∧ decode bytes = .ok (groupSum code, rest) ∧ groupSum code < 2 ^ 128
        ∧ ∃ shortest, encode (groupSum code) = .ok shortest ∧ shortest.length ≤ code.length)
      ∨ (¬∃ code rest, bytes = code ++ rest ∧ IsCode code ∧ HasRoom code)
        ∧ ∃ e, decode bytes = .error e := by
  have hmax : maxU128 + 1 = 2 ^ 128 := by decide
  refine ⟨?_, ?_, ?_⟩
  · intro values hvalues
    refine ⟨values.map groups, ?_, decodeAll_flatten_groups hvalues⟩
    rw [List.forall₂_map_right_iff, List.forall₂_same]
    exact fun n hn => exists_encode (hvalues n hn)
  · intro n hn
    exact ⟨groups n, exists_encode hn, fun rest => decode_groups (by omega) rest⟩
  · intro bytes
    cases hread : decode bytes with
    | ok found =>
      obtain ⟨code, hbytes, hcode, hroom, hsum⟩ := decode_eq_ok_iff_groupSum.1 hread
      have hbound := ((hasRoom_iff hcode).1 hroom).2
      refine .inl ⟨code, found.2, hbytes, hcode, hroom, ?_, by omega, exists_encode_le hcode hroom⟩
      rw [← hsum]
    | error e =>
      refine .inr ⟨?_, e, rfl⟩
      rintro ⟨code, rest, hbytes, hcode, hroom⟩
      rw [decode_eq_ok_iff_groupSum.2 ⟨code, hbytes, hcode, hroom, rfl⟩] at hread
      cases hread

end Runesmith.Varint
