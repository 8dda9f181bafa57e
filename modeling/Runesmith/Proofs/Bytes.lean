import Mathlib.Algebra.Group.Nat.Defs
import Runesmith.Bytes

/-!
# Facts about byte strings

What cutting, joining, hexadecimal text and little-endian numbers do to each other. The readers of
scripts, of numbers and of transactions are built from these, so their round trips rest on the facts
below.
-/

namespace Runesmith.Bytes

/-! ## Cutting -/

/-- Cutting succeeds exactly on a string with a front part of the wanted length. -/
theorem split?_eq_some_iff {n : Nat} {bytes front rest : Bytes} :
    split? n bytes = some (front, rest) ↔ bytes = front ++ rest ∧ front.length = n := by
  constructor
  · intro h
    exact ⟨(split?_append h).1.symm, (split?_append h).2⟩
  · rintro ⟨rfl, rfl⟩
    simp [split?, List.splitAt_eq]

theorem split?_length_append (front rest : Bytes) :
    split? front.length (front ++ rest) = some (front, rest) :=
  split?_eq_some_iff.2 ⟨rfl, rfl⟩

theorem split?_eq_none_iff {n : Nat} {bytes : Bytes} :
    split? n bytes = none ↔ bytes.length < n := by
  rw [split?, List.splitAt_eq]
  dsimp only
  rw [List.length_take]
  split
  · exact iff_of_false (Option.some_ne_none _) (by omega)
  · exact iff_of_true rfl (by omega)

/-! ## Single bytes -/

/-- A byte has eight bits. -/
theorem toNat_lt_of_mem (bytes : Bytes) : ∀ v ∈ bytes.map UInt8.toNat, v < 2 ^ 8 := by
  intro v hv
  obtain ⟨b, -, rfl⟩ := List.mem_map.1 hv
  exact b.toNat_lt

/-! ## Pieces -/

/-- The pieces are the string, cut up. -/
theorem flatten_chunks {n : Nat} (hn : n ≠ 0) (bytes : Bytes) :
    (chunks n bytes).flatten = bytes := by
  fun_induction chunks n bytes with
  | case1 bytes h =>
    rcases h with h | h
    · exact absurd h hn
    · rw [h]
      rfl
  | case2 bytes _ ih =>
    rw [List.flatten_cons, ih, List.take_append_drop]

/-- No piece is longer than it should be. -/
theorem length_le_of_mem_chunks {n : Nat} {bytes piece : Bytes} (h : piece ∈ chunks n bytes) :
    piece.length ≤ n := by
  fun_induction chunks n bytes with
  | case1 => simp at h
  | case2 bytes _ ih =>
    rcases List.mem_cons.1 h with rfl | h
    · exact List.length_take_le n bytes
    · exact ih h

theorem chunks_of_length_le {n : Nat} {bytes : Bytes} (hne : bytes ≠ [])
    (h : bytes.length ≤ n) : chunks n bytes = [bytes] := by
  have hn : n ≠ 0 := by
    have hpos := List.length_pos_iff.2 hne
    omega
  rw [chunks, dif_neg (not_or.2 ⟨hn, hne⟩), List.take_of_length_le h, List.drop_eq_nil_of_le h,
    chunks, dif_pos (.inr rfl)]

/-! ## Hexadecimal text -/

/-- The digits that bytes are written with. -/
def lowerHexDigits : List Char :=
  "0123456789abcdef".toList

theorem hexValue?_hexDigit {n : Nat} (h : n < 16) : hexValue? (hexDigit n) = some n := by
  have hall : ∀ n < 16, hexValue? (hexDigit n) = some n := by decide
  exact hall n h

theorem hexDigit_hexValue? {c : Char} (h : c ∈ lowerHexDigits) :
    ∃ n < 16, hexValue? c = some n ∧ hexDigit n = c := by
  have hall : (lowerHexDigits.all fun c =>
      (hexValue? c).any fun n => n < 16 ∧ hexDigit n = c) = true := by
    decide
  obtain ⟨n, hvalue, hn⟩ := (Option.any_eq_true _ _).1 (List.all_eq_true.1 hall c h)
  obtain ⟨hsmall, hdigit⟩ := of_decide_eq_true hn
  exact ⟨n, hsmall, hvalue, hdigit⟩

/-- Bytes are read back from the digits that they are written with. -/
theorem ofHexDigits?_hexDigits (bytes : Bytes) : ofHexDigits? bytes.hexDigits = some bytes := by
  induction bytes with
  | nil => rfl
  | cons b rest ih =>
    have hb := b.toNat_lt
    have hhigh : hexValue? (hexDigit (b.toNat / 16)) = some (b.toNat / 16) :=
      hexValue?_hexDigit (by omega)
    have hlow : hexValue? (hexDigit (b.toNat % 16)) = some (b.toNat % 16) :=
      hexValue?_hexDigit (by omega)
    have hbyte : 16 * (b.toNat / 16) + b.toNat % 16 = b.toNat := by omega
    show ofHexDigits? (_ :: _ :: hexDigits rest) = _
    rw [ofHexDigits?, hhigh, hlow, ih]
    dsimp only
    rw [hbyte, UInt8.ofNat_toNat]

theorem ofHex?_toHex (bytes : Bytes) : ofHex? bytes.toHex = some bytes := by
  rw [ofHex?, toHex, String.toList_ofList]
  exact ofHexDigits?_hexDigits bytes

theorem length_hexDigits (bytes : Bytes) : bytes.hexDigits.length = 2 * bytes.length := by
  induction bytes with
  | nil => rfl
  | cons b rest ih =>
    show (hexDigits rest).length + 2 = 2 * (rest.length + 1)
    omega

theorem mem_lowerHexDigits (bytes : Bytes) : ∀ c ∈ bytes.hexDigits, c ∈ lowerHexDigits := by
  have hall : ∀ n < 16, hexDigit n ∈ lowerHexDigits := by decide
  intro c hc
  obtain ⟨b, -, hb⟩ := List.mem_flatMap.1 hc
  have hbyte := b.toNat_lt
  rcases List.mem_cons.1 hb with rfl | hlow
  · exact hall _ (by omega)
  · rw [List.mem_singleton.1 hlow]
    exact hall _ (by omega)

/-- Pairs of lowercase digits are written again as they were read. -/
theorem hexDigits_of_lower {pairs : Nat} {cs : List Char} (hlength : cs.length = 2 * pairs)
    (hlower : ∀ c ∈ cs, c ∈ lowerHexDigits) :
    ∃ bytes, ofHexDigits? cs = some bytes ∧ hexDigits bytes = cs ∧ bytes.length = pairs := by
  induction pairs generalizing cs with
  | zero =>
    have hnil : cs = [] := List.length_eq_zero_iff.1 hlength
    rw [hnil]
    exact ⟨[], rfl, rfl, rfl⟩
  | succ pairs ih =>
    match cs with
    | [] => simp at hlength
    | [_] => simp at hlength; omega
    | high :: low :: rest =>
      have hrest : rest.length = 2 * pairs := by
        simp only [List.length_cons] at hlength
        omega
      obtain ⟨h, hsmall, hvalue, hdigit⟩ := hexDigit_hexValue? (hlower high (by simp))
      obtain ⟨l, lsmall, lvalue, ldigit⟩ := hexDigit_hexValue? (hlower low (by simp))
      obtain ⟨bytes, hread, hwritten, hcount⟩ := ih hrest fun c hc => hlower c (by simp [hc])
      have hbyte : (UInt8.ofNat (16 * h + l)).toNat = 16 * h + l :=
        UInt8.toNat_ofNat_of_lt' (by simp only [UInt8.size]; omega)
      refine ⟨UInt8.ofNat (16 * h + l) :: bytes, ?_, ?_, congrArg (· + 1) hcount⟩
      · rw [ofHexDigits?, hvalue, lvalue, hread]
      · have hhigh : (16 * h + l) / 16 = h := by omega
        have hlow : (16 * h + l) % 16 = l := by omega
        show hexDigit _ :: hexDigit _ :: hexDigits bytes = _
        rw [hbyte, hhigh, hlow, hdigit, ldigit, hwritten]

/-! ## Little-endian numbers -/

@[simp] theorem length_littleEndian (width n : Nat) : (littleEndian width n).length = width := by
  induction width generalizing n with
  | zero => rfl
  | succ width ih => simp [littleEndian, ih]

theorem ofLittleEndian_lt (bytes : Bytes) : ofLittleEndian bytes < 256 ^ bytes.length := by
  induction bytes with
  | nil => simp [ofLittleEndian]
  | cons b rest ih =>
    have hb := b.toNat_lt
    simp only [ofLittleEndian, List.length_cons, Nat.pow_succ]
    omega

/-- A number that fits is read back from its digits. -/
theorem ofLittleEndian_littleEndian {width n : Nat} (h : n < 256 ^ width) :
    ofLittleEndian (littleEndian width n) = n := by
  induction width generalizing n with
  | zero =>
    simp only [Nat.pow_zero, Nat.lt_one_iff] at h
    simp [littleEndian, ofLittleEndian, h]
  | succ width ih =>
    have hrest : n / 256 < 256 ^ width := by
      rw [Nat.pow_succ] at h
      omega
    have hbyte : (UInt8.ofNat (n % 256)).toNat = n % 256 :=
      UInt8.toNat_ofNat_of_lt' (Nat.mod_lt n (by decide))
    rw [littleEndian, ofLittleEndian, ih hrest, hbyte]
    omega

/-- Digits are written back from the number that they denote. -/
theorem littleEndian_ofLittleEndian (bytes : Bytes) :
    littleEndian bytes.length (ofLittleEndian bytes) = bytes := by
  induction bytes with
  | nil => rfl
  | cons b rest ih =>
    have hb := b.toNat_lt
    have hlow : (b.toNat + 256 * ofLittleEndian rest) % 256 = b.toNat := by omega
    have hhigh : (b.toNat + 256 * ofLittleEndian rest) / 256 = ofLittleEndian rest := by omega
    rw [List.length_cons, ofLittleEndian, littleEndian, hlow, hhigh, ih, UInt8.ofNat_toNat]

end Runesmith.Bytes
