import Mathlib.Data.Nat.Digits.Lemmas
import Runesmith.Address.Base58
import Runesmith.Proofs.Bytes

/-!
# How bytes are written in base 58

The text of bytes by its definition: a `1` for every leading zero byte, then the digits of the
number that the bytes denote, without leading zeros. Text and bytes are numerals of one number in
two bases, and in either base a numeral is the count of its leading zeros and its value. The decoder
carries both over, so nothing is lost in either direction.

* `padded_leading_value`: a numeral is made again from its leading zeros and its value.
* `decode_eq_ok_iff`: text decodes to bytes exactly if it is what is written for these bytes.
* `decodeCheck_eq_ok_iff`: the same with a checksum behind the bytes.
-/

namespace Runesmith.Base58

/-! ## Numerals with leading zeros -/

/-- The digits of a number, most significant first, behind so many zeros. -/
def padded (base zeros n : Nat) : List Nat :=
  List.replicate zeros 0 ++ (base.digits n).reverse

/-- The number of zeros that a numeral begins with. -/
def leading (ds : List Nat) : Nat :=
  (ds.takeWhile (· = 0)).length

/-- The number that digits denote behind those that denote `n`, most significant first. -/
def valueFrom (base n : Nat) (ds : List Nat) : Nat :=
  ds.foldl (fun value d => base * value + d) n

/-- The number that a numeral denotes. -/
def value (base : Nat) (ds : List Nat) : Nat :=
  valueFrom base 0 ds

theorem value_eq_ofDigits (base : Nat) (ds : List Nat) :
    value base ds = Nat.ofDigits base ds.reverse := by
  rw [value, valueFrom, Nat.ofDigits_eq_foldr, List.foldr_reverse]
  simp only [Nat.cast_id, Nat.add_comm]

section

variable {base : Nat} (hbase : 1 < base)

include hbase

theorem lt_of_mem_padded {zeros n d : Nat} (h : d ∈ padded base zeros n) : d < base := by
  rcases List.mem_append.1 h with h | h
  · rw [List.eq_of_mem_replicate h]
    omega
  · exact Nat.digits_lt_base hbase (List.mem_reverse.1 h)

/-- A numeral is made again from its leading zeros and its value. -/
theorem padded_leading_value {ds : List Nat} (h : ∀ d ∈ ds, d < base) :
    padded base (leading ds) (value base ds) = ds := by
  induction ds with
  | nil => simp [padded, leading, value, valueFrom]
  | cons d rest ih =>
    have hrest := ih fun e he => h e (List.mem_cons_of_mem d he)
    by_cases hd : d = 0
    · have hleading : leading (d :: rest) = leading rest + 1 := by
        simp [leading, hd]
      have hvalue : value base (d :: rest) = value base rest := by
        simp [value, valueFrom, hd]
      rw [hleading, hvalue, padded, List.replicate_succ, List.cons_append, ← padded, hrest, hd]
    · have hleading : leading (d :: rest) = 0 := by
        simp [leading, hd]
      have hdigits : base.digits (value base (d :: rest)) = (d :: rest).reverse := by
        rw [value_eq_ofDigits]
        refine Nat.digits_ofDigits base hbase _ (fun e he => h e (List.mem_reverse.1 he)) ?_
        intro hne
        rwa [List.getLast_reverse]
      rw [padded, hleading, hdigits, List.reverse_reverse, List.replicate_zero, List.nil_append]

end

theorem leading_padded (base zeros n : Nat) : leading (padded base zeros n) = zeros := by
  have hfirst : ((base.digits n).reverse.takeWhile (· = 0)) = [] := by
    cases hds : (base.digits n).reverse with
    | nil => rfl
    | cons d rest =>
      have hn : n ≠ 0 := by
        rintro rfl
        simp at hds
      have hdigits : base.digits n = rest.reverse ++ [d] := by
        rw [← List.reverse_cons, ← hds, List.reverse_reverse]
      have hd := Nat.getLast_digit_ne_zero base hn
      simp only [hdigits, List.getLast_concat] at hd
      rw [List.takeWhile_cons_of_neg (by simpa using hd)]
  rw [leading, padded, List.takeWhile_append_of_pos, hfirst, List.append_nil,
    List.length_replicate]
  intro d hd
  simp [List.eq_of_mem_replicate hd]

theorem value_padded (base zeros n : Nat) : value base (padded base zeros n) = n := by
  rw [value_eq_ofDigits, padded, List.reverse_append, List.reverse_reverse, List.reverse_replicate,
    Nat.ofDigits_append, Nat.ofDigits_digits, Nat.ofDigits_replicate_zero, Nat.mul_zero,
    Nat.add_zero]

/-! ## Letters -/

/-- Letters and digits in the order of their code points, without those that look alike. -/
def letters : List Char :=
  ((List.range 128).map Char.ofNat).filter fun c =>
    c.isAlphanum && !(['0', 'O', 'I', 'l'].contains c)

/-- The letter of a digit in base 58. -/
def letter (digit : Nat) : Char :=
  letters.getD digit '1'

theorem digitValue?_letter {d : Nat} (h : d < 58) : digitValue? (letter d) = some d := by
  have hall : ∀ d < 58, digitValue? (letter d) = some d := by decide
  exact hall d h

theorem letter_eq_one_iff {d : Nat} (h : d < 58) : letter d = '1' ↔ d = 0 := by
  have hall : ∀ d < 58, letter d = '1' ↔ d = 0 := by decide
  exact hall d h

theorem letter_of_digitValue? {c : Char} {d : Nat} (h : digitValue? c = some d) :
    d < 58 ∧ c = letter d := by
  obtain ⟨hd, hc, -⟩ := List.idxOf?_eq_some_iff.1 h
  have hlength : alphabet.length = 58 := by decide
  have hall : ∀ i : Fin alphabet.length, alphabet.get i = letter i := by decide
  refine ⟨hlength ▸ hd, ?_⟩
  rw [← hc]
  exact hall ⟨d, hd⟩

/-- Text is read as a number exactly if it is made of the letters of digits. -/
theorem readDigits_eq_ok_iff {cs : List Char} {start n : Nat} :
    readDigits start cs = .ok n ↔
      ∃ ds : List Nat, cs = ds.map letter ∧ (∀ d ∈ ds, d < 58) ∧ n = valueFrom 58 start ds := by
  induction cs generalizing start with
  | nil =>
    constructor
    · intro h
      cases h
      exact ⟨[], rfl, nofun, rfl⟩
    · rintro ⟨ds, hcs, -, rfl⟩
      rw [List.map_eq_nil_iff.1 hcs.symm]
      rfl
  | cons c rest ih =>
    rw [readDigits]
    constructor
    · intro h
      split at h
      case h_1 d hd =>
        obtain ⟨hsmall, rfl⟩ := letter_of_digitValue? hd
        obtain ⟨ds, rfl, hds, rfl⟩ := ih.1 h
        exact ⟨d :: ds, rfl, List.forall_mem_cons.2 ⟨hsmall, hds⟩, rfl⟩
      case h_2 => cases h
    · rintro ⟨ds, hcs, hds, rfl⟩
      obtain ⟨d, ds, rfl, rfl, rfl⟩ := List.map_eq_cons_iff.1 hcs.symm
      obtain ⟨hd, hds⟩ := List.forall_mem_cons.1 hds
      rw [digitValue?_letter hd]
      exact ih.2 ⟨ds, rfl, hds, rfl⟩

/-- The leading ones of text are the leading zeros of its digits. -/
theorem length_takeWhile_letter {ds : List Nat} (h : ∀ d ∈ ds, d < 58) :
    ((ds.map letter).takeWhile (· = '1')).length = leading ds := by
  induction ds with
  | nil => rfl
  | cons d rest ih =>
    obtain ⟨hd, hrest⟩ := List.forall_mem_cons.1 h
    have hone := letter_eq_one_iff hd
    by_cases hzero : d = 0
    · rw [List.map_cons, hone.2 hzero, hzero]
      simpa [leading] using ih hrest
    · simp [leading, hzero, hone]

/-! ## Bytes -/

theorem map_ofNat_toNat (bytes : Bytes) : (bytes.map UInt8.toNat).map UInt8.ofNat = bytes := by
  rw [List.map_map]
  exact (List.map_congr_left fun b _ => UInt8.ofNat_toNat).trans (List.map_id bytes)

theorem map_toNat_ofNat {ds : List Nat} (h : ∀ d ∈ ds, d < 256) :
    (ds.map UInt8.ofNat).map UInt8.toNat = ds := by
  rw [List.map_map]
  exact (List.map_congr_left fun d hd => UInt8.toNat_ofNat_of_lt' (h d hd)).trans (List.map_id ds)

theorem bytesReversed_eq_digits (n : Nat) :
    bytesReversed n = ((256).digits n).map UInt8.ofNat := by
  fun_induction bytesReversed n with
  | case1 => rw [Nat.digits_zero, List.map_nil]
  | case2 n hn ih =>
    rw [Nat.digits_def' (by decide) (Nat.pos_of_ne_zero hn), List.map_cons, ih]

theorem ofBigEndian_eq_value (bytes : Bytes) :
    Bytes.ofBigEndian bytes = value 256 (bytes.map UInt8.toNat) := by
  rw [Bytes.ofBigEndian, value, valueFrom, List.foldl_map]
  simp only [Nat.mul_comm]

theorem leading_bytes (bytes : Bytes) :
    (bytes.takeWhile (· = 0)).length = leading (bytes.map UInt8.toNat) := by
  rw [leading, List.takeWhile_map, List.length_map]
  congr
  funext b
  simp [← UInt8.toNat_inj]

/-! ## The text of bytes -/

/-- Bytes in base 58: a `1` for every leading zero byte, and the digits of the number behind. -/
def encode (bytes : Bytes) : String :=
  String.ofList (List.replicate (bytes.takeWhile (· = 0)).length '1' ++
    ((58).digits (Bytes.ofBigEndian bytes)).reverse.map letter)

theorem encode_eq_padded (bytes : Bytes) :
    encode bytes = String.ofList ((padded 58 (leading (bytes.map UInt8.toNat))
      (value 256 (bytes.map UInt8.toNat))).map letter) := by
  have hone : letter 0 = '1' := (letter_eq_one_iff (by decide)).2 rfl
  rw [encode, padded, List.map_append, List.map_replicate, hone, leading_bytes,
    ofBigEndian_eq_value]

/-- Text decodes to bytes exactly if it is what is written for these bytes. -/
theorem decode_eq_ok_iff {text : String} {bytes : Bytes} :
    decode text = .ok bytes ↔ text = encode bytes := by
  -- The bytes of a numeral in base 58 are those of the same zeros and the same value.
  have hdecode (ds : List Nat) (hds : ∀ d ∈ ds, d < 58) (htext : text.toList = ds.map letter) :
      decode text = .ok ((padded 256 (leading ds) (value 58 ds)).map UInt8.ofNat) := by
    have hread : readDigits 0 text.toList = .ok (value 58 ds) :=
      readDigits_eq_ok_iff.2 ⟨ds, htext, hds, rfl⟩
    rw [decode, hread, Except.map, htext, length_takeWhile_letter hds, bytesReversed_eq_digits,
      padded, List.map_append, List.map_replicate, List.map_reverse]
    rfl
  constructor
  · intro h
    obtain ⟨ds, htext, hds⟩ : ∃ ds : List Nat, text.toList = ds.map letter ∧ ∀ d ∈ ds, d < 58 := by
      cases hread : readDigits 0 text.toList with
      | error e =>
        rw [decode, hread] at h
        cases h
      | ok n =>
        obtain ⟨ds, htext, hds, -⟩ := readDigits_eq_ok_iff.1 hread
        exact ⟨ds, htext, hds⟩
    rw [hdecode ds hds htext] at h
    cases h
    have hbytes : ∀ d ∈ padded 256 (leading ds) (value 58 ds), d < 256 := fun d hd =>
      lt_of_mem_padded (by decide) hd
    rw [encode_eq_padded, map_toNat_ofNat hbytes, leading_padded, value_padded,
      padded_leading_value (by decide) hds, ← htext, String.ofList_toList]
  · rintro rfl
    have hbytes : ∀ d ∈ bytes.map UInt8.toNat, d < 256 := Bytes.toNat_lt_of_mem bytes
    rw [hdecode _ (fun d hd => lt_of_mem_padded (by decide) hd)
      (by rw [encode_eq_padded, String.toList_ofList]), leading_padded, value_padded,
      padded_leading_value (by decide) hbytes, map_ofNat_toNat]

/-! ## The checksum -/

/-- A payload in base 58 with its checksum behind it. -/
def encodeCheck (hash : Bytes → Bytes) (payload : Bytes) : String :=
  encode (payload ++ checksum hash payload)

section

variable {hash : Bytes → Bytes} (hhash : ∀ message, (hash message).length = 32)

include hhash

theorem length_checksum (payload : Bytes) : (checksum hash payload).length = checksumLength := by
  rw [checksum, List.length_take, hhash, checksumLength]
  rfl

/-- Text has a payload exactly if it is what is written for this payload. -/
theorem decodeCheck_eq_ok_iff {text : String} {payload : Bytes} :
    decodeCheck hash text = .ok payload ↔ payload ≠ [] ∧ text = encodeCheck hash payload := by
  constructor
  · intro h
    rw [decodeCheck] at h
    cases hbytes : decode text with
    | error e =>
      rw [hbytes] at h
      cases h
    | ok bytes =>
      have htext := decode_eq_ok_iff.1 hbytes
      rw [hbytes] at h
      dsimp only [bind, Except.bind] at h
      split at h
      case isTrue => cases h
      case isFalse hlong =>
        split at h
        case isTrue => cases h
        case isFalse hsum =>
          cases h
          refine ⟨?_, ?_⟩
          · apply List.ne_nil_of_length_pos
            rw [List.length_take]
            rw [checksumLength] at hlong ⊢
            omega
          · rw [encodeCheck, not_not.1 hsum, List.take_append_drop]
            exact htext
  · rintro ⟨hpayload, rfl⟩
    have hbytes : decode (encodeCheck hash payload) = .ok (payload ++ checksum hash payload) :=
      decode_eq_ok_iff.2 rfl
    have hlength : (payload ++ checksum hash payload).length = payload.length + checksumLength := by
      rw [List.length_append, length_checksum hhash]
    have hlong : ¬payload.length + checksumLength < checksumLength + 1 := by
      have hpos := List.length_pos_of_ne_nil hpayload
      omega
    rw [decodeCheck, hbytes]
    dsimp only [bind, Except.bind]
    rw [hlength, if_neg hlong, Nat.add_sub_cancel, List.take_left, List.drop_left,
      if_neg (not_not.2 rfl)]
    rfl

end

end Runesmith.Base58
