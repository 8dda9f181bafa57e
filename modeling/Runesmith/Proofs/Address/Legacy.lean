import Runesmith.Proofs.Address.Base58
import Runesmith.Proofs.Address.Witness

/-!
# Older addresses

An older address is a version byte and a hash of 20 bytes in Base58Check. The first letter of its
text is settled by the version byte: the number that the bytes denote lies in a range whose numerals
in base 58 all have the same length and one of a few first digits. None of these letters begins a
prefix of a witness address, so that an older address is never read as one.

* `exists_first_digit`: the first digit of a number in a range.
* `encodeCheck_first_letter`: the first letter of an older address.
* `decodeCheck_iff_and_ofTextWith_encodeCheck`: decoding is the inverse of encoding, and what older
  addresses are read as.
-/

namespace Runesmith

namespace Sha256

/-! ## The hash of the checksum -/

theorem length_digest (message : Bytes) : (digest message).length = 32 := by
  simp [digest, State.toBytes, Bytes.bigEndian]

/-- A short message is hashed as a single block. -/
theorem digest_of_short {message : Bytes} (h : message.length < 56) :
    digest message = (compress .start (padded message)).toBytes := by
  have hlength : (padded message).length = 64 := by
    simp only [padded, Bytes.bigEndian, List.length_append, List.length_cons, List.length_replicate,
      List.length_reverse, Bytes.length_littleEndian]
    omega
  have hne : padded message ≠ [] := by
    intro hnil
    simp [hnil] at hlength
  rw [digest, Bytes.chunks_of_length_le hne (by omega)]
  rfl

end Sha256

namespace Base58

/-! ## First digits -/

/-- The first digit of a number lies where the number lies among the multiples of a power. -/
theorem exists_first_digit {base lo hi power n : Nat} (hlo : 0 < lo) (hhi : hi ≤ base)
    (hle : lo * base ^ power ≤ n) (hlt : n < hi * base ^ power) :
    ∃ d rest, (base.digits n).reverse = d :: rest ∧ lo ≤ d ∧ d < hi := by
  have hbase : 0 < base := by
    rcases Nat.eq_zero_or_pos hi with rfl | hpos
    · simp at hlt
    · omega
  induction power generalizing n with
  | zero =>
    rw [Nat.pow_zero, Nat.mul_one] at hle hlt
    refine ⟨n, [], ?_, hle, hlt⟩
    rw [Nat.digits_of_lt base n (by omega) (by omega), List.reverse_singleton]
  | succ power ih =>
    rw [Nat.pow_succ, ← Nat.mul_assoc] at hle hlt
    obtain ⟨d, rest, hdigits, hd⟩ := ih ((Nat.le_div_iff_mul_le hbase).2 hle)
      ((Nat.div_lt_iff_lt_mul hbase).2 hlt)
    have hpos : 0 < n := Nat.lt_of_lt_of_le (by positivity) hle
    have hone : 1 < base := by
      have hsmall : lo < hi := by
        rw [Nat.mul_assoc] at hle hlt
        exact Nat.lt_of_mul_lt_mul_right (Nat.lt_of_le_of_lt hle hlt)
      omega
    refine ⟨d, rest ++ [n % base], ?_, hd⟩
    rw [Nat.digits_def' hone hpos, List.reverse_cons, hdigits, List.cons_append]

/-- The number of some bytes lies between the multiples for its first byte. -/
theorem ofBigEndian_cons_bounds (b : UInt8) (rest : Bytes) :
    b.toNat * 256 ^ rest.length ≤ Bytes.ofBigEndian (b :: rest) ∧
      Bytes.ofBigEndian (b :: rest) < (b.toNat + 1) * 256 ^ rest.length := by
  have hrest : Nat.ofDigits 256 (rest.map UInt8.toNat).reverse < 256 ^ rest.length := by
    have hlt := Nat.ofDigits_lt_base_pow_length (b := 256) (l := (rest.map UInt8.toNat).reverse)
      (by decide) fun d hd => Bytes.toNat_lt_of_mem rest d (List.mem_reverse.1 hd)
    rwa [List.length_reverse, List.length_map] at hlt
  have hvalue : Bytes.ofBigEndian (b :: rest) =
      Nat.ofDigits 256 (rest.map UInt8.toNat).reverse + 256 ^ rest.length * b.toNat := by
    rw [ofBigEndian_eq_value, List.map_cons, value_eq_ofDigits, Nat.ofDigits_reverse_cons,
      List.length_map]
  rw [hvalue, Nat.add_mul, Nat.one_mul, Nat.mul_comm b.toNat]
  omega

/-- The first letter of bytes that begin with another byte than zero. -/
theorem encode_first_letter {b : UInt8} {rest : Bytes} (lo hi power : Nat) (hb : b ≠ 0)
    (hlo : 0 < lo) (hhi : hi ≤ 58) (hle : lo * 58 ^ power ≤ b.toNat * 256 ^ rest.length)
    (hlt : (b.toNat + 1) * 256 ^ rest.length ≤ hi * 58 ^ power) :
    ∃ d cs, (encode (b :: rest)).toList = letter d :: cs ∧ lo ≤ d ∧ d < hi := by
  obtain ⟨hlower, hupper⟩ := ofBigEndian_cons_bounds b rest
  obtain ⟨d, ds, hdigits, hd⟩ := exists_first_digit hlo hhi (hle.trans hlower)
    (hupper.trans_le hlt)
  refine ⟨d, ds.map letter, ?_, hd⟩
  rw [encode, hdigits, String.toList_ofList, List.takeWhile_cons_of_neg (by simpa using hb)]
  rfl

theorem encode_zero_cons (rest : Bytes) :
    ∃ cs, (encode (0 :: rest)).toList = '1' :: cs := by
  rw [encode, String.toList_ofList, List.takeWhile_cons_of_pos (by decide), List.length_cons,
    List.replicate_succ, List.cons_append]
  exact ⟨_, rfl⟩

/-- What is written in base 58 has no blanks. -/
theorem encode_no_blank (bytes : Bytes) : ∀ c ∈ (encode bytes).toList, Text.isBlank c = false := by
  intro c hc
  rw [encode_eq_padded, String.toList_ofList] at hc
  obtain ⟨d, hd, rfl⟩ := List.mem_map.1 hc
  have hall : ∀ d < 58, Text.isBlank (letter d) = false := by decide
  exact hall d (lt_of_mem_padded (by decide) hd)

end Base58

namespace Address

open Base58

/-! ## Version bytes -/

/-- The version bytes of older addresses, what a hash is paid by, and the networks. -/
def legacyVersions : List (UInt8 × (Bytes → Bytes) × List Network) :=
  [(0x00, Script.payToPubkeyHash, [.mainnet]), (0x6F, Script.payToPubkeyHash, testNetworks),
    (0x05, Script.payToScriptHash, [.mainnet]), (0xC4, Script.payToScriptHash, testNetworks)]

theorem mem_legacyVersions {version : UInt8} {script : Bytes → Bytes} {networks : List Network}
    (h : (version, script, networks) ∈ legacyVersions) :
    (version = 0x00 ∧ script = Script.payToPubkeyHash ∧ networks = [.mainnet]) ∨
      (version = 0x6F ∧ script = Script.payToPubkeyHash ∧ networks = testNetworks) ∨
      (version = 0x05 ∧ script = Script.payToScriptHash ∧ networks = [.mainnet]) ∨
      (version = 0xC4 ∧ script = Script.payToScriptHash ∧ networks = testNetworks) := by
  simpa [legacyVersions] using h

/-- The letters that older addresses begin with. -/
def legacyLetters : List Char :=
  ['1', 'm', 'n', '3', '2']

section

variable {hash : Bytes → Bytes} (hhash : ∀ message, (hash message).length = 32)
  {version : UInt8} {script : Bytes → Bytes} {networks : List Network}
  (hversion : (version, script, networks) ∈ legacyVersions)
  {keyHash : Bytes} (hlength : keyHash.length = 20)

include hhash hversion hlength

theorem encodeCheck_first_letter :
    ∃ c cs, (encodeCheck hash (version :: keyHash)).toList = c :: cs ∧ c ∈ legacyLetters := by
  have htail : (keyHash ++ checksum hash (version :: keyHash)).length = 24 := by
    rw [List.length_append, hlength, length_checksum hhash, checksumLength]
  rw [encodeCheck, List.cons_append]
  rcases mem_legacyVersions hversion with ⟨rfl, -⟩ | ⟨rfl, -⟩ | ⟨rfl, -⟩ | ⟨rfl, -⟩
  · obtain ⟨cs, hcs⟩ := encode_zero_cons (keyHash ++ checksum hash (0 :: keyHash))
    exact ⟨'1', cs, hcs, by decide⟩
  · obtain ⟨d, cs, hcs, hd⟩ := encode_first_letter (b := 0x6F) 44 46 33
      (by decide) (by decide) (by decide) (by rw [htail]; decide) (by rw [htail]; decide)
    have hall : ∀ d < 46, 44 ≤ d → letter d ∈ legacyLetters := by decide
    exact ⟨letter d, cs, hcs, hall d hd.2 hd.1⟩
  · obtain ⟨d, cs, hcs, hd⟩ := encode_first_letter (b := 0x05) 2 3 33
      (by decide) (by decide) (by decide) (by rw [htail]; decide) (by rw [htail]; decide)
    have hall : ∀ d < 3, 2 ≤ d → letter d ∈ legacyLetters := by decide
    exact ⟨letter d, cs, hcs, hall d hd.2 hd.1⟩
  · obtain ⟨d, cs, hcs, hd⟩ := encode_first_letter (b := 0xC4) 1 2 34
      (by decide) (by decide) (by decide) (by rw [htail]; decide) (by rw [htail]; decide)
    have hall : ∀ d < 2, 1 ≤ d → letter d ∈ legacyLetters := by decide
    exact ⟨letter d, cs, hcs, hall d hd.2 hd.1⟩

end

/-! ## Prefixes of witness addresses -/

/-- A prefix begins with one of two letters. -/
theorem prefixNetworks?_eq_none {hrp : String} (h : ∀ c ∈ hrp.toList.head?, c ≠ 'b' ∧ c ≠ 't') :
    prefixNetworks? hrp = none := by
  unfold prefixNetworks?
  split
  · exact absurd rfl (h 'b' (by decide)).1
  · exact absurd rfl (h 't' (by decide)).2
  · exact absurd rfl (h 'b' (by decide)).1
  · rfl

/-- Text that begins as an older address has no prefix of a witness address. -/
theorem prefixNetworks?_splitLastOne {c : Char} (hc : c ∈ legacyLetters) (cs : List Char) :
    prefixNetworks? (Text.lower (String.ofList (splitLastOne (c :: cs)).1)) = none := by
  have hlower : ∀ c ∈ legacyLetters, c.toNat < 128 ∧ c.toLower = c ∧ c ≠ 'b' ∧ c ≠ 't' := by
    simp [legacyLetters]
  apply prefixNetworks?_eq_none
  rw [Text.lower, String.toList_ofList, String.toList_ofList, splitLastOne]
  generalize (c :: cs).length - _ - 1 = size
  cases size with
  | zero =>
    intro d hd
    cases hd
  | succ size =>
    obtain ⟨hascii, hsame, hnone⟩ := hlower c hc
    have hkept : Text.lowerChar c = [c] := by rw [Text.lowerChar_of_ascii hascii, hsame]
    rw [List.take_succ_cons, Text.lowerFrom, decide_eq_false (Text.ne_sigma_of_kept hkept),
      Bool.false_and, if_neg Bool.false_ne_true, hkept]
    intro d hd
    cases hd
    exact hnone

/-! ## Addresses -/

/-- What becomes of a payload of an older address. -/
theorem ofBase58_of_payload {hash : Bytes → Bytes} {text : String} {version : UInt8}
    {script : Bytes → Bytes} {networks : List Network}
    (hversion : (version, script, networks) ∈ legacyVersions) {keyHash : Bytes}
    (hlength : keyHash.length = 20) (h : decodeCheck hash text = .ok (version :: keyHash)) :
    ofBase58 hash text = .ok ⟨text, script keyHash, networks⟩ := by
  have hsize : ¬keyHash.length ≠ 20 := not_not.2 hlength
  rw [ofBase58, h]
  dsimp only [bind, Except.bind, Except.mapError]
  rcases mem_legacyVersions hversion with ⟨rfl, rfl, rfl⟩ | ⟨rfl, rfl, rfl⟩ | ⟨rfl, rfl, rfl⟩ |
    ⟨rfl, rfl, rfl⟩
  all_goals
    rw [if_neg hsize]
    rfl

/-- Decoding in Base58Check is the inverse of encoding, whichever hash the checksum is made with:
it gives a payload exactly for the text of that payload, and an error for all other text. What is
written for a version byte of an older address and a hash of 20 bytes never counts as a witness
address and is read as the script of that hash, on the networks of that version. -/
theorem decodeCheck_iff_and_ofTextWith_encodeCheck {hash : Bytes → Bytes}
    (hhash : ∀ message, (hash message).length = 32) :
    (∀ text payload, decodeCheck hash text = .ok payload ↔
      payload ≠ [] ∧ text = encodeCheck hash payload) ∧
    (∀ text, (¬∃ payload, payload ≠ [] ∧ text = encodeCheck hash payload) →
      ∃ e, decodeCheck hash text = .error e) ∧
    ∀ version script networks, (version, script, networks) ∈ legacyVersions →
      ∀ keyHash : Bytes, keyHash.length = 20 →
        let text := encodeCheck hash (version :: keyHash)
        prefixNetworks? (Text.lower (String.ofList (splitLastOne (Text.trim text).toList).1)) =
          none ∧
        ofTextWith hash text = .ok ⟨text, script keyHash, networks⟩ := by
  refine ⟨fun text payload => decodeCheck_eq_ok_iff hhash, ?_, ?_⟩
  · intro text hnone
    cases hdecode : decodeCheck hash text with
    | error e => exact ⟨e, rfl⟩
    | ok payload => exact absurd ⟨payload, (decodeCheck_eq_ok_iff hhash).1 hdecode⟩ hnone
  · intro version script networks hversion keyHash hlength text
    have htrim : Text.trim text = text := Text.trim_of_no_blank (encode_no_blank _)
    have hprefix :
        prefixNetworks? (Text.lower (String.ofList (splitLastOne text.toList).1)) = none := by
      obtain ⟨c, cs, htext, hc⟩ := encodeCheck_first_letter hhash hversion hlength
      rw [htext]
      exact prefixNetworks?_splitLastOne hc cs
    have hdecode : decodeCheck hash text = .ok (version :: keyHash) :=
      (decodeCheck_eq_ok_iff hhash).2 ⟨List.cons_ne_nil version keyHash, rfl⟩
    delta ofTextWith
    simp only [htrim, hprefix]
    exact ⟨trivial, ofBase58_of_payload hversion hlength hdecode⟩

/-- The address that pays to the hash of the key one. -/
theorem ofText_keyOne_pubkeyHash :
    (∀ message, (Sha256.doubleDigest message).length = 32) ∧
      ofText "1BgGZ9tcN4rm9KBzDn7KprQz87SZ26SAMH" =
        .ok ⟨"1BgGZ9tcN4rm9KBzDn7KprQz87SZ26SAMH", Script.payToPubkeyHash keyOneHash,
          [.mainnet]⟩ := by
  have hhash (message : Bytes) : (Sha256.doubleDigest message).length = 32 :=
    Sha256.length_digest _
  have hwritten : encodeCheck Sha256.doubleDigest (0x00 :: keyOneHash) =
      "1BgGZ9tcN4rm9KBzDn7KprQz87SZ26SAMH" := by
    have hfirst : (0x00 :: keyOneHash).length < 56 := by decide
    have hsecond : (Sha256.digest (0x00 :: keyOneHash)).length < 56 := by
      rw [Sha256.length_digest]
      decide
    rw [encodeCheck, checksum, Sha256.doubleDigest, Sha256.digest_of_short hsecond,
      Sha256.digest_of_short hfirst]
    decide +kernel
  have hread := ((decodeCheck_iff_and_ofTextWith_encodeCheck hhash).2.2 0x00
    Script.payToPubkeyHash [.mainnet] (by simp [legacyVersions]) keyOneHash (by decide)).2
  rw [hwritten] at hread
  exact ⟨hhash, hread⟩

end Address

end Runesmith
