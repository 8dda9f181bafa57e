import Runesmith.Address
import Runesmith.Proofs.Address.Encoding

/-!
# Witness addresses

Text with one of the three prefixes is an address exactly if it is a witness program as it has to be
written, in lower case or in upper case.

* `decodes_of_witnessProgram`, `witnessProgram_of_decodes`: the decoder's checks, put together;
* `witnessProgram_iff_spells`: they hold exactly for text that is written for a witness program;
* `ofText_iff_spells`: what becomes of every text with one of the prefixes.
-/

namespace Runesmith.Address

open Bech32

/-! ## Witness programs -/

/-- The versions that there are, with the programs that they may have. -/
structure IsWitnessProgram (version : Nat) (program : Bytes) : Prop where
  version_le : version ≤ 16
  two_le : 2 ≤ program.length
  le_forty : program.length ≤ 40
  length_zero : version = 0 → program.length = 20 ∨ program.length = 32

/-- What the decoder has to find in the values of the symbols. -/
structure Decodes (hrp : String) (values : List Nat) (version : Nat) (program : Bytes) : Prop where
  length_le : checksumLength ≤ values.length
  remainder : polymod (expand hrp ++ values) = target version
  data : ∃ groups, values.take (values.length - checksumLength) = version :: groups ∧
    regroup 5 8 false groups = some (program.map UInt8.toNat)
  isWitnessProgram : IsWitnessProgram version program

/-- A check lets a result pass exactly if it finds nothing wrong. -/
theorem check_eq_ok_iff {α β : Type} {c : Prop} [Decidable c] {e : Error} {f : β → Except Error α}
    {rest : Except Error α} {a : α} :
    (if c then throw e >>= f else rest) = .ok a ↔ ¬c ∧ rest = .ok a := by
  split
  case isTrue h => exact ⟨fun herror => (nomatch herror), fun hok => absurd h hok.1⟩
  case isFalse h => exact ⟨fun hok => ⟨h, hok⟩, fun hok => hok.2⟩

/-- A result has passed all the checks. -/
theorem decodes_of_witnessProgram {text : String} {hrp letters : List Char}
    (hsplit : splitLastOne (Text.lower text).toList = (hrp, letters)) {version : Nat}
    {program : Bytes} (h : witnessProgram text = .ok (version, program)) :
    Text.isMixedCase text = false ∧ ∃ symbols : List Symbol, letters = symbols.map letter ∧
      Decodes (String.ofList hrp) (symbols.map BitVec.toNat) version program := by
  unfold witnessProgram at h
  rw [hsplit, check_eq_ok_iff] at h
  dsimp only at h
  rw [check_eq_ok_iff] at h
  obtain ⟨hcase, hsix, h⟩ := h
  refine ⟨by simpa using hcase, ?_⟩
  split at h
  case h_2 => cases h
  case h_1 values hvalues =>
    obtain ⟨symbols, rfl, rfl⟩ := mapM_symbolValue?_eq_some_iff.1 hvalues
    rw [List.length_map] at hsix
    refine ⟨symbols, rfl, ?_⟩
    rw [check_eq_ok_iff] at h
    obtain ⟨-, h⟩ := h
    split at h
    case h_1 => cases h
    case h_2 v groups hdata =>
      split at h
      case h_2 => cases h
      case h_1 numbers hnumbers =>
        -- What is regrouped are symbols, so that the numbers are bytes.
        have hbytes : numbers = (numbers.map UInt8.ofNat).map UInt8.toNat := by
          rw [← List.map_take] at hdata
          obtain ⟨s, rest, -, -, rfl⟩ := List.map_eq_cons_iff.1 hdata
          exact exists_bytes_of_regroup hnumbers
        rw [check_eq_ok_iff, check_eq_ok_iff] at h
        obtain ⟨hsize, hversion, h⟩ := h
        by_cases hv : v = 0
        · rw [if_pos hv, check_eq_ok_iff, check_eq_ok_iff] at h
          obtain ⟨hremainder, hzero, h⟩ := h
          cases h
          refine ⟨by rw [List.length_map]; omega, ?_, ⟨groups, hdata, hbytes ▸ hnumbers⟩,
            by omega, ?_, ?_, ?_⟩
          · rw [target, if_pos hv]
            exact not_not.1 hremainder
          all_goals rw [List.length_map]; omega
        · rw [if_neg hv, check_eq_ok_iff] at h
          obtain ⟨hremainder, h⟩ := h
          cases h
          refine ⟨by rw [List.length_map]; omega, ?_, ⟨groups, hdata, hbytes ▸ hnumbers⟩,
            by omega, ?_, ?_, ?_⟩
          · rw [target, if_neg hv]
            exact not_not.1 hremainder
          all_goals rw [List.length_map]; omega

/-- What passes all the checks is the result. -/
theorem witnessProgram_of_decodes {text : String} {hrp letters : List Char}
    (hsplit : splitLastOne (Text.lower text).toList = (hrp, letters)) {symbols : List Symbol}
    (hletters : letters = symbols.map letter) (hcase : Text.isMixedCase text = false)
    {version : Nat} {program : Bytes}
    (h : Decodes (String.ofList hrp) (symbols.map BitVec.toNat) version program) :
    witnessProgram text = .ok (version, program) := by
  obtain ⟨hsix, hremainder, ⟨groups, hdata, hnumbers⟩, hversion, htwo, hforty, hzero⟩ := h
  have hvalues := mapM_symbolValue?_eq_some_iff.2 ⟨symbols, hletters, rfl⟩
  have hlength : checksumLength ≤ letters.length := by
    rwa [hletters, List.length_map, ← List.length_map BitVec.toNat]
  have hprogram : (program.map UInt8.toNat).map UInt8.ofNat = program := by
    rw [List.map_map]
    exact (List.map_congr_left fun b _ => UInt8.ofNat_toNat).trans (List.map_id program)
  rw [← List.length_map UInt8.toNat] at htwo hforty hzero
  unfold witnessProgram
  simp only [hsplit, hvalues, hdata, hnumbers]
  simp only [check_eq_ok_iff, hcase]
  by_cases hv : version = 0
  · have hconstant : polymod (expand (String.ofList hrp) ++ symbols.map BitVec.toNat) =
        constant := by
      rw [hremainder, target, if_pos hv]
      rfl
    have hsize := hzero hv
    rw [if_pos hv, check_eq_ok_iff, check_eq_ok_iff, hprogram]
    exact ⟨nofun, by omega, by omega, by omega, by omega, by omega, by omega, rfl⟩
  · have hconstant : polymod (expand (String.ofList hrp) ++ symbols.map BitVec.toNat) =
        constantM := by
      rw [hremainder, target, if_neg hv]
      rfl
    rw [if_neg hv, check_eq_ok_iff, hprogram]
    exact ⟨nofun, by omega, by omega, by omega, by omega, by omega, rfl⟩

/-- Symbols decode to a program exactly if they are those of its text. -/
theorem decodes_iff {hrp : String} (hascii : Text.IsAscii hrp) {symbols : List Symbol}
    {version : Nat} {program : Bytes} :
    Decodes hrp (symbols.map BitVec.toNat) version program ↔
      IsWitnessProgram version program ∧ symbols = textSymbols hrp version program := by
  have htarget : target version < 32 ^ 6 := by
    unfold target
    split <;> decide
  constructor
  · rintro ⟨hsix, hremainder, ⟨groups, hdata, hgroups⟩, hprogram⟩
    rw [List.length_map] at hsix hdata
    refine ⟨hprogram, ?_⟩
    obtain ⟨data, tail, rfl, htail⟩ : ∃ data tail, symbols = data ++ tail ∧ tail.length = 6 :=
      ⟨_, _, (List.take_append_drop (symbols.length - 6) symbols).symm, by
        rw [checksumLength] at hsix
        rw [List.length_drop]
        omega⟩
    have hlength : (data ++ tail).length - checksumLength = data.length := by
      rw [List.length_append, htail, checksumLength, Nat.add_sub_cancel]
    rw [hlength, ← List.map_take, List.take_left] at hdata
    obtain ⟨s, rest, rfl, hversion, rfl⟩ := List.map_eq_cons_iff.1 hdata
    have hrest := regroup_programSymbols_iff.1 hgroups
    have hs : s = .ofNat 5 version := by
      rw [← hversion, BitVec.ofNat_toNat, BitVec.setWidth_eq]
    have hmessage : residue ((prefixSymbols hrp ++ (s :: rest)) ++ tail) =
        .ofNat (target version) := by
      rw [Remainder.eq_ofNat_iff htarget, ← polymod_map_toNat, List.append_assoc, List.map_append,
        ← expand_of_ascii hascii, hremainder]
    rw [(residue_append_eq_iff htail).1 hmessage, hs, hrest]
    rfl
  · rintro ⟨hprogram, rfl⟩
    have hlength : (textSymbols hrp version program).length - checksumLength =
        (dataSymbols version program).length := by
      rw [textSymbols, List.length_append, length_checksum, checksumLength, Nat.add_sub_cancel]
    refine ⟨?_, ?_, ⟨(programSymbols program).map BitVec.toNat, ?_, ?_⟩, hprogram⟩
    · rw [List.length_map, textSymbols, List.length_append, length_checksum, checksumLength]
      omega
    · rw [expand_of_ascii hascii, ← List.map_append, polymod_map_toNat,
        ← Remainder.eq_ofNat_iff htarget, textSymbols, ← List.append_assoc,
        residue_append_eq_iff (length_checksum _ _)]
    · have hversion : (BitVec.ofNat 5 version).toNat = version := by
        have hle := hprogram.version_le
        rw [BitVec.toNat_ofNat]
        omega
      rw [List.length_map, ← List.map_take, hlength, textSymbols, List.take_left, dataSymbols,
        List.map_cons, hversion]
    · exact regroup_programSymbols_iff.2 rfl

/-! ## Text with a prefix -/

/-- The part of the text before its last `1` is the prefix, in whichever case. -/
def HasPrefix (hrp text : String) : Prop :=
  ∃ front back, text = front ++ "1" ++ back ∧ '1' ∉ back.toList ∧ front.toLower = hrp

theorem splitLastOne_append {front back : List Char} (h : '1' ∉ back) :
    splitLastOne (front ++ '1' :: back) = (front, back) := by
  have hback : (front ++ '1' :: back).reverse.takeWhile (· ≠ '1') = back.reverse := by
    have hall : ∀ c ∈ back.reverse, (c ≠ '1') = true := by
      intro c hc
      simp only [ne_eq, eq_iff_iff, iff_true]
      rintro rfl
      exact h (List.mem_reverse.1 hc)
    rw [List.reverse_append, List.reverse_cons, List.append_assoc,
      List.takeWhile_append_of_pos (by simpa using hall)]
    simp
  rw [splitLastOne, hback, List.reverse_reverse]
  have hlength : (front ++ '1' :: back).length - back.length - 1 = front.length := by
    rw [List.length_append, List.length_cons]
    omega
  rw [hlength, List.take_left]

/-- Only the digit itself is `1` in lower case. -/
theorem eq_one_of_toLower {c : Char} (hascii : c.toNat < 128) (h : c.toLower = '1') : c = '1' :=
  Text.forall_ascii (P := fun c => c.toLower = '1' → c = '1') (by decide) hascii h

/-- A prefix can be looked for in lower case. -/
theorem hasPrefix_iff {hrp text : String} (hascii : Text.IsAscii text) :
    HasPrefix hrp text ↔ ∃ back, text.toLower = hrp ++ "1" ++ back ∧ '1' ∉ back.toList := by
  constructor
  · rintro ⟨front, back, rfl, hback, rfl⟩
    refine ⟨back.toLower, ?_, ?_⟩
    · simp [← String.toList_inj, Text.toList_toLower]
    · intro hone
      rw [Text.toList_toLower] at hone
      obtain ⟨c, hc, hlower⟩ := List.mem_map.1 hone
      have hcascii : c.toNat < 128 := hascii c (by simp [hc])
      exact hback (eq_one_of_toLower hcascii hlower ▸ hc)
  · rintro ⟨back, hlower, hback⟩
    rw [← String.toList_inj, Text.toList_toLower, String.toList_append, String.toList_append,
      List.append_assoc] at hlower
    obtain ⟨front, rest, htext, hfront, hrest⟩ := List.map_eq_append_iff.1 hlower
    obtain ⟨c, tail, rfl, hc, htail⟩ := List.map_eq_cons_iff.1 hrest
    have hcascii : c.toNat < 128 := hascii c (by rw [htext]; simp)
    rw [eq_one_of_toLower hcascii hc] at htext
    refine ⟨String.ofList front, String.ofList tail, ?_, ?_, ?_⟩
    · simp [← String.toList_inj, htext]
    · rw [String.toList_ofList]
      intro hone
      have hin : '1' ∈ tail.map Char.toLower := List.mem_map.2 ⟨'1', hone, by decide⟩
      rw [htail] at hin
      exact hback hin
    · simp [← String.toList_inj, Text.toList_toLower, hfront]

/-- Text that is written for a program behind a prefix, in lower case or in upper case. -/
structure Spells (hrp : String) (version : Nat) (program : Bytes) (text : String) : Prop where
  isWitnessProgram : IsWitnessProgram version program
  isOneCase : Text.IsOneCase text
  toLower : text.toLower = encode hrp version program

theorem witnessProgram_iff_spells {hrp text : String} (hascii : Text.IsAscii text)
    (hbegins : HasPrefix hrp text) {version : Nat} {program : Bytes} :
    witnessProgram text = .ok (version, program) ↔ Spells hrp version program text := by
  obtain ⟨back, hlower, hback⟩ := (hasPrefix_iff hascii).1 hbegins
  have hlowerAscii : Text.IsAscii text.toLower := by
    intro c hc
    rw [Text.toList_toLower] at hc
    obtain ⟨d, hd, rfl⟩ := List.mem_map.1 hc
    exact Text.forall_ascii (P := fun c => c.toLower.toNat < 128) (by decide) (hascii d hd)
  have hhrp : Text.IsAscii hrp := by
    intro c hc
    exact hlowerAscii c (by rw [hlower]; simp [hc])
  have hsplit : splitLastOne (Text.lower text).toList = (hrp.toList, back.toList) := by
    rw [Text.lower_of_ascii hascii, hlower, String.toList_append, String.toList_append,
      List.append_assoc]
    exact splitLastOne_append hback
  have htext : text.toLower = encode hrp version program ↔
      back.toList = (textSymbols hrp version program).map letter := by
    rw [hlower, encode, ← String.toList_inj]
    simp
  constructor
  · intro h
    obtain ⟨hcase, symbols, hletters, hdecodes⟩ := decodes_of_witnessProgram hsplit h
    rw [String.ofList_toList] at hdecodes
    obtain ⟨hprogram, rfl⟩ := (decodes_iff hhrp).1 hdecodes
    exact ⟨hprogram, (Text.isMixedCase_of_ascii hascii).1 hcase, htext.2 hletters⟩
  · rintro ⟨hprogram, hcase, hencode⟩
    refine witnessProgram_of_decodes hsplit (htext.1 hencode)
      ((Text.isMixedCase_of_ascii hascii).2 hcase) ?_
    rw [String.ofList_toList]
    exact (decodes_iff hhrp).2 ⟨hprogram, rfl⟩

/-! ## Addresses -/

/-- The prefixes, with the networks whose addresses begin with them. -/
def witnessPrefixes : List (String × List Network) :=
  [("bc", [.mainnet]), ("tb", [.signet, .testnet]), ("bcrt", [.regtest])]

section

variable {hrp : String} {networks : List Network} (hmem : (hrp, networks) ∈ witnessPrefixes)

include hmem

theorem prefixNetworks?_of_mem : prefixNetworks? hrp = some networks := by
  have hall : ∀ entry ∈ witnessPrefixes, prefixNetworks? entry.1 = some entry.2 := by
    decide
  exact hall _ hmem

/-- A prefix is made of lowercase letters. -/
theorem prefix_facts {c : Char} (hc : c ∈ hrp.toList) :
    c.toNat < 128 ∧ Text.isBlank c = false ∧ c.toLower = c := by
  have hall : ∀ entry ∈ witnessPrefixes, (entry.1.toList.all fun c =>
      decide (c.toNat < 128 ∧ Text.isBlank c = false ∧ c.toLower = c)) = true := by
    decide
  exact of_decide_eq_true (List.all_eq_true.1 (hall _ hmem) c hc)

theorem isAscii_hrp : Text.IsAscii hrp :=
  fun _ hc => (prefix_facts hmem hc).1

theorem lower_hrp : Text.lower hrp = hrp := by
  rw [Text.lower_of_ascii (isAscii_hrp hmem)]
  exact Text.toLower_eq_self_iff.2 fun _ hc => (prefix_facts hmem hc).2.2

/-- Blanks around a text have no part in its prefix. -/
theorem HasPrefix.trim {text : String} (hascii : Text.IsAscii text) (h : HasPrefix hrp text) :
    HasPrefix hrp (Text.trim text) := by
  obtain ⟨front, back, rfl, hback, hfront⟩ := h
  have hkept : ∀ d ∈ front.toList.head?, Text.isBlank d = false := by
    intro d hd
    have hin : d ∈ front.toList := List.mem_of_mem_head? hd
    have hlower : d.toLower ∈ hrp.toList := by
      rw [← hfront, Text.toList_toLower]
      exact List.mem_map_of_mem hin
    exact Text.forall_ascii (P := fun c => Text.isBlank c.toLower = false → Text.isBlank c = false)
      (by decide) (hascii d (by simp [hin])) (prefix_facts hmem hlower).2.1
  have htrim : Text.trimBy Text.isBlank (front.toList ++ '1' :: back.toList) =
      front.toList ++ '1' :: (back.toList.reverse.dropWhile Text.isBlank).reverse :=
    Text.trimBy_append_cons hkept (by decide)
  refine ⟨front, String.ofList (back.toList.reverse.dropWhile Text.isBlank).reverse, ?_, ?_, hfront⟩
  · rw [← String.toList_inj, Text.trim, String.toList_ofList]
    simpa using htrim
  · rw [String.toList_ofList, List.mem_reverse]
    intro hone
    exact hback (List.mem_reverse.1 ((List.dropWhile_suffix _).mem hone))

/-- Text is read as a witness address if a prefix stands in front of its last `1`, in whichever
case. -/
theorem ofText_of_split {text front back : String} (htext : Text.trim text = front ++ "1" ++ back)
    (hback : '1' ∉ back.toList) (hfront : Text.lower front = hrp) :
    ofText text = (witnessProgram (Text.trim text)).map fun found =>
      ⟨Text.trim text, Script.witness found.1 found.2, networks⟩ := by
  have hsplit : (splitLastOne (Text.trim text).toList).1 = front.toList := by
    rw [htext, String.toList_append, String.toList_append, List.append_assoc]
    exact congrArg Prod.fst (splitLastOne_append hback)
  delta ofText ofTextWith
  simp only [hsplit, String.ofList_toList, hfront, prefixNetworks?_of_mem hmem]
  cases witnessProgram (Text.trim text) with
  | error e => rfl
  | ok found => rfl

theorem ofText_of_hasPrefix {text : String} (hascii : Text.IsAscii text)
    (h : HasPrefix hrp (Text.trim text)) :
    ofText text = (witnessProgram (Text.trim text)).map fun found =>
      ⟨Text.trim text, Script.witness found.1 found.2, networks⟩ := by
  obtain ⟨front, back, htext, hback, hfront⟩ := h
  have hfrontAscii : Text.IsAscii front := by
    intro c hc
    exact hascii.trim c (by rw [htext]; simp [hc])
  exact ofText_of_split hmem htext hback ((Text.lower_of_ascii hfrontAscii).trans hfront)

/-- Letters behind a prefix and the `1` are lowercase text without blanks. -/
theorem text_facts {symbols : List Symbol} {c : Char}
    (hc : c ∈ (hrp ++ "1" ++ String.ofList (symbols.map letter)).toList) :
    c.toNat < 128 ∧ Text.isBlank c = false ∧ c.toLower = c := by
  rw [String.toList_append, String.toList_append] at hc
  rcases List.mem_append.1 hc with hc | hc
  · rcases List.mem_append.1 hc with hc | hc
    · exact prefix_facts hmem hc
    · rw [List.mem_singleton.1 hc]
      decide
  · rw [String.toList_ofList] at hc
    obtain ⟨s, -, rfl⟩ := List.mem_map.1 hc
    exact (letter_facts s).2

theorem encode_facts {version : Nat} {program : Bytes} {c : Char}
    (hc : c ∈ (encode hrp version program).toList) :
    c.toNat < 128 ∧ Text.isBlank c = false ∧ c.toLower = c :=
  text_facts hmem hc

/-- Text that is written for a program is read as its address. -/
theorem ofText_of_spells {text : String} (hascii : Text.IsAscii text)
    (hblank : ∀ c ∈ text.toList, Text.isBlank c = false) {version : Nat} {program : Bytes}
    (hspells : Spells hrp version program text) :
    ofText text = .ok ⟨text, Script.witness version program, networks⟩ := by
  have hback : '1' ∉ (String.ofList ((textSymbols hrp version program).map letter)).toList := by
    rw [String.toList_ofList]
    intro hone
    obtain ⟨s, -, hs⟩ := List.mem_map.1 hone
    exact (letter_facts s).1 hs
  have hbegins : HasPrefix hrp text := (hasPrefix_iff hascii).2 ⟨_, hspells.toLower, hback⟩
  have htrim : Text.trim text = text := Text.trim_of_no_blank hblank
  rw [ofText_of_hasPrefix hmem hascii (by rwa [htrim]), htrim,
    (witnessProgram_iff_spells hascii hbegins).2 hspells]
  rfl

theorem ofText_encode {version : Nat} {program : Bytes}
    (hprogram : IsWitnessProgram version program) :
    ofText (encode hrp version program) =
      .ok ⟨encode hrp version program, Script.witness version program, networks⟩ := by
  have hlower : (encode hrp version program).toLower = encode hrp version program :=
    Text.toLower_eq_self_iff.2 fun _ hc => (encode_facts hmem hc).2.2
  exact ofText_of_spells hmem (fun _ hc => (encode_facts hmem hc).1)
    (fun _ hc => (encode_facts hmem hc).2.1) ⟨hprogram, .inl hlower, hlower⟩

theorem ofText_toUpper_encode {version : Nat} {program : Bytes}
    (hprogram : IsWitnessProgram version program) :
    ofText (encode hrp version program).toUpper =
      .ok ⟨(encode hrp version program).toUpper, Script.witness version program, networks⟩ := by
  have hupper {c : Char} (hc : c ∈ (encode hrp version program).toList) :
      c.toUpper.toNat < 128 ∧ Text.isBlank c.toUpper = false ∧ c.toUpper.toUpper = c.toUpper ∧
        c.toUpper.toLower = c := by
    obtain ⟨hcascii, hblank, hlower⟩ := encode_facts hmem hc
    exact Text.forall_ascii (P := fun c => Text.isBlank c = false → c.toLower = c →
      c.toUpper.toNat < 128 ∧ Text.isBlank c.toUpper = false ∧ c.toUpper.toUpper = c.toUpper ∧
        c.toUpper.toLower = c) (by decide) hcascii hblank hlower
  have hforall {P : Char → Prop} (h : ∀ c ∈ (encode hrp version program).toList, P c.toUpper) :
      ∀ c ∈ (encode hrp version program).toUpper.toList, P c := by
    intro c hc
    rw [Text.toList_toUpper] at hc
    obtain ⟨d, hd, rfl⟩ := List.mem_map.1 hc
    exact h d hd
  have hlower : (encode hrp version program).toUpper.toLower = encode hrp version program := by
    rw [← String.toList_inj, Text.toList_toLower, Text.toList_toUpper, List.map_map,
      Text.map_eq_self_iff]
    exact fun c hc => (hupper hc).2.2.2
  exact ofText_of_spells hmem (hforall fun c hc => (hupper hc).1)
    (hforall fun c hc => (hupper hc).2.1)
    ⟨hprogram, .inr (Text.toUpper_eq_self_iff.2 (hforall fun c hc => (hupper hc).2.2.1)), hlower⟩

end

/-- Witness addresses are read exactly as they are written. The text of a program gives its script
and the networks of its prefix, in lower case and in upper case. All ASCII text with the prefix,
whether or not blanks are around it, either is such a text, or gives an error. -/
theorem ofText_iff_spells {hrp : String} {networks : List Network}
    (hmem : (hrp, networks) ∈ witnessPrefixes) :
    (∀ version program, IsWitnessProgram version program →
      ofText (encode hrp version program) =
        .ok ⟨encode hrp version program, Script.witness version program, networks⟩ ∧
      ofText (encode hrp version program).toUpper =
        .ok ⟨(encode hrp version program).toUpper, Script.witness version program, networks⟩) ∧
    ∀ text, Text.IsAscii text → HasPrefix hrp text ∨ HasPrefix hrp (Text.trim text) →
      (∃ version program, Spells hrp version program (Text.trim text) ∧
        ofText text = .ok ⟨Text.trim text, Script.witness version program, networks⟩) ∨
      (¬∃ version program, Spells hrp version program (Text.trim text)) ∧
        ∃ e, ofText text = .error e := by
  refine ⟨fun version program h => ⟨ofText_encode hmem h, ofText_toUpper_encode hmem h⟩, ?_⟩
  intro text hascii hbegins
  have hbegins : HasPrefix hrp (Text.trim text) := hbegins.elim (·.trim hmem hascii) id
  have hfound {version : Nat} {program : Bytes} :
      witnessProgram (Text.trim text) = .ok (version, program) ↔
        Spells hrp version program (Text.trim text) :=
    witnessProgram_iff_spells hascii.trim hbegins
  rw [ofText_of_hasPrefix hmem hascii hbegins]
  cases hresult : witnessProgram (Text.trim text) with
  | ok found => exact .inl ⟨found.1, found.2, hfound.1 hresult, rfl⟩
  | error e =>
    refine .inr ⟨?_, e, rfl⟩
    rintro ⟨version, program, hspells⟩
    rw [hfound.2 hspells] at hresult
    cases hresult

/-- The hash of the public key that belongs to the private key one. -/
def keyOneHash : Bytes :=
  [0x75, 0x1E, 0x76, 0xE8, 0x19, 0x91, 0x96, 0xD4, 0x54, 0x94, 0x1C, 0x45, 0xD1, 0xB3, 0xA3, 0x23,
   0xF1, 0x43, 0x3B, 0xD6]

/-- The address of the key, but for its last letter. -/
def mistyped : String :=
  "bc1qw508d6qejxtdg4y5r3zarvary0c5xw7kv8f3t5"

/-- The address of the key is read in upper case, and no program is written as it is mistyped. -/
theorem ofText_keyOne :
    ("bc", [.mainnet]) ∈ witnessPrefixes ∧ IsWitnessProgram 0 keyOneHash ∧
      ofText "BC1QW508D6QEJXTDG4Y5R3ZARVARY0C5XW7KV8F3T4" =
        .ok ⟨"BC1QW508D6QEJXTDG4Y5R3ZARVARY0C5XW7KV8F3T4", Script.witness 0 keyOneHash,
          [.mainnet]⟩ ∧
      (¬∃ version program, Spells "bc" version program (Text.trim mistyped)) ∧
        ∃ e, ofText mistyped = .error e := by
  have hmem : ("bc", [.mainnet]) ∈ witnessPrefixes := by decide
  have hprogram : IsWitnessProgram 0 keyOneHash :=
    ⟨by decide, by decide, by decide, fun _ => .inl (by decide)⟩
  have hwritten : (encode "bc" 0 keyOneHash).toUpper =
      "BC1QW508D6QEJXTDG4Y5R3ZARVARY0C5XW7KV8F3T4" := by
    decide +kernel
  have hread := ((ofText_iff_spells hmem).1 0 keyOneHash hprogram).2
  rw [hwritten] at hread
  refine ⟨hmem, hprogram, hread, ?_⟩
  have hascii : (mistyped.toList.all fun c => c.toNat < 128) = true := by decide +kernel
  have hbegins : HasPrefix "bc" mistyped :=
    ⟨"bc", "qw508d6qejxtdg4y5r3zarvary0c5xw7kv8f3t5", by decide +kernel, by decide +kernel,
      by decide +kernel⟩
  have hrejected : (ofText mistyped).isOk = false := by decide +kernel
  rcases (ofText_iff_spells hmem).2 mistyped
    (fun c hc => of_decide_eq_true (List.all_eq_true.1 hascii c hc)) (.inl hbegins) with h | h
  · obtain ⟨version, program, -, hok⟩ := h
    rw [hok] at hrejected
    cases hrejected
  · exact h

end Runesmith.Address
