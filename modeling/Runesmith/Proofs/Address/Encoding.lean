import Runesmith.Proofs.Address.Checksum
import Runesmith.Proofs.Address.Regroup
import Runesmith.Proofs.Bytes
import Runesmith.Proofs.Text

/-!
# How a witness program is written

The text of a witness program by its definition: the prefix, the letter `1`, a symbol for the
version, the bits of the program in groups of five, and the checksum. The definitions here use
nothing of the decoder, and each part of the text is shown to be what the decoder takes apart:

* `mapM_symbolValue?_eq_some_iff`: the letters that the decoder knows are those of the symbols.
* `expand_of_ascii`: the prefix enters the checksum in the same way.
* `regroup_programSymbols_iff`: the decoder finds a program exactly in the symbols of that program.
-/

namespace Runesmith.Bech32

/-! ## Letters -/

/-- The letters of the 32 symbols. -/
def letters : List Char :=
  ['q', 'p', 'z', 'r', 'y', '9', 'x', '8', 'g', 'f', '2', 't', 'v', 'd', 'w', '0',
   's', '3', 'j', 'n', '5', '4', 'k', 'h', 'c', 'e', '6', 'm', 'u', 'a', '7', 'l']

def letter (s : Symbol) : Char :=
  letters.getD s.toNat 'q'

theorem symbolValue?_letter (s : Symbol) : symbolValue? (letter s) = some s.toNat := by
  have hall : ∀ s : Symbol, symbolValue? (letter s) = some s.toNat := by decide
  exact hall s

theorem exists_letter {c : Char} {n : Nat} (h : symbolValue? c = some n) :
    ∃ s : Symbol, c = letter s ∧ n = s.toNat := by
  obtain ⟨hn, hc, -⟩ := List.idxOf?_eq_some_iff.1 h
  have hlength : alphabet.length = 32 := by decide
  have hall : ∀ i : Fin alphabet.length, alphabet.get i = letter (.ofNat 5 i) := by
    decide
  refine ⟨BitVec.ofNat 5 n, ?_, ?_⟩
  · rw [← hc]
    exact hall ⟨n, hn⟩
  · rw [BitVec.toNat_ofNat]
    omega

/-- A text has values exactly if it is made of the letters of symbols. -/
theorem mapM_symbolValue?_eq_some_iff {cs : List Char} {values : List Nat} :
    cs.mapM symbolValue? = some values ↔
      ∃ symbols : List Symbol, cs = symbols.map letter ∧ values = symbols.map BitVec.toNat := by
  induction cs generalizing values with
  | nil =>
    constructor
    · intro h
      cases h
      exact ⟨[], rfl, rfl⟩
    · rintro ⟨symbols, hcs, rfl⟩
      rw [List.map_eq_nil_iff.1 hcs.symm]
      rfl
  | cons c rest ih =>
    rw [List.mapM_cons]
    constructor
    · intro h
      obtain ⟨value, hvalue, h⟩ := Option.bind_eq_some_iff.1 h
      obtain ⟨more, hmore, h⟩ := Option.bind_eq_some_iff.1 h
      cases h
      obtain ⟨s, rfl, rfl⟩ := exists_letter hvalue
      obtain ⟨symbols, rfl, rfl⟩ := ih.1 hmore
      exact ⟨s :: symbols, rfl, rfl⟩
    · rintro ⟨symbols, hcs, rfl⟩
      obtain ⟨s, symbols, rfl, rfl, rfl⟩ := List.map_eq_cons_iff.1 hcs.symm
      rw [symbolValue?_letter, ih.2 ⟨symbols, rfl, rfl⟩]
      rfl

/-- A letter of a symbol is not the one that ends the prefix, no blank and not in upper case. -/
theorem letter_facts (s : Symbol) :
    letter s ≠ '1' ∧ (letter s).toNat < 128 ∧ Text.isBlank (letter s) = false ∧
      (letter s).toLower = letter s := by
  have hall : ∀ s : Symbol, letter s ≠ '1' ∧ (letter s).toNat < 128 ∧
      Text.isBlank (letter s) = false ∧ (letter s).toLower = letter s := by
    decide
  exact hall s

/-! ## The prefix -/

/-- The prefix as symbols: the high bits of its characters, zero, the low bits. -/
def prefixSymbols (hrp : String) : List Symbol :=
  hrp.toList.map (fun c => .ofNat 5 (c.toNat >>> 5)) ++
    0 :: hrp.toList.map (fun c => .ofNat 5 c.toNat)

theorem expand_of_ascii {hrp : String} (h : Text.IsAscii hrp) :
    expand hrp = (prefixSymbols hrp).map BitVec.toNat := by
  have hhigh : hrp.toList.map (·.toNat / 32) =
      (hrp.toList.map (fun c => BitVec.ofNat 5 (c.toNat >>> 5))).map BitVec.toNat := by
    rw [List.map_map]
    refine List.map_congr_left fun c hc => ?_
    have hc := h c hc
    simp only [Function.comp_apply, BitVec.toNat_ofNat, Nat.shiftRight_eq_div_pow]
    omega
  have hlow : hrp.toList.map (·.toNat % 32) =
      (hrp.toList.map (fun c => BitVec.ofNat 5 c.toNat)).map BitVec.toNat := by
    rw [List.map_map]
    exact List.map_congr_left fun c _ => (BitVec.toNat_ofNat c.toNat 5).symm
  rw [expand, prefixSymbols, hhigh, hlow, List.map_append, List.map_cons]
  rfl

/-! ## The program -/

/-- The symbol of five bits, highest first. -/
def symbolOfBits (a b c d e : Bool) : Symbol :=
  .ofBoolListBE [a, b, c, d, e]

/-- Bits in groups of five. Zeros fill up a last group. -/
def groupBits : List Bool → List Symbol
  | a :: b :: c :: d :: e :: rest => symbolOfBits a b c d e :: groupBits rest
  | [a, b, c, d] => [symbolOfBits a b c d false]
  | [a, b, c] => [symbolOfBits a b c false false]
  | [a, b] => [symbolOfBits a b false false false]
  | [a] => [symbolOfBits a false false false false]
  | [] => []

/-- The symbols of a program: its bits in groups of five. -/
def programSymbols (program : Bytes) : List Symbol :=
  groupBits (bitString 8 (program.map UInt8.toNat))

theorem bits_symbolOfBits (a b c d e : Bool) :
    bits 5 (symbolOfBits a b c d e).toNat = [a, b, c, d, e] := by
  revert a b c d e
  decide

theorem bitString_groupBits (bs : List Bool) :
    ∃ zeros < 5, bitString 5 ((groupBits bs).map BitVec.toNat) =
      bs ++ List.replicate zeros false := by
  fun_induction groupBits bs with
  | case1 a b c d e rest ih =>
    obtain ⟨zeros, hzeros, ih⟩ := ih
    refine ⟨zeros, hzeros, ?_⟩
    rw [List.map_cons, bitString_cons, bits_symbolOfBits, ih]
    rfl
  | case2 a b c d => exact ⟨1, by decide, by simp [bits_symbolOfBits]⟩
  | case3 a b c => exact ⟨2, by decide, by simp [bits_symbolOfBits, List.replicate]⟩
  | case4 a b => exact ⟨3, by decide, by simp [bits_symbolOfBits, List.replicate]⟩
  | case5 a => exact ⟨4, by decide, by simp [bits_symbolOfBits, List.replicate]⟩
  | case6 => exact ⟨0, by decide, rfl⟩

theorem toNat_lt_of_mem (symbols : List Symbol) :
    ∀ v ∈ symbols.map BitVec.toNat, v < 2 ^ 5 := by
  intro v hv
  obtain ⟨s, -, rfl⟩ := List.mem_map.1 hv
  exact s.isLt

theorem map_toNat_inj {symbols other : List Symbol} :
    symbols.map BitVec.toNat = other.map BitVec.toNat ↔ symbols = other :=
  List.map_inj_right fun _ _ => BitVec.eq_of_toNat_eq

/-- The decoder finds a program in symbols exactly if they are the symbols of that program. -/
theorem regroup_programSymbols_iff {symbols : List Symbol} {program : Bytes} :
    regroup 5 8 false (symbols.map BitVec.toNat) = some (program.map UInt8.toNat) ↔
      symbols = programSymbols program := by
  obtain ⟨zeros, hzeros, hwritten⟩ := bitString_groupBits (bitString 8 (program.map UInt8.toNat))
  obtain ⟨values, rest, hread, hvalues, hrest, hrun⟩ :=
    regroup_unpadded (show 0 < 8 by decide) (toNat_lt_of_mem symbols)
  constructor
  · intro h
    rw [hrun] at h
    split at h
    case isTrue => simp at h
    case isFalse hleft =>
      obtain ⟨hfew, hzero⟩ := not_or.1 hleft
      cases h
      have hfalse := eq_replicate_of_true_notMem hzero
      -- Both paddings are shorter than five bits and fill up to a multiple of five.
      have hlength := congrArg List.length hread
      have hlength' := congrArg List.length hwritten
      rw [List.length_append, length_bitString] at hlength hlength'
      rw [List.length_replicate] at hlength'
      have hsame : rest.length = zeros := by omega
      have hstring : bitString 5 (symbols.map BitVec.toNat) ++ [] =
          bitString 5 ((programSymbols program).map BitVec.toNat) ++ [] := by
        rw [List.append_nil, List.append_nil, programSymbols, hwritten, hread, hfalse, hsame]
      exact map_toNat_inj.1
        (bitString_inj (toNat_lt_of_mem _) (toNat_lt_of_mem _) (by decide) (by decide) hstring).1
  · rintro rfl
    have hcut : bitString 8 values ++ rest =
        bitString 8 (program.map UInt8.toNat) ++ List.replicate zeros false := by
      rw [← hread, programSymbols, hwritten]
    obtain ⟨rfl, rfl⟩ := bitString_inj hvalues (Bytes.toNat_lt_of_mem _) hrest
      (by rw [List.length_replicate]; omega) hcut
    rw [hrun, if_neg]
    simp only [List.length_replicate, List.mem_replicate]
    simp [hzeros]

/-- What the decoder finds in symbols are bytes. -/
theorem exists_bytes_of_regroup {symbols : List Symbol} {values : List Nat}
    (h : regroup 5 8 false (symbols.map BitVec.toNat) = some values) :
    values = (values.map UInt8.ofNat).map UInt8.toNat := by
  obtain ⟨groups, rest, -, hgroups, -, hrun⟩ :=
    regroup_unpadded (show 0 < 8 by decide) (toNat_lt_of_mem symbols)
  rw [hrun] at h
  split at h
  case isTrue => simp at h
  case isFalse =>
    rw [← Option.some.inj h, List.map_map]
    refine (List.map_id groups).symm.trans (List.map_congr_left fun v hv => ?_)
    exact (UInt8.toNat_ofNat_of_lt' (hgroups v hv)).symm

/-! ## The text -/

/-- The remainder that a right checksum leaves. -/
def target (version : Nat) : Nat :=
  if version = 0 then 1 else 0x2BC830A3

/-- The symbols of a version and a program, without the checksum. -/
def dataSymbols (version : Nat) (program : Bytes) : List Symbol :=
  .ofNat 5 version :: programSymbols program

/-- All the symbols behind the `1`. -/
def textSymbols (hrp : String) (version : Nat) (program : Bytes) : List Symbol :=
  let data := dataSymbols version program
  data ++ checksum (.ofNat (target version)) (prefixSymbols hrp ++ data)

/-- The text of a witness program, in lower case if its prefix is. -/
def encode (hrp : String) (version : Nat) (program : Bytes) : String :=
  hrp ++ "1" ++ String.ofList ((textSymbols hrp version program).map letter)

end Runesmith.Bech32
