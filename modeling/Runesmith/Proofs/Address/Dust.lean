import Runesmith.Config
import Runesmith.Proofs.Address.Witness
import Runesmith.Proofs.Completion
import Runesmith.Proofs.Transaction.RoundTrip

/-!
# Dust of addresses

Dust is reckoned from the bytes of a script alone: whether they look like a witness program says
what it costs to spend them. For the scripts of addresses this is what they really are.

* `Script.isWitnessProgram_witness` and its neighbours: how the standard scripts look;
* `Transaction.length_encodeOutput`: the size that dust is reckoned from is the size on the wire;
* `script_of_ofText`: an address is read as a witness program, or else as one of two older scripts;
* `dust_of_ofText`: what this says about the dust of every address.
-/

namespace Runesmith

/-! ## The look of scripts -/

namespace Script

section

variable {version : Nat} {program : Bytes} (hversion : version ≤ 16)

include hversion

/-- The first byte of a witness program is one of the version opcodes. -/
theorem versionOpcode_cases : UInt8.ofNat (versionOpcode version).toNat = op0
    ∨ op1 ≤ UInt8.ofNat (versionOpcode version).toNat
      ∧ UInt8.ofNat (versionOpcode version).toNat ≤ op16 := by
  have hall : ∀ version ≤ 16, UInt8.ofNat (versionOpcode (version : Nat)).toNat = op0
      ∨ op1 ≤ UInt8.ofNat (versionOpcode (version : Nat)).toNat
        ∧ UInt8.ofNat (versionOpcode (version : Nat)).toNat ≤ op16 := by
    decide
  exact hall version hversion

theorem isWitnessProgram_witness (htwo : 2 ≤ program.length) (hforty : program.length ≤ 40) :
    isWitnessProgram (witness version program) = true := by
  have hopcode := versionOpcode_cases hversion
  have hsize : (UInt8.ofNat program.length).toNat = program.length :=
    UInt8.toNat_ofNat_of_lt' (by show program.length < 256; omega)
  have hlow : 4 ≤ program.length + 1 + 1 := by omega
  have hhigh : program.length + 1 + 1 ≤ 42 := by omega
  have hrest : program.length = program.length + 1 + 1 - 2 := by omega
  rw [witness, isWitnessProgram]
  simp only [List.length_cons, hlow, hhigh, hopcode, hsize, ← hrest, decide_true, Bool.and_self]

theorem isOpReturn_witness : isOpReturn (witness version program) = false := by
  have hall : ∀ version ≤ 16, UInt8.ofNat (versionOpcode (version : Nat)).toNat ≠ opReturn := by
    decide
  simpa [isOpReturn, witness] using hall version hversion

end

variable (hash : Bytes)

theorem isWitnessProgram_payToPubkeyHash : isWitnessProgram (payToPubkeyHash hash) = false := by
  have hopcode : ¬ (opDup = op0 ∨ op1 ≤ opDup ∧ opDup ≤ op16) := by decide
  simp [isWitnessProgram, payToPubkeyHash, hopcode]

theorem isWitnessProgram_payToScriptHash : isWitnessProgram (payToScriptHash hash) = false := by
  have hopcode : ¬ (opHash160 = op0 ∨ op1 ≤ opHash160 ∧ opHash160 ≤ op16) := by decide
  simp [isWitnessProgram, payToScriptHash, hopcode]

theorem isOpReturn_payToPubkeyHash : isOpReturn (payToPubkeyHash hash) = false := by
  simp [isOpReturn, payToPubkeyHash, opDup, opReturn]

theorem isOpReturn_payToScriptHash : isOpReturn (payToScriptHash hash) = false := by
  simp [isOpReturn, payToScriptHash, opHash160, opReturn]

variable {script : Bytes}

/-- Short scripts have their size in one byte. -/
theorem outputSize_of_short (h : script.length < 253) : outputSize script = 9 + script.length := by
  rw [outputSize, CompactSize.encode, if_pos h, List.length_singleton]

/-- A witness program is spent with a quarter of the bytes that satisfy it. -/
theorem dust_eq (h : isOpReturn script = false) : dust script
    = 3 * (outputSize script + if isWitnessProgram script then 67 else 148) := by
  rw [dust, h, if_neg Bool.false_ne_true, spendSize, dustFeeRate]
  split <;> omega

end Script

namespace Transaction

/-- What dust is reckoned from is what an output takes on the wire. -/
theorem length_encodeOutput {value : Int} (script : Bytes) (hlow : -2 ^ 63 ≤ value)
    (hhigh : value < 2 ^ 63) : ∃ bytes, encodeOutput ⟨value, script⟩ = .ok bytes
      ∧ bytes.length = Script.outputSize script := by
  obtain ⟨bytes, hbytes, hlength⟩ := exists_signed? 8 hlow hhigh
  refine ⟨bytes ++ sized script, ?_, ?_⟩
  · rw [encodeOutput, hbytes]
  · rw [List.length_append, hlength, sized, List.length_append, Script.outputSize]
    omega

end Transaction

namespace Address

/-! ## The scripts of addresses -/

/-- Text is read as a witness address if what stands before its last `1` is one of the prefixes. -/
def IsWitness (text : String) : Prop :=
  (prefixNetworks? (Text.lower (String.ofList (splitLastOne (Text.trim text).toList).1))).isSome

/-- What an address pays to, by the way in which its text is read. -/
inductive PaysTo (text : String) : Bytes → Prop where
  | witness {version : Nat} {program : Bytes} (hwitness : IsWitness text)
      (hread : witnessProgram (Text.trim text) = .ok (version, program))
      (hprogram : IsWitnessProgram version program) : PaysTo text (Script.witness version program)
  | pubkeyHash {hash : Bytes} (hwitness : ¬ IsWitness text) (hlength : hash.length = 20) :
      PaysTo text (Script.payToPubkeyHash hash)
  | scriptHash {hash : Bytes} (hwitness : ¬ IsWitness text) (hlength : hash.length = 20) :
      PaysTo text (Script.payToScriptHash hash)

theorem isWitnessProgram_of_read {text : String} {version : Nat} {program : Bytes}
    (h : witnessProgram text = .ok (version, program)) : IsWitnessProgram version program := by
  obtain ⟨-, symbols, -, hdecodes⟩ := decodes_of_witnessProgram rfl h
  exact hdecodes.isWitnessProgram

/-- An older address pays to a hash of 20 bytes, in one of two ways. -/
theorem script_of_ofBase58 {digest : Bytes → Bytes} {text : String} {address : Address}
    (h : ofBase58 digest text = .ok address) : ∃ hash : Bytes, hash.length = 20
      ∧ (address.script = Script.payToPubkeyHash hash
        ∨ address.script = Script.payToScriptHash hash) := by
  unfold ofBase58 at h
  cases hdecode : Base58.decodeCheck digest text with
  | error e =>
    rw [hdecode] at h
    cases h
  | ok payload =>
    rw [hdecode] at h
    cases payload with
    | nil => cases h
    | cons version hash =>
      dsimp only [Except.mapError, bind, Except.bind] at h
      split at h
      case isTrue => cases h
      case isFalse hlength =>
        refine ⟨hash, not_not.1 hlength, ?_⟩
        -- There are two version bytes for each of the two ways to pay.
        split at h
        · cases h
          exact .inl rfl
        split at h
        · cases h
          exact .inl rfl
        split at h
        · cases h
          exact .inr rfl
        split at h <;> cases h
        exact .inr rfl

theorem paysTo_of_ofText {text : String} {address : Address} (h : ofText text = .ok address) :
    PaysTo text address.script := by
  unfold ofText ofTextWith at h
  dsimp only at h
  split at h
  case h_1 networks hwitness =>
    cases hread : witnessProgram (Text.trim text) with
    | error e =>
      rw [hread] at h
      cases h
    | ok found =>
      rw [hread] at h
      cases h
      exact .witness (by rw [IsWitness, hwitness]; rfl) hread (isWitnessProgram_of_read hread)
  case h_2 hwitness =>
    have hnone : ¬ IsWitness text := by
      rw [IsWitness, hwitness]
      exact Bool.false_ne_true
    obtain ⟨hash, hlength, hscript | hscript⟩ := script_of_ofBase58 h
    · rw [hscript]
      exact .pubkeyHash hnone hlength
    · rw [hscript]
      exact .scriptHash hnone hlength

section

variable {text : String} {script : Bytes} (h : PaysTo text script)

include h

/-- A script looks like a witness program exactly if its address was read as one. -/
theorem PaysTo.isWitnessProgram_iff : Script.isWitnessProgram script = true ↔ IsWitness text := by
  cases h with
  | witness hwitness _ hprogram =>
    exact iff_of_true (Script.isWitnessProgram_witness hprogram.version_le hprogram.two_le
      hprogram.le_forty) hwitness
  | pubkeyHash hwitness =>
    rw [Script.isWitnessProgram_payToPubkeyHash]
    exact iff_of_false Bool.false_ne_true hwitness
  | scriptHash hwitness =>
    rw [Script.isWitnessProgram_payToScriptHash]
    exact iff_of_false Bool.false_ne_true hwitness

theorem PaysTo.isOpReturn : Script.isOpReturn script = false := by
  cases h with
  | witness _ _ hprogram => exact Script.isOpReturn_witness hprogram.version_le
  | pubkeyHash => exact Script.isOpReturn_payToPubkeyHash _
  | scriptHash => exact Script.isOpReturn_payToScriptHash _

theorem PaysTo.length_le : script.length ≤ 42 := by
  cases h with
  | witness _ _ hprogram =>
    have hforty := hprogram.le_forty
    rw [Script.witness, List.length_cons, List.length_cons]
    omega
  | pubkeyHash _ hlength | scriptHash _ hlength =>
    simp [Script.payToPubkeyHash, Script.payToScriptHash, hlength]

/-- The largest scripts of addresses take 51 bytes as outputs. -/
theorem PaysTo.dust_le : Script.dust script ≤ 597 := by
  have hlength := h.length_le
  rw [Script.dust_eq h.isOpReturn, Script.outputSize_of_short (by omega)]
  split <;> omega

end

/-- What an output costs that pays to the script of an address. -/
structure Priced (text : String) (script : Bytes) : Prop where
  paysTo : PaysTo text script
  isWitnessProgram_iff : Script.isWitnessProgram script = true ↔ IsWitness text
  isOpReturn : Script.isOpReturn script = false
  /-- Dust is three times what the output takes on the wire and what it takes to spend it. -/
  dust : ∀ value : Int, -2 ^ 63 ≤ value → value < 2 ^ 63 →
    ∃ bytes, Transaction.encodeOutput ⟨value, script⟩ = .ok bytes
      ∧ (IsWitness text → Script.dust script = 3 * (bytes.length + 67))
      ∧ (¬ IsWitness text → Script.dust script = 3 * (bytes.length + 148))
  dust_lt : Script.dust script < 10000
  not_belowDust : ∀ runestoneScript postage dust,
    Transaction.skeleton runestoneScript script MintContext.defaultPostage
      ≠ .error (.belowDust postage dust)

/-- The script of every accepted address is taken for what it was read as. Its dust is what it costs
to make and to spend such an output, and never as much as the postage of requests that name none. -/
theorem priced_of_ofText {text : String} {address : Address} (h : ofText text = .ok address) :
    Priced text address.script := by
  have hpays := paysTo_of_ofText h
  have hlt : Script.dust address.script < 10000 := hpays.dust_le.trans_lt (by decide)
  constructor
  case paysTo => exact hpays
  case isWitnessProgram_iff => exact hpays.isWitnessProgram_iff
  case isOpReturn => exact hpays.isOpReturn
  case dust =>
    intro value hlow hhigh
    obtain ⟨bytes, hbytes, hlength⟩ := Transaction.length_encodeOutput address.script hlow hhigh
    refine ⟨bytes, hbytes, fun hwitness => ?_, fun hwitness => ?_⟩
    · rw [Script.dust_eq hpays.isOpReturn, hlength, if_pos (hpays.isWitnessProgram_iff.2 hwitness)]
    · rw [Script.dust_eq hpays.isOpReturn, hlength,
        if_neg fun hprogram => hwitness (hpays.isWitnessProgram_iff.1 hprogram)]
  case dust_lt => exact hlt
  case not_belowDust =>
    intro runestoneScript postage dust hskeleton
    rcases Transaction.skeleton_eq_error hskeleton with ⟨cause, hcause⟩ | ⟨hle, -⟩
    · cases hcause
    · rw [MintContext.defaultPostage, Postage.value] at hle
      omega

/-- The address of the key one, in upper case. -/
theorem priced_keyOne :
    ofText "BC1QW508D6QEJXTDG4Y5R3ZARVARY0C5XW7KV8F3T4"
        = .ok ⟨"BC1QW508D6QEJXTDG4Y5R3ZARVARY0C5XW7KV8F3T4", Script.witness 0 keyOneHash,
          [.mainnet]⟩
      ∧ Priced "BC1QW508D6QEJXTDG4Y5R3ZARVARY0C5XW7KV8F3T4" (Script.witness 0 keyOneHash) := by
  have hprogram : IsWitnessProgram 0 keyOneHash :=
    ⟨by decide, by decide, by decide, fun _ => .inl (by decide)⟩
  have hwritten : (Bech32.encode "bc" 0 keyOneHash).toUpper
      = "BC1QW508D6QEJXTDG4Y5R3ZARVARY0C5XW7KV8F3T4" := by
    decide +kernel
  have hmem : ("bc", [.mainnet]) ∈ witnessPrefixes := by decide
  have hread := ofText_toUpper_encode hmem hprogram
  rw [hwritten] at hread
  exact ⟨hread, priced_of_ofText hread⟩

end Address

end Runesmith
