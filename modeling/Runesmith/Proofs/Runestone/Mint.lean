import Runesmith.Completion
import Runesmith.Proofs.Runestone.RoundTrip

/-!
# Runestones that mint

The runestone that mints a rune can always be written, as the header and one short push, and whoever
finds its script deciphers the mint and nothing else. It always fits into a skeleton, which nothing
but dust stops from being built.
-/

namespace Runesmith

namespace Runestone

/-- The bytes behind the header and the push of a mint. -/
def mintPayload (id : RuneId) : Bytes :=
  (mintIntegers (some id)).flatMap (Varint.groups ·.toNat)

/-- The script that mints a rune. -/
def mintScript (id : RuneId) : Bytes :=
  header ++ Script.push (mintPayload id)

theorem length_mintPayload (id : RuneId) : (mintPayload id).length
    = 2 + (Varint.groups id.block).length + (Varint.groups id.tx).length := by
  have htag : (Varint.groups Tag.mint).length = 1 := by
    rw [Varint.groups, if_pos (by decide)]
    rfl
  simp only [mintPayload, mintIntegers, List.flatMap_cons, List.flatMap_nil, List.append_nil,
    List.length_append, Int.toNat_natCast, htag]
  omega

/-- A block takes ten bytes at most, and a position in it five. -/
theorem length_mintPayload_le (id : RuneId) : (mintPayload id).length ≤ 17 := by
  have hblock : (Varint.groups id.block).length ≤ 10 :=
    Varint.length_groups_le (Nat.lt_of_le_of_lt id.block_le (by decide)) (by decide)
  have htx : (Varint.groups id.tx).length ≤ 5 :=
    Varint.length_groups_le (Nat.lt_of_le_of_lt id.tx_le (by decide)) (by decide)
  rw [length_mintPayload]
  omega

theorem scriptOf_mintPayload (id : RuneId) : scriptOf (mintPayload id) = mintScript id := by
  have hne : mintPayload id ≠ [] := by
    apply List.ne_nil_of_length_pos
    rw [length_mintPayload]
    omega
  have hshort : (mintPayload id).length ≤ Script.maxElementSize :=
    (length_mintPayload_le id).trans (by decide)
  rw [scriptOf, Bytes.chunks_of_length_le hne hshort, List.flatMap_singleton, mintScript]

theorem length_mintScript (id : RuneId) :
    (mintScript id).length = 3 + (mintPayload id).length := by
  have hshort : (mintPayload id).length < 0x4C := by
    have hle := length_mintPayload_le id
    omega
  rw [mintScript, Script.push, if_pos hshort, List.length_append, List.length_cons]
  simp only [header, List.length_cons, List.length_nil]
  omega

theorem inRange_mintIntegers (id : RuneId) :
    ∀ i ∈ mintIntegers (some id), Varint.InRange i := by
  have hall : (∀ i ∈ mintIntegers (some id) ++ pointerIntegers none, Varint.InRange i)
      ↔ ∀ p ∈ (none : Option Int), Varint.InRange p := inRange_fields
  rw [pointerIntegers, List.append_nil] at hall
  exact hall.2 (by simp)

theorem encodeAll_mintIntegers (id : RuneId) :
    Varint.encodeAll (mintIntegers (some id)) = .ok (mintPayload id) :=
  Varint.encodeAll_eq_ok_iff.2 ⟨inRange_mintIntegers id, rfl⟩

theorem payload_ofMint (id : RuneId) : (ofMint id).payload = .ok (mintPayload id) := by
  have hintegers :
      mintIntegers (some id) ++ pointerIntegers none ++ [] = mintIntegers (some id) := by
    rw [List.append_nil, pointerIntegers, List.append_nil]
  have hpayload : (ofMint id).payload = (Varint.encodeAll
      (mintIntegers (some id) ++ pointerIntegers none ++ [])).mapError .integer := rfl
  rw [hpayload, hintegers, encodeAll_mintIntegers]
  rfl

theorem ensureSize_mintScript (id : RuneId) :
    ensureSize maxScriptSize (mintScript id) = .ok (mintScript id) := by
  have hle := length_mintPayload_le id
  have hsize : ¬ maxScriptSize < ((mintScript id).length : Int) := by
    rw [length_mintScript]
    unfold maxScriptSize
    omega
  exact if_neg hsize

theorem encipher_ofMint (id : RuneId) : (ofMint id).encipher = .ok (mintScript id) :=
  encipher_eq_ok_iff.2 ⟨rfl, _, payload_ofMint id, (scriptOf_mintPayload id).symm⟩

/-- Every rune has a runestone that mints it. -/
theorem encipherMint_eq (id : RuneId) : encipherMint id = .ok (ofMint id, mintScript id) := by
  simp only [encipherMint, encipher_ofMint, ensureSize_mintScript, bind, Except.bind, pure,
    Except.pure]

/-- Whoever finds the script of a mint deciphers the mint. -/
theorem decipher_of_mintScript {tx : Transaction} {id : RuneId}
    (h : IsFirstScript tx (mintScript id)) : decipher tx = some (.runestone (.ofMint id)) := by
  have hreaches : Reaches tx.outputs.length (ofMint id) := ⟨by simp [ofMint], by simp [ofMint]⟩
  have hsorted : sortEdicts (ofMint id).edicts = [] := List.mergeSort_nil
  rw [decipher_of_encipher (encipher_ofMint id) h hreaches, hsorted]
  rfl

end Runestone

namespace Mint

variable {id : RuneId} {destination : Bytes} {postage : Postage}

theorem skeleton_mintScript : Transaction.skeleton (Runestone.mintScript id) destination postage
    = if postage.value ≤ Script.dust destination
      then .error (.belowDust postage (Script.dust destination))
      else .ok ⟨Transaction.currentVersion, 0, [],
        [⟨0, Runestone.mintScript id⟩, ⟨postage.value, destination⟩]⟩ := by
  simp only [Transaction.skeleton, Runestone.ensureSize_mintScript, Except.mapError, bind,
    Except.bind]
  split <;> rfl

/-- The only thing wrong with the skeleton of a mint is a postage that is not worth its output. -/
theorem skeleton_eq_error_iff {e : Failure} :
    Transaction.skeleton (Runestone.mintScript id) destination postage = .error e
      ↔ postage.value ≤ Script.dust destination
        ∧ e = .belowDust postage (Script.dust destination) := by
  rw [skeleton_mintScript]
  split
  case isTrue hdust =>
    rw [Except.error.injEq, eq_comm]
    exact (and_iff_right hdust).symm
  case isFalse hdust => exact iff_of_false nofun fun h => hdust h.1

end Mint

end Runesmith
