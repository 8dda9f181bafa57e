import Mathlib
import Runesmith.Proofs.Mint.Honest

/-!
# Skeletons of mints

What becomes of the skeleton of a mint for any destination and any postage.

* A postage that is not worth more than dust is the only reason to build none
  (`skeleton_eq_error_iff`, proved beside the runestone).
* A skeleton that was built deciphers to the mint it was built for (`decipher_skeletonOf`).
* It has a wire form, and is read back from it, if there is room for the postage in the 64 bits of a
  value (`toHex_skeletonOf`). Nothing but dust bounds a postage when the skeleton is built, so that
  one without room is only noticed here (`toHex_skeletonOf_of_large`).
* `skeleton_sendable` puts this together.
-/

namespace Runesmith

namespace Mint

/-- The first output carries the runestone, whatever the second one is. -/
theorem decipher_skeletonOf (id : RuneId) (destination : Bytes) (postage : Int) :
    Runestone.decipher (skeletonOf id destination postage) = some (.runestone (.ofMint id)) := by
  apply Runestone.decipher_of_mintScript
  refine ⟨⟨_, rfl⟩, [], [destination], rfl, ?_⟩
  intro script hscript
  cases hscript

section

variable {id : RuneId} {destination : Bytes} {postage : Int}

theorem length_mintScript_le (id : RuneId) : (Runestone.mintScript id).length ≤ 20 := by
  have hpayload := Runestone.length_mintPayload_le id
  rw [Runestone.length_mintScript]
  omega

theorem fits_skeletonOf (hshort : destination.length ≤ Transaction.maxRead)
    (hlow : -2 ^ 63 ≤ postage) (hhigh : postage < 2 ^ 63) :
    (skeletonOf id destination postage).Fits where
  version := by
    show -2 ^ 31 ≤ (2 : Int) ∧ (2 : Int) < 2 ^ 31
    omega
  lockTime := by
    show (0 : Int) ≤ 0 ∧ (0 : Int) ≤ 0xFFFFFFFF
    omega
  inputCount := by
    show (0 : Nat) < 2 ^ 64
    omega
  inputs := by
    intro input hinput
    cases hinput
  outputCount := by
    show (2 : Nat) < 2 ^ 64
    omega
  outputs := by
    have hscript : (Runestone.mintScript id).length ≤ Transaction.maxRead :=
      (length_mintScript_le id).trans (by unfold Transaction.maxRead; omega)
    intro output houtput
    rcases List.mem_cons.1 houtput with rfl | houtput
    · exact ⟨by show -2 ^ 63 ≤ (0 : Int) ∧ (0 : Int) < 2 ^ 63; omega, hscript⟩
    · cases List.mem_singleton.1 houtput
      exact ⟨⟨hlow, hhigh⟩, hshort⟩

/-- There are two outputs, so that the missing inputs are not mistaken for the marker. -/
theorem not_ambiguous_skeletonOf : ¬ (skeletonOf id destination postage).Ambiguous := by
  rintro ⟨-, houtputs⟩
  cases houtputs

theorem toHex_skeletonOf (hshort : destination.length ≤ Transaction.maxRead)
    (hlow : -2 ^ 63 ≤ postage) (hhigh : postage < 2 ^ 63) :
    ∃ hex, (skeletonOf id destination postage).toHex = .ok hex
      ∧ Transaction.ofHex hex = .ok (skeletonOf id destination postage) := by
  have hfits : (skeletonOf id destination postage).Fits := fits_skeletonOf hshort hlow hhigh
  obtain ⟨hex, hhex⟩ := Transaction.exists_toHex hfits
  exact ⟨hex, hhex, Transaction.ofHex_of_toHex hfits not_ambiguous_skeletonOf hhex⟩

theorem toHex_skeletonOf_of_large (hlarge : 2 ^ 63 ≤ postage) :
    (skeletonOf id destination postage).toHex = .error .fieldWidth := by
  have hbeyond : ¬ (-2 ^ 63 ≤ postage ∧ postage < 2 ^ 63) := by
    rintro ⟨-, hroom⟩
    omega
  have hmem : (⟨postage, destination⟩ : TxOut) ∈ (skeletonOf id destination postage).outputs :=
    List.mem_cons_of_mem _ (List.mem_singleton.2 rfl)
  refine Transaction.toHex_of_beyond rfl ?_ ?_ hmem hbeyond
  · show -2 ^ 31 ≤ (2 : Int) ∧ (2 : Int) < 2 ^ 31
    omega
  · show (0 : Int) ≤ 0 ∧ (0 : Int) ≤ 0xFFFFFFFF
    omega

end

/-- The script of every mint can be had. With it, building a skeleton for a destination of ordinary
size fails exactly if the postage is not worth more than dust, and then says so. Otherwise the
skeleton deciphers to the mint, and it is read back from its wire form if there is room for the
postage in 64 bits with a sign; if there is none, it has no wire form. -/
theorem skeleton_sendable (id : RuneId) {destination : Bytes} (hshort : destination.length ≤ 10000)
    (postage : Postage) : ∃ script, Runestone.encipherMint id = .ok (.ofMint id, script)
    ∧ (∀ e, Transaction.skeleton script destination postage = .error e
      ↔ postage.value ≤ Script.dust destination
        ∧ e = .belowDust postage (Script.dust destination))
    ∧ (Script.dust destination < postage.value →
      ∃ tx, Transaction.skeleton script destination postage = .ok tx
        ∧ Runestone.decipher tx = some (.runestone (.ofMint id))
        ∧ (postage.value < 2 ^ 63 → ∃ hex, tx.toHex = .ok hex ∧ Transaction.ofHex hex = .ok tx)
        ∧ (2 ^ 63 ≤ postage.value → tx.toHex = .error .fieldWidth)) := by
  refine ⟨_, Runestone.encipherMint_eq id, fun e => skeleton_eq_error_iff, ?_⟩
  intro hdust
  refine ⟨_, skeleton_eq hdust, decipher_skeletonOf id destination postage.value, ?_,
    toHex_skeletonOf_of_large⟩
  intro hroom
  have hread : destination.length ≤ Transaction.maxRead :=
    hshort.trans (by unfold Transaction.maxRead; omega)
  exact toHex_skeletonOf hread (by omega) hroom

/-- A destination whose script anyone can satisfy is short enough. -/
theorem skeleton_sendable_openScript : openScript.length ≤ 10000
    ∧ ∃ script, Runestone.encipherMint openId = .ok (.ofMint openId, script)
    ∧ (∀ e, Transaction.skeleton script openScript (.sats 10000) = .error e
      ↔ (Postage.sats 10000).value ≤ Script.dust openScript
        ∧ e = .belowDust (.sats 10000) (Script.dust openScript))
    ∧ (Script.dust openScript < (Postage.sats 10000).value →
      ∃ tx, Transaction.skeleton script openScript (.sats 10000) = .ok tx
        ∧ Runestone.decipher tx = some (.runestone (.ofMint openId))
        ∧ ((Postage.sats 10000).value < 2 ^ 63 →
          ∃ hex, tx.toHex = .ok hex ∧ Transaction.ofHex hex = .ok tx)
        ∧ (2 ^ 63 ≤ (Postage.sats 10000).value → tx.toHex = .error .fieldWidth)) := by
  have hshort : openScript.length ≤ 10000 := by decide
  exact ⟨hshort, skeleton_sendable openId hshort (.sats 10000)⟩

/-- The least postage for which a value has no room: the skeleton is built, and cannot be sent. -/
theorem skeleton_built_and_unsendable : openScript.length ≤ 10000 ∧ ∃ script tx,
    Runestone.encipherMint openId = .ok (.ofMint openId, script)
      ∧ Script.dust openScript < (Postage.sats (2 ^ 63)).value
      ∧ Transaction.skeleton script openScript (.sats (2 ^ 63)) = .ok tx
      ∧ tx.toHex = .error .fieldWidth := by
  have hdust : Script.dust openScript < (Postage.sats (2 ^ 63)).value := by decide
  refine ⟨by decide, _, _, Runestone.encipherMint_eq openId, hdust, skeleton_eq hdust, ?_⟩
  exact toHex_skeletonOf_of_large (le_refl (2 ^ 63))

end Mint

end Runesmith
