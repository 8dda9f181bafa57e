import Runesmith.Proofs.Mint.Refusals
import Runesmith.Proofs.Mint.Skeleton

/-!
# Runestones of mints always fit

The script of a mint is the header and a single push, whose length is that of two varints and three
bytes more. It stays far below what is relayed, so that no mint fails for its runestone.

* `Runestone.laidOut_mintScript`: how the script of a mint looks, and how long it is;
* `Mint.neverRunestone_fund`: no mint fails for its runestone, unless a call does;
* `Mint.always_fits` puts this together for every rune and every run.
-/

namespace Runesmith

/-! ## The script -/

namespace Script

/-- An opcode behind those that push stands for itself. -/
theorem instructions_bare {opcode : UInt8} (hop : pushData4 < opcode) (rest : Bytes) :
    instructions (opcode :: rest)
      = (.bare opcode :: (instructions rest).1, (instructions rest).2) :=
  instructions_cons (step_of_gt hop)

/-- A single short push is one instruction. -/
theorem instructions_push {data : Bytes} (h : data.length < 0x4C) :
    instructions (push data) = ([.push (UInt8.ofNat data.length) data], none) := by
  have hstep := step_direct [] h
  rw [List.append_nil] at hstep
  rw [push, if_pos h, instructions_cons hstep, instructions_nil]

end Script

namespace Runestone

/-- How the script of a mint looks: the two bytes of the header and one push, read as such. -/
structure LaidOut (id : RuneId) (script : Bytes) : Prop where
  onePush : ∃ data, script = [0x6A, 0x5D] ++ Script.push data
    ∧ Script.instructions script
      = ([.bare Script.opReturn, .bare Script.op13, .push (UInt8.ofNat data.length) data], none)
  length : ∃ block tx, Varint.encode id.block = .ok block ∧ Varint.encode id.tx = .ok tx
    ∧ script.length = 5 + block.length + tx.length
  seven_le : 7 ≤ script.length
  le_twenty : script.length ≤ 20

theorem length_mintScript_eq (id : RuneId) : (mintScript id).length
    = 5 + (Varint.groups id.block).length + (Varint.groups id.tx).length := by
  rw [length_mintScript, length_mintPayload]
  omega

theorem laidOut_mintScript (id : RuneId) : LaidOut id (mintScript id) := by
  have hpayload := length_mintPayload_le id
  have hshort : (mintPayload id).length < 0x4C := by omega
  have hlength := length_mintScript_eq id
  constructor
  case onePush =>
    refine ⟨mintPayload id, rfl, ?_⟩
    show Script.instructions (Script.opReturn :: Script.op13 :: Script.push (mintPayload id)) = _
    rw [Script.instructions_bare (by decide), Script.instructions_bare (by decide),
      Script.instructions_push hshort]
  case length =>
    have hblock : Varint.InRange id.block :=
      Varint.inRange_natCast.2 (id.block_le.trans (by decide))
    have htx : Varint.InRange id.tx := Varint.inRange_natCast.2 (id.tx_le.trans (by decide))
    exact ⟨_, _, Varint.encode_eq_ok_iff.2 ⟨hblock, rfl⟩, Varint.encode_eq_ok_iff.2 ⟨htx, rfl⟩,
      hlength⟩
  case seven_le =>
    have hblock := List.length_pos_iff.2 (Varint.denotes_groups id.block).ne_nil
    have htx := List.length_pos_iff.2 (Varint.denotes_groups id.tx).ne_nil
    omega
  case le_twenty => exact Mint.length_mintScript_le id

end Runestone

/-! ## The runs -/

/-- A failure that is not about a runestone, one that is too large among others. -/
def NoRunestone (e : Failure) : Prop :=
  ∀ cause, e ≠ .runestone cause

theorem NoVerdict.noRunestone {e : Failure} (h : NoVerdict e) : NoRunestone e := by
  rintro cause rfl
  exact h (.runestone cause)

/-- On the way to a stage an action fails as it does elsewhere. -/
theorem Fails.reaching {α : Type} {p : Failure → Prop} {stage : Stage} {action : Action Observed α}
    (h : Fails action p) : Fails (Mint.reaching stage action) fun stopped => p stopped.cause :=
  h.adapt fun _ he => he

namespace Mint

/-- A run that does not fail for a runestone. -/
def NeverRunestone {α : Type} (run : ExceptT Stopped Observed α) : Prop :=
  Fails run fun stopped => NoRunestone stopped.cause

section

variable {mint : Mint Observed} (h : PartsFail mint NoRunestone)

include h

theorem fails_eligible (rune : SpacedRune) : Fails (mint.eligible rune) NoRunestone := by
  unfold eligible
  refine .bind h.chainHeight fun height => .bind (h.lookup rune) fun found => ?_
  split
  · split
    · exact .pure _
    · exact .throw nofun
  · exact .throw nofun

theorem neverRunestone_fund (request : MintRequest) : NeverRunestone (mint.fund request) := by
  have hverdict : ∀ e, NoVerdict e → NoRunestone e := fun _ => NoVerdict.noRunestone
  refine .bind (.reaching (fails_checkIndex h hverdict)) fun _ =>
    .bind (.reaching (fails_eligible h request.rune)) fun found => ?_
  obtain ⟨id, pile⟩ := found
  dsimp only
  rw [Runestone.encipherMint_eq]
  -- The runestone is written in any case, and fits into the skeleton.
  show NeverRunestone (Mint.reaching .skeletonBuilt
    (mint.buildSkeleton request (Runestone.mintScript id)) >>= _)
  refine .bind (.reaching (fails_buildSkeleton h hverdict request ?_)) fun skeleton =>
    .bind (.reaching (fails_fundLocked h skeleton request.feeRate)) fun _ => .pure _
  intro destination postage e he
  rw [(skeleton_eq_error_iff.1 he).2]
  exact nofun

theorem neverRunestone_run (request : MintRequest) : NeverRunestone (mint.run request) := by
  have hverdict : ∀ e, NoVerdict e → NoRunestone e := fun _ => NoVerdict.noRunestone
  exact .bind (neverRunestone_fund h request) fun funded =>
    .bind (.reaching (h.sign _)) fun signed =>
    .bind (.reaching (fails_broadcastChecked h hverdict _ signed)) fun _ => .pure _

theorem neverRunestone_prepare (request : MintRequest) : NeverRunestone (mint.prepare request) :=
  .bind (neverRunestone_fund h request) fun _ => .pure _

end

/-- Every rune has a runestone that mints it, the header and one push of 7 to 20 bytes together. No
mint and no preparation fails for a runestone that cannot be written or is too large, unless one of
those that it works with does. Over a connection none of them does, whatever is replied. -/
theorem always_fits :
    (∀ id, ∃ script, Runestone.encipherMint id = .ok (.ofMint id, script)
      ∧ Runestone.LaidOut id script)
    ∧ (∀ mint : Mint Observed, PartsFail mint NoRunestone → ∀ request,
      NeverRunestone (mint.run request) ∧ NeverRunestone (mint.prepare request))
    ∧ ∀ (around : Behaviour) (context : MintContext) (config : RpcConfig) (request : MintRequest),
      NeverRunestone ((ofContext around.transport context config).run request)
        ∧ NeverRunestone ((ofContext around.transport context config).prepare request) := by
  have hrun {mint : Mint Observed} (h : PartsFail mint NoRunestone) (request : MintRequest) :
      NeverRunestone (mint.run request) ∧ NeverRunestone (mint.prepare request) :=
    ⟨neverRunestone_run h request, neverRunestone_prepare h request⟩
  refine ⟨?_, fun mint => hrun, ?_⟩
  · exact fun id => ⟨_, Runestone.encipherMint_eq id, Runestone.laidOut_mintScript id⟩
  · intro around context config
    exact hrun ((partsFail_ofContext around context config).mono fun _ => NoVerdict.noRunestone)

end Mint

end Runesmith
