import Runesmith.Proofs.Runestone.Message

/-!
# Deciphered runestones

A transaction carries a runestone if every layer of its message keeps the rules, and the runestone
says what its queues and its edicts say.
-/

namespace Runesmith.Runestone

/-- Queues break no rule: what may ever exist is at most 128 bits, every flag means something, and
every even tag is used up. -/
structure Flawless (outputs : Nat) (queues : Fields.Queues) : Prop where
  supply : ∀ etching ∈ (headerOf outputs queues).etching, etching.supply ≠ none
  flags : (headerOf outputs queues).flags = 0
  tags : ∀ tag, tag % 2 = 0 → leftAfter outputs (takenTags (flagsOf queues)) queues tag = []

theorem flaw?_eq_none_iff {message : Message} {header : Header} {left : Fields} :
    flaw? message header left = none ↔
      message.flaw = none ∧ (∀ etching ∈ header.etching, etching.supply ≠ none)
        ∧ header.flags = 0 ∧ left.hasEvenTag = false := by
  have hsupply : header.etching.any (·.supply.isNone) = false
      ↔ ∀ etching ∈ header.etching, etching.supply ≠ none := by
    cases header.etching with
    | none => simp
    | some etching => simp [Option.isSome_iff_ne_none]
  rw [← hsupply]
  simp [flaw?]

/-- The artifact of a message whose header was taken, with these fields left. -/
def verdict (message : Message) (header : Header) (left : Fields) : Artifact :=
  match flaw? message header left with
  | some flaw => .cenotaph ⟨flaw, header.mint, header.etching.bind (·.rune)⟩
  | none => .runestone ⟨message.edicts, header.etching, header.mint, header.pointer.map Int.ofNat⟩

/-- The verdict needs of the fields only what their queues tell. -/
theorem exists_verdict {outputs : Nat} {integers : List Nat} {message : Message}
    (hmessage : Message.ofIntegers outputs integers = message) :
    ∃ left : Fields, left.values
        = leftAfter outputs (takenTags (flagsOf message.fields.values)) message.fields.values
      ∧ ofIntegers outputs integers
        = verdict message (headerOf outputs message.fields.values) left := by
  have hreads := reads_takeHeader outputs message.fields.values message.fields rfl
  refine ⟨(takeHeader outputs message.fields).2, hreads.2, ?_⟩
  rw [← hreads.1, ← hmessage]
  rfl

/-- The runestone that queues and edicts tell. -/
def ofQueues (outputs : Nat) (queues : Fields.Queues) (edicts : List Edict) : Runestone :=
  let header := headerOf outputs queues
  ⟨edicts, header.etching, header.mint, header.pointer.map Int.ofNat⟩

theorem ofIntegers_eq_runestone_iff {outputs : Nat} {integers : List Nat} {r : Runestone} :
    ofIntegers outputs integers = .runestone r ↔
      ∃ edicts fields, Message.ofIntegers outputs integers = ⟨none, edicts, fields⟩
        ∧ Flawless outputs fields.values ∧ r = ofQueues outputs fields.values edicts := by
  rcases hmessage : Message.ofIntegers outputs integers with ⟨flaw, edicts, fields⟩
  obtain ⟨left, hleft, hverdict⟩ := exists_verdict hmessage
  have hflawless : flaw? ⟨flaw, edicts, fields⟩ (headerOf outputs fields.values) left = none
      ↔ flaw = none ∧ Flawless outputs fields.values := by
    rw [flaw?_eq_none_iff, Fields.hasEvenTag_eq_false_iff, hleft]
    constructor
    · rintro ⟨hflaw, hsupply, hflags, htags⟩
      exact ⟨hflaw, hsupply, hflags, htags⟩
    · rintro ⟨hflaw, hsupply, hflags, htags⟩
      exact ⟨hflaw, hsupply, hflags, htags⟩
  rw [hverdict, verdict]
  constructor
  · intro h
    split at h
    · cases h
    · rename_i hnone
      rcases hflawless.1 hnone with ⟨rfl, hok⟩
      exact ⟨edicts, fields, rfl, hok, (Artifact.runestone.inj h).symm⟩
  · rintro ⟨edicts', fields', hsame, hok, rfl⟩
    rcases Message.mk.inj hsame with ⟨rfl, rfl, rfl⟩
    rw [hflawless.2 ⟨rfl, hok⟩]
    rfl

/-- A script is a runestone exactly if its pushes are integers that are one. -/
theorem ofScript_eq_runestone_iff {outputs : Nat} {script : Bytes} {r : Runestone} :
    ofScript outputs script = .runestone r ↔
      ∃ pieces integers, Script.Pushes (script.drop header.length) pieces
        ∧ Varint.DenotesAll pieces.flatten integers
        ∧ ofIntegers outputs integers = .runestone r := by
  unfold ofScript
  constructor
  · intro h
    cases hpayload : payloadOf (script.drop header.length) with
    | error flaw =>
      rw [hpayload] at h
      cases h
    | ok payload =>
      rw [hpayload] at h
      dsimp only at h
      cases hintegers : Varint.decodeAll payload with
      | error e =>
        rw [hintegers] at h
        cases h
      | ok integers =>
        rw [hintegers] at h
        rcases payloadOf_eq_ok_iff.1 hpayload with ⟨pieces, hpushes, rfl⟩
        exact ⟨pieces, integers, hpushes, Varint.decodeAll_eq_ok_iff.1 hintegers, h⟩
  · rintro ⟨pieces, integers, hpushes, hdenotes, h⟩
    rw [payloadOf_eq_ok_iff.2 ⟨pieces, hpushes, rfl⟩]
    dsimp only
    rw [Varint.decodeAll_eq_ok_iff.2 hdenotes]
    exact h

/-- A transaction carries a runestone exactly if its first script with the header is one. -/
theorem decipher_eq_runestone_iff {tx : Transaction} {r : Runestone} :
    decipher tx = some (.runestone r) ↔
      ∃ script, IsFirstScript tx script ∧ ofScript tx.outputs.length script = .runestone r := by
  simp only [decipher, Option.map_eq_some_iff, script?_eq_some_iff]

end Runesmith.Runestone
