import Runesmith.Proofs.Rune.Id
import Runesmith.Proofs.Runestone.Fields
import Runesmith.Proofs.Script
import Runesmith.Proofs.Varint

/-!
# The form of a message

What the layers under a message accept, from the output that carries it down to its edicts:

* the first output script that begins with the header (`script?_eq_some_iff`);
* pushes of data and nothing else (`payloadOf_eq_ok_iff`);
* pairs of a tag and a value, and behind a tag zero the edicts (`Message.ofIntegers_eq_iff`);
* steps from id to id, each with an amount and an output (`Message.readEdicts_eq_iff`).
-/

namespace Runesmith

namespace Runestone

/-! ## The script -/

/-- No script in front of this one begins with the header, and this one does. -/
def IsFirstScript (tx : Transaction) (script : Bytes) : Prop :=
  header <+: script ∧ ∃ before after, tx.outputs.map TxOut.script = before ++ script :: after
    ∧ ∀ other ∈ before, ¬ header <+: other

theorem script?_eq_some_iff {tx : Transaction} {script : Bytes} :
    script? tx = some script ↔ IsFirstScript tx script := by
  unfold script? IsFirstScript
  rw [List.find?_eq_some_iff_append, List.isPrefixOf_iff_prefix]
  simp only [Bool.not_eq_true', ← Bool.not_eq_true, List.isPrefixOf_iff_prefix]

theorem script?_eq_none_iff {tx : Transaction} :
    script? tx = none ↔ ∀ output ∈ tx.outputs, ¬ header <+: output.script := by
  simp [script?, List.isPrefixOf_iff_prefix]

/-! ## The payload -/

theorem pushedData_eq_ok_iff {instructions : List Script.Instruction} {data : Bytes} :
    pushedData instructions = .ok data ↔
      ∃ pieces : List Bytes, instructions.map Script.Instruction.data? = pieces.map some
        ∧ pieces.flatten = data := by
  induction instructions generalizing data with
  | nil =>
    constructor
    · intro h
      exact ⟨[], rfl, Except.ok.inj h⟩
    · rintro ⟨pieces, hmap, rfl⟩
      rw [List.map_nil, List.nil_eq, List.map_eq_nil_iff] at hmap
      rw [hmap]
      rfl
  | cons instruction rest ih =>
    -- Anything but a push ends the data with a flaw.
    cases instruction with
    | bare opcode =>
      constructor
      · intro h
        cases h
      · rintro ⟨_ | ⟨piece, pieces⟩, hmap, -⟩
        · simp at hmap
        · simp [Script.Instruction.data?] at hmap
    | push opcode piece =>
      rw [pushedData]
      constructor
      · intro h
        cases hrest : pushedData rest with
        | error flaw =>
          rw [hrest] at h
          cases h
        | ok more =>
          rw [hrest] at h
          rcases ih.1 hrest with ⟨pieces, hmap, hflatten⟩
          refine ⟨piece :: pieces, ?_, ?_⟩
          · simp [Script.Instruction.data?, hmap]
          · rw [List.flatten_cons, hflatten]
            exact Except.ok.inj h
      · rintro ⟨_ | ⟨first, pieces⟩, hmap, hflatten⟩
        · simp at hmap
        · simp only [List.map_cons, List.cons.injEq, Script.Instruction.data?,
            Option.some.injEq] at hmap
          rcases hmap with ⟨rfl, hmap⟩
          rw [ih.2 ⟨pieces, hmap, rfl⟩, ← hflatten]
          rfl

/-- A script is a payload exactly if it is pushes of its pieces. -/
theorem payloadOf_eq_ok_iff {body data : Bytes} :
    payloadOf body = .ok data ↔
      ∃ pieces, Script.Pushes body pieces ∧ pieces.flatten = data := by
  unfold payloadOf
  simp only [Script.pushes_iff]
  rcases Script.instructions body with ⟨instructions, stop⟩
  constructor
  · intro h
    -- A flaw in the pushes is told before a script that breaks off; without either, there is data.
    cases hdata : pushedData instructions with
    | error flaw => simp [hdata] at h
    | ok found =>
      cases stop with
      | some e => simp [hdata] at h
      | none =>
        simp only [hdata, Except.ok.injEq] at h
        rcases pushedData_eq_ok_iff.1 hdata with ⟨pieces, hmap, hflatten⟩
        exact ⟨pieces, ⟨hmap, rfl⟩, hflatten.trans h⟩
  · rintro ⟨pieces, ⟨hmap, hstop⟩, hflatten⟩
    have hdata := pushedData_eq_ok_iff.2 ⟨pieces, hmap, hflatten⟩
    dsimp only at hstop
    rw [hstop]
    simp only [hdata]

end Runestone

/-- The integers that fields stand for. -/
def Fields.integers (fields : Fields) : List Nat :=
  fields.flatMap fun field => [field.1, field.2]

namespace Message

/-! ## Edicts -/

/-- Behind an id these integers say these edicts, in groups of four: a step to the next id, an
amount, and the number of an output, which may be one past the last. -/
inductive Says (outputs : Nat) : RuneId → List Nat → List Edict → Prop where
  | nil {current : RuneId} : Says outputs current [] []
  | cons {current id : RuneId} {block tx amount output : Nat} {rest : List Nat}
      {edicts : List Edict}
      (hid : (id.block, id.tx) = RuneId.stepPlace current.block current.tx block tx)
      (houtput : output ≤ min outputs maxU32) (hrest : Says outputs id rest edicts) :
      Says outputs current (block :: tx :: amount :: output :: rest)
        (⟨id, amount, output⟩ :: edicts)

theorem Says.length_eq {outputs : Nat} {current : RuneId} {integers : List Nat}
    {edicts : List Edict} (h : Says outputs current integers edicts) :
    integers.length = 4 * edicts.length := by
  induction h with
  | nil => rfl
  | cons _ _ _ ih =>
    simp only [List.length_cons]
    omega

/-- Edicts are read without a flaw exactly if the integers say them. -/
theorem readEdicts_eq_iff {outputs : Nat} {current : RuneId} {integers : List Nat}
    {edicts : List Edict} :
    readEdicts outputs current integers = (edicts, none)
      ↔ Says outputs current integers edicts := by
  constructor
  · intro h
    fun_induction readEdicts outputs current integers generalizing edicts with
    | case1 =>
      cases h
      exact .nil
    | case2 => cases h
    | case3 => cases h
    -- Only a whole group with an id and an output in their bounds is read on.
    | case4 current block tx amount output rest id hid houtput more flaw hmore ih =>
      rw [Prod.mk.injEq] at h
      rcases h with ⟨rfl, rfl⟩
      exact .cons (RuneId.next?_eq_some_iff.1 hid).2 (by omega) (ih hmore)
    | case5 => cases h
  · intro h
    induction h with
    | nil => rfl
    | @cons current id block tx amount output rest edicts hid houtput _ ih =>
      have hnext : current.next? block tx = some id := by
        rw [RuneId.next?_eq_some_iff, ← hid]
        exact ⟨id.isPlace, rfl⟩
      rw [readEdicts, hnext]
      dsimp only
      rw [if_neg (by omega), ih]

/-! ## Pairs -/

theorem ofIntegers_body (outputs : Nat) (body : List Nat) :
    ofIntegers outputs (Tag.body :: body)
      = ⟨(readEdicts outputs .origin body).2, (readEdicts outputs .origin body).1, []⟩ := by
  rw [ofIntegers.eq_def]
  simp only [if_pos]

theorem ofIntegers_pair {outputs tag : Nat} (h : tag ≠ Tag.body) (value : Nat) (rest : List Nat) :
    ofIntegers outputs (tag :: value :: rest)
      = { ofIntegers outputs rest with
          fields := (tag, value) :: (ofIntegers outputs rest).fields } := by
  rw [ofIntegers.eq_def]
  simp only [if_neg h]

/-- Pairs in front of a message are fields in front of its own. -/
theorem ofIntegers_append {outputs : Nat} {fields : Fields}
    (h : ∀ field ∈ fields, field.1 ≠ Tag.body) (tail : List Nat) :
    ofIntegers outputs (fields.integers ++ tail)
      = { ofIntegers outputs tail with fields := fields ++ (ofIntegers outputs tail).fields } := by
  induction fields with
  | nil => rfl
  | cons field rest ih =>
    have htag : field.1 ≠ Tag.body := h field (by simp)
    show ofIntegers outputs (field.1 :: field.2 :: (Fields.integers rest ++ tail)) = _
    rw [ofIntegers_pair htag, ih fun f hf => h f (by simp [hf])]
    rfl

/-- A message without a flaw is pairs with tags other than zero, and edicts behind a zero. -/
theorem ofIntegers_eq_iff {outputs : Nat} {integers : List Nat} {edicts : List Edict}
    {fields : Fields} :
    ofIntegers outputs integers = ⟨none, edicts, fields⟩ ↔
      (∀ field ∈ fields, field.1 ≠ Tag.body)
        ∧ ((integers = fields.integers ∧ edicts = [])
          ∨ ∃ body, integers = fields.integers ++ Tag.body :: body
            ∧ Says outputs .origin body edicts) := by
  constructor
  · intro h
    fun_induction ofIntegers outputs integers generalizing edicts fields with
    | case1 =>
      cases h
      exact ⟨by simp, .inl ⟨rfl, rfl⟩⟩
    | case2 body read flaw hread =>
      rw [Message.mk.injEq] at h
      rcases h with ⟨rfl, rfl, rfl⟩
      exact ⟨by simp, .inr ⟨body, rfl, readEdicts_eq_iff.1 hread⟩⟩
    | case3 => cases h
    -- A pair is the first field, and what follows it is a message of its own.
    | case4 tag htag value rest message =>
      rename_i ih
      rw [Message.mk.injEq] at h
      rcases h with ⟨hflaw, hedicts, rfl⟩
      have hmessage : ofIntegers outputs rest = ⟨none, edicts, message.fields⟩ := by
        rw [← hflaw, ← hedicts]
      rcases ih hmessage with ⟨htags, hform⟩
      refine ⟨?_, ?_⟩
      · intro field hfield
        rcases List.mem_cons.1 hfield with rfl | hfield
        · exact htag
        · exact htags field hfield
      · rcases hform with ⟨hrest, hempty⟩ | ⟨body, hrest, hread⟩
        · exact .inl ⟨by rw [hrest]; rfl, hempty⟩
        · exact .inr ⟨body, by rw [hrest]; rfl, hread⟩
  · rintro ⟨htags, ⟨rfl, rfl⟩ | ⟨body, rfl, hread⟩⟩
    · have happend := @ofIntegers_append outputs fields htags []
      rw [List.append_nil] at happend
      rw [happend]
      show (⟨none, [], fields ++ []⟩ : Message) = _
      rw [List.append_nil]
    · rw [ofIntegers_append htags, ofIntegers_body, readEdicts_eq_iff.2 hread, List.append_nil]

end Message

end Runesmith
