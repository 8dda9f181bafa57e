import Mathlib
import Runesmith.Proofs.Runestone.Decipher
import Runesmith.Runestone.Encipher

/-!
# Deciphering undoes enciphering

A runestone without an etching is written exactly if its numbers fit. Whoever deciphers the script
finds the same mint and pointer again, and the edicts in the order of their ids.
-/

namespace Runesmith.Runestone

/-! ## Sorted edicts -/

/-- The edicts in the order of their ids, those of one id in the order that they had. -/
structure StablySorted (edicts result : List Edict) : Prop where
  perm : result.Perm edicts
  sorted : result.Pairwise fun a b => a.id.le b.id
  stable : ∀ id, result.filter (·.id = id) = edicts.filter (·.id = id)

section

variable (edicts : List Edict)

theorem perm_sortEdicts : (sortEdicts edicts).Perm edicts :=
  List.mergeSort_perm edicts _

theorem sorted_sortEdicts : (sortEdicts edicts).Pairwise fun a b => a.id.le b.id := by
  apply List.pairwise_mergeSort
  · intro a b c
    exact RuneId.le_trans
  · intro a b
    exact RuneId.le_total a.id b.id

/-- Edicts of one id are in order already, so that sorting leaves them in theirs. -/
theorem stablySorted_sortEdicts : StablySorted edicts (sortEdicts edicts) where
  perm := perm_sortEdicts edicts
  sorted := sorted_sortEdicts edicts
  stable := by
    intro id
    have hsame : (edicts.filter (·.id = id)).Pairwise fun a b => a.id.le b.id := by
      refine List.Pairwise.imp_of_mem ?_ (List.pairwise_of_forall fun _ _ => trivial)
      intro a b ha hb _
      rw [of_decide_eq_true (List.mem_filter.1 ha).2, of_decide_eq_true (List.mem_filter.1 hb).2]
      exact RuneId.le_refl id
    -- A part of the list that is in order already is not reordered by sorting.
    have hsub : (edicts.filter (·.id = id)).Sublist (sortEdicts edicts) := by
      apply List.sublist_mergeSort
      · intro a b c
        exact RuneId.le_trans
      · intro a b
        exact RuneId.le_total a.id b.id
      · exact hsame
      · exact List.filter_sublist
    have hfilter := hsub.filter (·.id = id)
    rw [List.filter_filter] at hfilter
    simp only [Bool.and_self] at hfilter
    exact (hfilter.eq_of_length ((perm_sortEdicts edicts).filter _).length_eq.symm).symm

end

/-! ## The body -/

/-- The numbers of an edict can be written. -/
def Fits (edict : Edict) : Prop :=
  Varint.InRange edict.amount ∧ Varint.InRange edict.output

/-- Sorted edicts are written as steps from id to id that are read back as the same edicts. -/
theorem edictIntegers_of_sorted {previous : RuneId} {edicts : List Edict}
    (hsorted : edicts.Pairwise fun a b => a.id.le b.id)
    (hfirst : ∀ edict ∈ edicts, previous.le edict.id) :
    ∃ integers, edictIntegers previous edicts = .ok integers
      ∧ ((∀ i ∈ integers, Varint.InRange i) ↔ ∀ edict ∈ edicts, Fits edict)
      ∧ ∀ outputs, (∀ edict ∈ edicts, Fits edict) →
        (∀ edict ∈ edicts, edict.output ≤ min outputs maxU32) →
        Message.Says outputs previous (integers.map Int.toNat) edicts := by
  -- The id before the first edict varies, since every id is written as a step from the one before.
  induction edicts generalizing previous with
  | nil => exact ⟨[], rfl, by simp, fun _ _ _ => .nil⟩
  | cons edict rest ih =>
    rw [List.pairwise_cons] at hsorted
    rcases ih hsorted.2 hsorted.1 with ⟨integers, hintegers, hrange, hread⟩
    rcases RuneId.exists_delta_of_le (hfirst edict (by simp)) with
      ⟨block, tx, hdelta, hnext, hblock, htx⟩
    refine ⟨block :: tx :: edict.amount :: edict.output :: integers, ?_, ?_, ?_⟩
    · rw [edictIntegers, hdelta, hintegers]
      rfl
    -- Steps between ids always fit, so only amounts and outputs can keep a body from being written.
    · have hstep : Varint.InRange block ∧ Varint.InRange tx :=
        ⟨Varint.inRange_natCast.2 (Nat.le_trans hblock (by decide)),
          Varint.inRange_natCast.2 (Nat.le_trans htx (by decide))⟩
      simp only [List.forall_mem_cons, hrange, hstep, true_and, Fits, and_assoc]
    · intro outputs hfits houtputs
      rw [List.forall_mem_cons] at hfits houtputs
      rcases hfits with ⟨⟨hamount, houtput⟩, hfits⟩
      have hedict : edict = ⟨edict.id, (edict.amount.toNat : Int), (edict.output.toNat : Int)⟩ := by
        rw [Int.toNat_of_nonneg hamount.1, Int.toNat_of_nonneg houtput.1]
      have hbound : edict.output.toNat ≤ min outputs maxU32 := by omega
      rw [hedict]
      exact .cons (RuneId.next?_eq_some_iff.1 hnext).2 hbound (hread outputs hfits houtputs.2)

/-- The body of a runestone, and how it is read back. -/
theorem bodyIntegers_eq (edicts : List Edict) :
    ∃ body, bodyIntegers edicts = .ok body
      ∧ ((∀ i ∈ body, Varint.InRange i) ↔ ∀ edict ∈ edicts, Fits edict)
      ∧ ∀ outputs, (∀ edict ∈ edicts, Fits edict) →
        (∀ edict ∈ edicts, edict.output ≤ min outputs maxU32) →
        (body.map Int.toNat = [] ∧ sortEdicts edicts = [])
          ∨ ∃ said, body.map Int.toNat = Tag.body :: said
            ∧ Message.Says outputs .origin said (sortEdicts edicts) := by
  unfold bodyIntegers
  cases hempty : edicts.isEmpty with
  | true =>
    rw [List.isEmpty_iff] at hempty
    subst hempty
    exact ⟨[], rfl, by simp, fun _ _ _ => .inl ⟨rfl, List.mergeSort_nil⟩⟩
  | false =>
    -- The first step starts at the origin, before every id.
    have hstable := stablySorted_sortEdicts edicts
    rcases edictIntegers_of_sorted hstable.sorted fun _ _ => RuneId.origin_le _ with
      ⟨integers, hintegers, hrange, hread⟩
    simp only [hstable.perm.mem_iff] at hrange hread
    refine ⟨(Tag.body : Int) :: integers, ?_, ?_, ?_⟩
    · rw [hintegers]
      rfl
    · rw [List.forall_mem_cons, hrange]
      exact and_iff_right ⟨by decide, by decide⟩
    · intro outputs hfits houtputs
      exact .inr ⟨_, rfl, hread outputs hfits houtputs⟩

/-! ## The fields -/

/-- The fields of a mint and a pointer. -/
def fieldsOf (mint : Option RuneId) (pointer : Option Int) : Fields :=
  (match mint with
    | none => []
    | some id => [(Tag.mint, id.block), (Tag.mint, id.tx)]) ++
  match pointer with
    | none => []
    | some p => [(Tag.pointer, p.toNat)]

theorem toNat_fields (mint : Option RuneId) (pointer : Option Int) :
    (mintIntegers mint ++ pointerIntegers pointer).map Int.toNat
      = (fieldsOf mint pointer).integers := by
  cases mint <;> cases pointer <;> rfl

section

variable {outputs : Nat} {mint : Option RuneId} {pointer : Option Int}

theorem fieldsOf_ne_body : ∀ field ∈ fieldsOf mint pointer, field.1 ≠ Tag.body := by
  cases mint <;> cases pointer <;> simp [fieldsOf, Tag.mint, Tag.pointer, Tag.body]

theorem values_mint :
    (fieldsOf mint pointer).values Tag.mint
      = match mint with
        | none => []
        | some id => [id.block, id.tx] := by
  cases mint <;> cases pointer <;> rfl

theorem values_pointer :
    (fieldsOf mint pointer).values Tag.pointer
      = match pointer with
        | none => []
        | some p => [p.toNat] := by
  cases mint <;> cases pointer <;> rfl

theorem values_other {tag : Nat} (hmint : tag ≠ Tag.mint) (hpointer : tag ≠ Tag.pointer) :
    (fieldsOf mint pointer).values tag = [] := by
  rw [List.eq_nil_iff_forall_not_mem]
  intro value hvalue
  have hmem := Fields.mem_values.1 hvalue
  cases mint <;> cases pointer <;> simp_all [fieldsOf]

theorem headerOf_fieldsOf (h : ∀ p ∈ pointer, 0 ≤ p ∧ p < outputs ∧ p ≤ maxU32) :
    headerOf outputs (fieldsOf mint pointer).values = ⟨none, 0, mint, pointer.map Int.toNat⟩ := by
  have hflags : flagsOf (fieldsOf mint pointer).values = 0 := by
    rw [flagsOf, Fields.Queues.first, values_other (by decide) (by decide)]
    rfl
  have hmint : Fields.Queues.firstTwo (fieldsOf mint pointer).values Tag.mint
      (fun block tx => RuneId.ofInts? block tx) = mint := by
    rw [Fields.Queues.firstTwo, values_mint]
    cases mint with
    | none => rfl
    | some id => exact RuneId.ofInts?_self id
  have hpointer : Fields.Queues.first (fieldsOf mint pointer).values Tag.pointer
      (fun value => if value ≤ maxU32 ∧ value < outputs then some value else none)
      = pointer.map Int.toNat := by
    rw [Fields.Queues.first, values_pointer]
    cases pointer with
    | none => rfl
    | some p =>
      have hp := h p rfl
      exact if_pos (by omega)
  rw [headerOf, hflags, hmint, hpointer]
  rfl

theorem flawless_fieldsOf (h : ∀ p ∈ pointer, 0 ≤ p ∧ p < outputs ∧ p ≤ maxU32) :
    Flawless outputs (fieldsOf mint pointer).values where
  supply := by
    rw [headerOf_fieldsOf h]
    intro etching hetching
    cases hetching
  flags := by rw [headerOf_fieldsOf h]
  tags := by
    intro tag _
    -- Only two queues have anything in them, and their fields take it all.
    by_cases hmint : tag = Tag.mint
    · subst hmint
      rw [leftAfter_of_mem (by simp [takenTags]), leftAt, if_pos rfl, values_mint]
      cases mint with
      | none => rfl
      | some id => exact if_pos (RuneId.isSome_ofInts?.2 id.isPlace)
    by_cases hpointer : tag = Tag.pointer
    · subst hpointer
      rw [leftAfter_of_mem (by simp [takenTags]), leftAt, if_neg (by decide), values_pointer]
      cases pointer with
      | none => rfl
      | some p =>
        have hp := h p rfl
        exact if_pos (decide_eq_true (by omega : p.toNat ≤ maxU32 ∧ p.toNat < outputs))
    · exact leftAfter_of_nil (values_other hmint hpointer)

end

/-! ## The whole message -/

/-- All numbers of a runestone can be written. -/
def Writable (r : Runestone) : Prop :=
  (∀ edict ∈ r.edicts, Fits edict) ∧ ∀ p ∈ r.pointer, Varint.InRange p

/-- The outputs that a runestone names exist in a transaction with so many outputs. An edict may
name one past the last. -/
def Reaches (outputs : Nat) (r : Runestone) : Prop :=
  (∀ edict ∈ r.edicts, edict.output ≤ min outputs maxU32)
    ∧ ∀ p ∈ r.pointer, p < outputs ∧ p ≤ maxU32

theorem inRange_fields {mint : Option RuneId} {pointer : Option Int} :
    (∀ i ∈ mintIntegers mint ++ pointerIntegers pointer, Varint.InRange i)
      ↔ ∀ p ∈ pointer, Varint.InRange p := by
  have htag : Varint.InRange Tag.mint ∧ Varint.InRange Tag.pointer := by decide
  have hmint : ∀ i ∈ mintIntegers mint, Varint.InRange i := by
    cases mint with
    | none => simp [mintIntegers]
    | some id =>
      have hblock : Varint.InRange id.block :=
        Varint.inRange_natCast.2 (Nat.le_trans id.block_le (by decide))
      have htx : Varint.InRange id.tx :=
        Varint.inRange_natCast.2 (Nat.le_trans id.tx_le (by decide))
      simp [mintIntegers, htag, hblock, htx]
  rw [List.forall_mem_append, and_iff_right hmint]
  cases pointer <;> simp [pointerIntegers, htag]

/-- The integers of a runestone, and what they say to whoever reads them. -/
theorem payload_eq (r : Runestone) :
    ∃ integers, r.payload = (Varint.encodeAll integers).mapError .integer
      ∧ ((∀ i ∈ integers, Varint.InRange i) ↔ Writable r)
      ∧ ∀ outputs, Writable r → Reaches outputs r →
        Message.ofIntegers outputs (integers.map Int.toNat)
          = ⟨none, sortEdicts r.edicts, fieldsOf r.mint r.pointer⟩ := by
  rcases bodyIntegers_eq r.edicts with ⟨body, hbody, hrange, hread⟩
  refine ⟨mintIntegers r.mint ++ pointerIntegers r.pointer ++ body, ?_, ?_, ?_⟩
  · rw [payload, hbody]
    rfl
  · rw [List.forall_mem_append, inRange_fields, hrange]
    exact and_comm
  · intro outputs hwritable hreaches
    rw [Message.ofIntegers_eq_iff, List.map_append, toNat_fields]
    refine ⟨fieldsOf_ne_body, ?_⟩
    rcases hread outputs hwritable.1 hreaches.1 with ⟨hempty, hsorted⟩ | ⟨said, hsaid, h⟩
    · left
      rw [hempty, hsorted, List.append_nil]
      exact ⟨rfl, rfl⟩
    · right
      rw [hsaid]
      exact ⟨said, rfl, h⟩

theorem payload_eq_ok_iff {r : Runestone} {bytes : Bytes} {integers : List Int}
    (h : r.payload = (Varint.encodeAll integers).mapError .integer) :
    r.payload = .ok bytes ↔ Varint.encodeAll integers = .ok bytes := by
  rw [h]
  cases Varint.encodeAll integers with
  | error e =>
    constructor <;>
    · intro hok
      cases hok
  | ok found =>
    constructor <;>
    · intro hok
      cases hok
      rfl

theorem encipher_eq_ok_iff {r : Runestone} {script : Bytes} :
    r.encipher = .ok script ↔
      r.etching = none ∧ ∃ bytes, r.payload = .ok bytes ∧ script = scriptOf bytes := by
  unfold encipher
  cases r.etching with
  | some etching => simp
  | none =>
    cases r.payload with
    | error e => simp [Except.map]
    | ok bytes => simp [Except.map, eq_comm]

/-- A payload that was cut into pieces is put together again. -/
theorem ofScript_scriptOf {outputs : Nat} {bytes : Bytes} {integers : List Nat} {r : Runestone}
    (hbytes : Varint.decodeAll bytes = .ok integers)
    (h : ofIntegers outputs integers = .runestone r) :
    ofScript outputs (scriptOf bytes) = .runestone r := by
  have hpieces : ∀ piece ∈ Bytes.chunks Script.maxElementSize bytes, piece.length < 2 ^ 32 :=
    fun piece hpiece => Nat.lt_of_le_of_lt (Bytes.length_le_of_mem_chunks hpiece) (by decide)
  rw [ofScript_eq_runestone_iff]
  refine ⟨Bytes.chunks Script.maxElementSize bytes, integers, ?_, ?_, h⟩
  · have hdrop : (scriptOf bytes).drop header.length
        = (Bytes.chunks Script.maxElementSize bytes).flatMap Script.push := List.drop_left
    rw [hdrop]
    exact Script.pushes_flatMap_push hpieces
  · rw [Bytes.flatten_chunks (by decide)]
    exact Varint.decodeAll_eq_ok_iff.1 hbytes

theorem exists_encipher {r : Runestone} (hetching : r.etching = none) (h : Writable r) :
    ∃ script, r.encipher = .ok script := by
  obtain ⟨integers, hpayload, hrange, -⟩ := payload_eq r
  have hencoded := Varint.encodeAll_eq_ok_iff.2 ⟨hrange.2 h, rfl⟩
  exact ⟨_, encipher_eq_ok_iff.2 ⟨hetching, _, (payload_eq_ok_iff hpayload).2 hencoded, rfl⟩⟩

theorem writable_of_encipher {r : Runestone} {script : Bytes} (h : r.encipher = .ok script) :
    Writable r := by
  obtain ⟨integers, hpayload, hrange, -⟩ := payload_eq r
  obtain ⟨-, bytes, hbytes, -⟩ := encipher_eq_ok_iff.1 h
  exact hrange.1 (Varint.encodeAll_eq_ok_iff.1 ((payload_eq_ok_iff hpayload).1 hbytes)).1

/-- Whoever finds the script of a runestone deciphers it, with its edicts sorted. -/
theorem decipher_of_encipher {tx : Transaction} {r : Runestone} {script : Bytes}
    (hscript : r.encipher = .ok script) (hfirst : IsFirstScript tx script)
    (hreaches : Reaches tx.outputs.length r) :
    decipher tx = some (.runestone ⟨sortEdicts r.edicts, none, r.mint, r.pointer⟩) := by
  have hwritable := writable_of_encipher hscript
  obtain ⟨integers, hpayload, -, hmessage⟩ := payload_eq r
  obtain ⟨-, bytes, hbytes, rfl⟩ := encipher_eq_ok_iff.1 hscript
  have hencoded := (payload_eq_ok_iff hpayload).1 hbytes
  have hpointer : ∀ p ∈ r.pointer, 0 ≤ p ∧ p < tx.outputs.length ∧ p ≤ maxU32 :=
    fun p hp => ⟨(hwritable.2 p hp).1, hreaches.2 p hp⟩
  rw [decipher_eq_runestone_iff]
  refine ⟨_, hfirst, ofScript_scriptOf (Varint.decodeAll_encodeAll hencoded) ?_⟩
  rw [ofIntegers_eq_runestone_iff]
  refine ⟨_, _, hmessage _ hwritable hreaches, flawless_fieldsOf hpointer, ?_⟩
  -- The pointer was written as a natural number and is read as one.
  have hback : (r.pointer.map Int.toNat).map Int.ofNat = r.pointer := by
    cases hp : r.pointer with
    | none => rfl
    | some p => exact congrArg some (Int.toNat_of_nonneg (hpointer p hp).1)
  rw [ofQueues, headerOf_fieldsOf hpointer, hback]

/-- A runestone without an etching is written exactly if its numbers can be written. Its script is
the header and pushes of at most 520 bytes, and whoever finds this script in a transaction that has
the outputs it names deciphers the same runestone with its edicts sorted. -/
theorem decipher_encipher (r : Runestone) (hetching : r.etching = none) :
    ((∃ script, r.encipher = .ok script) ↔ Writable r) ∧
    ∀ script, r.encipher = .ok script →
      (∃ pieces : List Bytes, script = header ++ pieces.flatMap Script.push
        ∧ ∀ piece ∈ pieces, piece.length ≤ 520) ∧
      ∀ tx, IsFirstScript tx script → Reaches tx.outputs.length r →
        ∃ edicts, StablySorted r.edicts edicts
          ∧ decipher tx = some (.runestone ⟨edicts, none, r.mint, r.pointer⟩) := by
  constructor
  · constructor
    · rintro ⟨script, hscript⟩
      exact writable_of_encipher hscript
    · exact exists_encipher hetching
  · intro script hscript
    constructor
    · obtain ⟨-, bytes, -, rfl⟩ := encipher_eq_ok_iff.1 hscript
      exact ⟨_, rfl, fun piece => Bytes.length_le_of_mem_chunks⟩
    · intro tx hfirst hreaches
      exact ⟨sortEdicts r.edicts, stablySorted_sortEdicts r.edicts,
        decipher_of_encipher hscript hfirst hreaches⟩

/-- Two transfers out of order, with a mint and a pointer. -/
def mintAndTransfer : Runestone where
  edicts :=
    [⟨⟨840000, 3, by decide, by decide, by decide⟩, 7, 1⟩,
      ⟨⟨840000, 1, by decide, by decide, by decide⟩, 300, 2⟩]
  etching := none
  mint := some ⟨840000, 1, by decide, by decide, by decide⟩
  pointer := some 1

def mintAndTransferScript : Bytes :=
  [106, 93, 20, 20, 192, 162, 51, 20, 1, 22, 1, 0, 192, 162, 51, 1, 172, 2, 2, 0, 2, 7, 1]

/-- A transaction that carries them in its first output. -/
def mintAndTransferTx : Transaction where
  version := Transaction.currentVersion
  lockTime := 0
  inputs := []
  outputs := [⟨0, mintAndTransferScript⟩, ⟨546, [0x51]⟩]

theorem decipher_mintAndTransfer :
    mintAndTransfer.etching = none
      ∧ mintAndTransfer.encipher = .ok mintAndTransferScript
      ∧ IsFirstScript mintAndTransferTx mintAndTransferScript
      ∧ Reaches 2 mintAndTransfer
      ∧ ∃ edicts, StablySorted mintAndTransfer.edicts edicts
        ∧ decipher mintAndTransferTx
          = some (.runestone ⟨edicts, none, mintAndTransfer.mint, some 1⟩) := by
  have hscript : mintAndTransfer.encipher = .ok mintAndTransferScript := by
    cbv
  have hfirst : IsFirstScript mintAndTransferTx mintAndTransferScript :=
    ⟨⟨_, rfl⟩, [], _, rfl, by simp⟩
  have hreaches : Reaches 2 mintAndTransfer := by
    simp [Reaches, mintAndTransfer, maxU32]
  exact ⟨rfl, hscript, hfirst, hreaches,
    ((decipher_encipher mintAndTransfer rfl).2 _ hscript).2 _ hfirst hreaches⟩

end Runesmith.Runestone
