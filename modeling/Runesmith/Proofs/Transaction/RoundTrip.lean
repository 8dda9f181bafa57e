import Mathlib.Algebra.Group.Int.Defs
import Runesmith.Proofs.Transaction.Reader

/-!
# Round trips of transactions

A transaction whose fields fit the wire format is read back from what is written for it, unless it
has no inputs and exactly one output: then the two counts are the marker and the flag of a
transaction with witness data (`ofHex_toHex_iff`).

* `Fits` says which transactions the wire format has room for;
* `ofHex_of_toHex` reads back the others, `takes_marked` tells why the ambiguous ones are
  lost.
-/

namespace Runesmith

/-! ## What fits the wire format -/

/-- Sixty-four lowercase hexadecimal digits. -/
def IsTxid (text : String) : Prop :=
  text.toList.length = 64 ∧ ∀ c ∈ text.toList, c ∈ Bytes.lowerHexDigits

/-- A number fits an unsigned field of 32 bits. -/
def FitsU32 (n : Int) : Prop :=
  0 ≤ n ∧ n ≤ 0xFFFFFFFF

/-- A number of things can be written as a count. -/
def FitsCount (n : Nat) : Prop :=
  n < 2 ^ 64

/-- The wire format has room for an input. -/
structure TxIn.Fits (input : TxIn) : Prop where
  txid : IsTxid input.previous.txid
  vout : FitsU32 input.previous.vout
  scriptSig : input.scriptSig.length ≤ Transaction.maxRead
  sequence : FitsU32 input.sequence
  stack : FitsCount input.witness.length
  items : ∀ item ∈ input.witness, item.length ≤ Transaction.maxRead

/-- The wire format has room for an output. -/
structure TxOut.Fits (output : TxOut) : Prop where
  value : -2 ^ 63 ≤ output.value ∧ output.value < 2 ^ 63
  script : output.script.length ≤ Transaction.maxRead

/-- The wire format has room for a transaction. -/
structure Transaction.Fits (tx : Transaction) : Prop where
  version : -2 ^ 31 ≤ tx.version ∧ tx.version < 2 ^ 31
  lockTime : FitsU32 tx.lockTime
  inputCount : FitsCount tx.inputs.length
  inputs : ∀ input ∈ tx.inputs, input.Fits
  outputCount : FitsCount tx.outputs.length
  outputs : ∀ output ∈ tx.outputs, output.Fits

-- The characters are those of the text; there are too many to try them all.
instance (text : String) : Decidable (IsTxid text) :=
  @instDecidableAnd _ _ _ (List.decidableBAll _ _)

instance (n : Int) : Decidable (FitsU32 n) :=
  inferInstanceAs (Decidable (_ ∧ _))

instance (n : Nat) : Decidable (FitsCount n) :=
  inferInstanceAs (Decidable (_ < _))

instance (input : TxIn) : Decidable input.Fits :=
  decidable_of_iff (IsTxid input.previous.txid ∧ FitsU32 input.previous.vout
      ∧ input.scriptSig.length ≤ Transaction.maxRead ∧ FitsU32 input.sequence
      ∧ FitsCount input.witness.length
      ∧ ∀ item ∈ input.witness, item.length ≤ Transaction.maxRead)
    ⟨fun ⟨a, b, c, d, e, f⟩ => ⟨a, b, c, d, e, f⟩, fun ⟨a, b, c, d, e, f⟩ => ⟨a, b, c, d, e, f⟩⟩

instance (output : TxOut) : Decidable output.Fits :=
  decidable_of_iff ((-2 ^ 63 ≤ output.value ∧ output.value < 2 ^ 63)
      ∧ output.script.length ≤ Transaction.maxRead)
    ⟨fun ⟨a, b⟩ => ⟨a, b⟩, fun ⟨a, b⟩ => ⟨a, b⟩⟩

instance (tx : Transaction) : Decidable tx.Fits :=
  decidable_of_iff ((-2 ^ 31 ≤ tx.version ∧ tx.version < 2 ^ 31) ∧ FitsU32 tx.lockTime
      ∧ FitsCount tx.inputs.length ∧ (∀ input ∈ tx.inputs, input.Fits)
      ∧ FitsCount tx.outputs.length ∧ ∀ output ∈ tx.outputs, output.Fits)
    ⟨fun ⟨a, b, c, d, e, f⟩ => ⟨a, b, c, d, e, f⟩, fun ⟨a, b, c, d, e, f⟩ => ⟨a, b, c, d, e, f⟩⟩

/-- An input without its witness, which stands elsewhere. -/
def TxIn.bare (input : TxIn) : TxIn :=
  { input with witness := [] }

theorem TxIn.map_bare {inputs : List TxIn} (h : ∀ input ∈ inputs, input.witness = []) :
    inputs.map TxIn.bare = inputs := by
  refine (List.map_congr_left fun input hinput => ?_).trans inputs.map_id
  rw [TxIn.bare, ← h input hinput]
  rfl

namespace Transaction

/-- Without inputs and with exactly one output, the two counts are the marker and the flag. -/
def Ambiguous (tx : Transaction) : Prop :=
  tx.inputs = [] ∧ tx.outputs.length = 1

open Reader

/-! ## Inputs and outputs -/

theorem exists_signed? (width : Nat) {n : Int}
    (hlow : -(Nat.pow 2 (8 * width - 1) : Nat) ≤ n)
    (hhigh : n < (Nat.pow 2 (8 * width - 1) : Nat)) :
    ∃ bytes, signed? width n = some bytes ∧ bytes.length = width := by
  refine ⟨_, if_pos ⟨hlow, hhigh⟩, ?_⟩
  exact Bytes.length_littleEndian ..

theorem reads_u32 {n : Int} (h : FitsU32 n) :
    ∃ m : Nat, (m : Int) = n ∧ Reads (unsigned 4) (Bytes.littleEndian 4 n.toNat) m := by
  obtain ⟨hlow, hhigh⟩ := h
  exact ⟨n.toNat, Int.toNat_of_nonneg hlow, reads_unsigned (by decide) (by omega)⟩

/-- An input is read back, but for its witness. -/
theorem reads_input {input : TxIn} (h : input.Fits) :
    ∃ bytes, encodeInput input = .ok bytes ∧ Reads Reader.input bytes input.bare := by
  have hdigits : input.previous.txid.toList.length = 2 * 32 := h.txid.1
  obtain ⟨hash, hread, hwritten, hlength⟩ := Bytes.hexDigits_of_lower hdigits h.txid.2
  have hhash : Bytes.ofHex? input.previous.txid = some hash := hread
  have htxid : Bytes.toHex hash.reverse.reverse = input.previous.txid := by
    rw [List.reverse_reverse, Bytes.toHex, hwritten, String.ofList_toList]
  obtain ⟨vout, hvout, hreadVout⟩ := reads_u32 h.vout
  obtain ⟨sequence, hsequence, hreadSequence⟩ := reads_u32 h.sequence
  have hreadHash : Reads (take 32) hash.reverse hash.reverse := by
    have hreversed : hash.reverse.length = 32 := by rw [List.length_reverse, hlength]
    have hfits : hash.reverse.length ≤ maxRead := by
      rw [hreversed]
      decide
    have hall := reads_take hfits
    rw [hreversed] at hall
    exact hall
  refine ⟨hash.reverse ++ Bytes.littleEndian 4 input.previous.vout.toNat
      ++ Transaction.sized input.scriptSig ++ Bytes.littleEndian 4 input.sequence.toNat, ?_, ?_⟩
  · have hfitsVout : fitsU32 input.previous.vout = true := decide_eq_true h.vout
    have hfitsSequence : fitsU32 input.sequence = true := decide_eq_true h.sequence
    simp only [encodeInput, hhash, hlength, hfitsVout, hfitsSequence, ne_eq, not_true_eq_false,
      if_false, Bool.not_true, Bool.false_eq_true]
  · have hbare : input.bare
        = ⟨⟨Bytes.toHex hash.reverse.reverse, vout⟩, input.scriptSig, sequence, []⟩ := by
      rw [htxid, hvout, hsequence]
      rfl
    rw [List.append_assoc, List.append_assoc, hbare]
    unfold Reader.input
    refine hreadHash.bind (hreadVout.bind ((reads_sized h.scriptSig).bind ?_))
    exact hreadSequence.map fun last : Nat =>
      TxIn.mk ⟨Bytes.toHex hash.reverse.reverse, vout⟩ input.scriptSig last []

/-- The bytes of a value and of a script behind its length. -/
def outputLength (output : TxOut) : Nat :=
  8 + (Transaction.sized output.script).length

theorem reads_output {output : TxOut} (h : output.Fits) : ∃ bytes,
    encodeOutput output = .ok bytes ∧ Reads Reader.output bytes output
      ∧ bytes.length = outputLength output := by
  obtain ⟨value, hvalue, hlength⟩ := exists_signed? 8 h.value.1 h.value.2
  have hread : Reads (signed 8) value output.value := reads_signed (by decide) (by decide) hvalue
  refine ⟨value ++ Transaction.sized output.script, ?_, ?_, ?_⟩
  · rw [encodeOutput, hvalue]
  · exact hread.bind ((reads_sized h.script).map (TxOut.mk output.value))
  · rw [List.length_append, hlength, outputLength]

theorem reads_stack {input : TxIn} (h : input.Fits) :
    Reads (counted Reader.sized) (encodeStack input.witness) input.witness := by
  have hitems : List.Forall₂ (Reads Reader.sized) (input.witness.map Transaction.sized)
      input.witness := by
    rw [List.forall₂_map_left_iff, List.forall₂_same]
    intro item hitem
    exact reads_sized (h.items item hitem)
  rw [encodeStack, List.flatMap_def]
  exact reads_counted h.stack hitems

/-- The witness stacks are read back to the inputs that they belong to. -/
theorem reads_witnesses {inputs : List TxIn} (h : ∀ input ∈ inputs, input.Fits) :
    Reads (witnesses (inputs.map TxIn.bare)) (inputs.flatMap fun input => encodeStack input.witness)
      inputs := by
  induction inputs with
  | nil => exact .pure []
  | cons input rest ih =>
    obtain ⟨hinput, hrest⟩ := List.forall_mem_cons.1 h
    have hfirst := (reads_stack hinput).map fun stack => { input.bare with witness := stack }
    rw [List.map_cons, List.flatMap_cons, witnesses, List.mapM_cons]
    exact hfirst.bind ((ih hrest).map (input :: ·))

/-! ## What is written -/

theorem exists_pieces {α : Type} {items : List α} {write : α → Except EncodeError Bytes}
    {R : Bytes → α → Prop} (h : ∀ x ∈ items, ∃ bytes, write x = .ok bytes ∧ R bytes x) :
    ∃ pieces, items.mapM write = .ok pieces ∧ List.Forall₂ R pieces items := by
  induction items with
  | nil => exact ⟨[], rfl, .nil⟩
  | cons x rest ih =>
    obtain ⟨hx, hrest⟩ := List.forall_mem_cons.1 h
    obtain ⟨bytes, hwrite, hR⟩ := hx
    obtain ⟨pieces, hpieces, hall⟩ := ih hrest
    refine ⟨bytes :: pieces, ?_, .cons hR hall⟩
    rw [List.mapM_cons, hwrite, hpieces]
    rfl

/-- The pieces that a transaction is written in, each of which is read back. -/
structure Pieces (tx : Transaction) where
  version : Bytes
  inputs : List Bytes
  outputs : List Bytes
  readsVersion : Reads (signed 4) version tx.version
  readsInputs : List.Forall₂ (Reads Reader.input) inputs (tx.inputs.map TxIn.bare)
  readsOutputs : List.Forall₂ (Reads Reader.output) outputs tx.outputs
  lengths : List.Forall₂ (fun piece output => piece.length = outputLength output) outputs tx.outputs

/-- Counts and pieces of the inputs and the outputs. -/
def Pieces.body {tx : Transaction} (pieces : tx.Pieces) : Bytes :=
  CompactSize.encode tx.inputs.length ++ pieces.inputs.flatten
    ++ (CompactSize.encode tx.outputs.length ++ pieces.outputs.flatten)

def lockTimeBytes (tx : Transaction) : Bytes :=
  Bytes.littleEndian 4 tx.lockTime.toNat

def witnessBytes (tx : Transaction) : Bytes :=
  tx.inputs.flatMap fun input => encodeStack input.witness

/-- A transaction that fits is written in pieces. -/
theorem exists_encode {tx : Transaction} (h : tx.Fits) : ∃ pieces : tx.Pieces, tx.encode = .ok
    (pieces.version ++ (if tx.hasWitness then
      [0, 1] ++ (pieces.body ++ (tx.witnessBytes ++ tx.lockTimeBytes))
      else pieces.body ++ tx.lockTimeBytes)) := by
  obtain ⟨version, hversion, -⟩ := exists_signed? 4 h.version.1 h.version.2
  obtain ⟨inputs, hinputs, hreadInputs⟩ := exists_pieces fun input hinput =>
    reads_input (h.inputs input hinput)
  obtain ⟨outputs, houtputs, hreadOutputs⟩ := exists_pieces fun output houtput =>
    reads_output (h.outputs output houtput)
  have hlockTime : fitsU32 tx.lockTime = true := decide_eq_true h.lockTime
  refine ⟨⟨version, inputs, outputs, reads_signed (by decide) (by decide) hversion,
    List.forall₂_map_right_iff.2 hreadInputs, hreadOutputs.imp fun _ _ hread => hread.1,
    hreadOutputs.imp fun _ _ hread => hread.2⟩, ?_⟩
  rw [encode, encodeWith, hinputs, hlockTime, hversion, houtputs]
  cases tx.hasWitness
  all_goals
    simp only [Pieces.body, lockTimeBytes, witnessBytes, List.append_assoc, List.append_nil,
      bind, Except.bind, pure, Except.pure, Bool.not_true, Bool.false_eq_true, if_true, if_false]

/-! ## What cannot be written -/

theorem encodeOutput_of_beyond {output : TxOut}
    (h : ¬ (-2 ^ 63 ≤ output.value ∧ output.value < 2 ^ 63)) :
    encodeOutput output = .error .fieldWidth := by
  have hvalue : signed? 8 output.value = none := if_neg h
  rw [encodeOutput, hvalue]

/-- One value without room spoils all outputs: there is no other error of an output. -/
theorem mapM_encodeOutput_of_beyond {outputs : List TxOut} {output : TxOut}
    (hmem : output ∈ outputs) (h : ¬ (-2 ^ 63 ≤ output.value ∧ output.value < 2 ^ 63)) :
    outputs.mapM encodeOutput = .error .fieldWidth := by
  induction outputs with
  | nil => cases hmem
  | cons first rest ih =>
    rw [List.mapM_cons]
    by_cases hfirst : -2 ^ 63 ≤ first.value ∧ first.value < 2 ^ 63
    · have hne : output ≠ first := by
        rintro rfl
        exact h hfirst
      have hrest : output ∈ rest := (List.mem_cons.1 hmem).resolve_left hne
      obtain ⟨value, hvalue, -⟩ := exists_signed? 8 hfirst.1 hfirst.2
      rw [encodeOutput, hvalue, ih hrest]
      rfl
    · rw [encodeOutput_of_beyond hfirst]
      rfl

/-- A transaction without inputs whose version and lock time fit has no wire form if an output has a
value for which there is no room. -/
theorem toHex_of_beyond {tx : Transaction} (hinputs : tx.inputs = [])
    (hversion : -2 ^ 31 ≤ tx.version ∧ tx.version < 2 ^ 31) (hlockTime : FitsU32 tx.lockTime)
    {output : TxOut} (hmem : output ∈ tx.outputs)
    (h : ¬ (-2 ^ 63 ≤ output.value ∧ output.value < 2 ^ 63)) :
    tx.toHex = .error .fieldWidth := by
  obtain ⟨version, hwritten, -⟩ := exists_signed? 4 hversion.1 hversion.2
  have hfits : fitsU32 tx.lockTime = true := decide_eq_true hlockTime
  have hnone : tx.inputs.mapM encodeInput = .ok [] := by
    rw [hinputs]
    rfl
  rw [toHex, encode, encodeWith, hnone, hfits, hwritten, mapM_encodeOutput_of_beyond hmem h]
  rfl

/-! ## What is read -/

/-- What stands behind the marker and the flag. -/
def Reader.marked (version : Int) : Reader Transaction := do
  let inputs ← counted input
  let outputs ← counted output
  let inputs ← witnesses inputs
  let lockTime ← unsigned 4
  return ⟨version, lockTime, inputs, outputs⟩

/-- What stands behind the version if there is no marker. -/
def Reader.unmarked (version : Int) : Reader Transaction := do
  let inputs ← counted input
  let outputs ← counted output
  let lockTime ← unsigned 4
  return ⟨version, lockTime, inputs, outputs⟩

/-- The two bytes behind the version decide about the rest. -/
theorem run_transaction {version : Bytes} {n : Int} (h : Reads (signed 4) version n)
    (marker flag : UInt8) (more : Bytes) :
    Reader.transaction (version ++ marker :: flag :: more)
      = if marker = 0 ∧ flag = 1 then Reader.marked n more
        else Reader.unmarked n (marker :: flag :: more) := by
  have hbyte : ∀ (b : UInt8) (rest : Bytes), unsigned 1 (b :: rest) = .ok (b.toNat, rest) :=
    fun b rest => reads_byte b rest
  have hdecide : (marker.toNat = 0 ∧ flag.toNat = 1) ↔ (marker = 0 ∧ flag = 1) := by
    rw [← UInt8.toNat_inj, ← UInt8.toNat_inj]
    rfl
  have hget : ∀ bytes : Bytes, (get : Reader Bytes) bytes = .ok (bytes, bytes) := fun _ => rfl
  unfold Reader.transaction
  rw [run_bind, h]
  dsimp only
  rw [run_bind, hget]
  dsimp only
  rw [run_bind, hbyte]
  dsimp only
  rw [run_bind, hbyte]
  dsimp only
  by_cases hmarked : marker = 0 ∧ flag = 1
  · rw [if_pos hmarked, if_pos (hdecide.2 hmarked)]
    rfl
  · rw [if_neg hmarked, if_neg fun hboth => hmarked (hdecide.1 hboth)]
    rfl

section

variable {tx : Transaction} (h : tx.Fits) (pieces : tx.Pieces)

include h

theorem reads_inputs (pieces : tx.Pieces) : Reads (counted Reader.input)
    (CompactSize.encode tx.inputs.length ++ pieces.inputs.flatten) (tx.inputs.map TxIn.bare) := by
  have hlength : (tx.inputs.map TxIn.bare).length = tx.inputs.length := List.length_map ..
  have hall := reads_counted (by rw [hlength]; exact h.inputCount) pieces.readsInputs
  rw [hlength] at hall
  exact hall

theorem reads_lockTime :
    ∃ m : Nat, (m : Int) = tx.lockTime ∧ Reads (unsigned 4) tx.lockTimeBytes m :=
  reads_u32 h.lockTime

theorem reads_marked_body : Reads (Reader.marked tx.version)
    (pieces.body ++ (tx.witnessBytes ++ tx.lockTimeBytes)) tx := by
  obtain ⟨lockTime, hlockTime, hread⟩ := reads_lockTime h
  have houtputs := reads_counted h.outputCount pieces.readsOutputs
  unfold Reader.marked
  rw [Pieces.body, List.append_assoc]
  refine (reads_inputs h pieces).bind (houtputs.bind ((reads_witnesses h.inputs).bind ?_))
  have hall := hread.map fun m : Nat => Transaction.mk tx.version m tx.inputs tx.outputs
  rw [hlockTime] at hall
  exact hall

theorem reads_unmarked_body (hbare : tx.hasWitness = false) :
    Reads (Reader.unmarked tx.version) (pieces.body ++ tx.lockTimeBytes) tx := by
  obtain ⟨lockTime, hlockTime, hread⟩ := reads_lockTime h
  have houtputs := reads_counted h.outputCount pieces.readsOutputs
  have hinputs : tx.inputs.map TxIn.bare = tx.inputs := by
    refine TxIn.map_bare fun input hinput => ?_
    have hempty := List.any_eq_false.1 hbare input hinput
    simpa using hempty
  unfold Reader.unmarked
  rw [Pieces.body, List.append_assoc]
  refine (reads_inputs h pieces).bind (houtputs.bind ?_)
  have hall := hread.map fun m : Nat => Transaction.mk tx.version m (tx.inputs.map TxIn.bare)
    tx.outputs
  rw [hlockTime, hinputs] at hall
  rw [hinputs]
  exact hall

end

/-! ## The marker and the flag -/

/-- Only the counts zero and one are written with these bytes in front. -/
theorem encode_head (n : Nat) :
    ∃ head tail, CompactSize.encode n = head :: tail ∧ (head = 0 → n = 0) ∧ (head = 1 → n = 1) := by
  unfold CompactSize.encode
  split
  case isTrue hsmall =>
    have hbyte : (UInt8.ofNat n).toNat = n :=
      UInt8.toNat_ofNat_of_lt' (Nat.lt_trans hsmall (by decide))
    refine ⟨UInt8.ofNat n, [], rfl, ?_, ?_⟩
    · intro hzero
      rw [← hbyte, hzero]
      rfl
    · intro hone
      rw [← hbyte, hone]
      rfl
  case isFalse =>
    split
    · exact ⟨0xFD, _, rfl, fun h => absurd h (by decide), fun h => absurd h (by decide)⟩
    split
    · exact ⟨0xFE, _, rfl, fun h => absurd h (by decide), fun h => absurd h (by decide)⟩
    · exact ⟨0xFF, _, rfl, fun h => absurd h (by decide), fun h => absurd h (by decide)⟩

/-- The two counts are taken for the marker and the flag only where that is ambiguous. -/
theorem body_head {tx : Transaction} (pieces : tx.Pieces) (more : Bytes) :
    ∃ first second rest, pieces.body ++ more = first :: second :: rest
      ∧ (first = 0 ∧ second = 1 → tx.Ambiguous) := by
  obtain ⟨first, tail, hfirst, hzero, -⟩ := encode_head tx.inputs.length
  obtain ⟨second, rest, hsecond, -, hone⟩ := encode_head tx.outputs.length
  cases hinputs : tx.inputs with
  | nil =>
    have hcount : CompactSize.encode tx.inputs.length = [0] := by
      rw [hinputs]
      rfl
    have hnone : pieces.inputs = [] := by
      have hpieces := pieces.readsInputs
      rw [hinputs] at hpieces
      exact List.forall₂_nil_right_iff.1 hpieces
    refine ⟨0, second, rest ++ pieces.outputs.flatten ++ more, ?_, ?_⟩
    · rw [Pieces.body, hcount, hnone, hsecond]
      simp
    · rintro ⟨-, hflag⟩
      exact ⟨hinputs, hone hflag⟩
  | cons input inputs =>
    -- The first count is not zero, and the second one stands somewhere behind it.
    have hnonzero : first ≠ 0 := by
      intro hfirstZero
      have hlength := hzero hfirstZero
      rw [hinputs] at hlength
      cases hlength
    have hbody : pieces.body ++ more = first :: (tail ++ pieces.inputs.flatten
        ++ second :: (rest ++ pieces.outputs.flatten ++ more)) := by
      rw [Pieces.body, hfirst, hsecond]
      simp
    cases hbehind : tail ++ pieces.inputs.flatten with
    | nil =>
      rw [hbody, hbehind]
      exact ⟨first, second, _, rfl, fun hboth => absurd hboth.1 hnonzero⟩
    | cons b behind =>
      rw [hbody, hbehind]
      exact ⟨first, b, _, rfl, fun hboth => absurd hboth.1 hnonzero⟩

/-! ## Reading back -/

theorem ofHex_eq_decode {text : String} {bytes : Bytes} (h : Bytes.ofHex? text = some bytes) :
    ofHex text = (decode bytes).mapError .malformed := by
  rw [ofHex, h]

theorem decode_of_reads {bytes : Bytes} {tx : Transaction} (h : Reads Reader.transaction bytes tx) :
    decode bytes = .ok tx := by
  have hread := h []
  rw [List.append_nil] at hread
  rw [decode, hread]

/-- Unless it is ambiguous, a transaction that fits is read back from its pieces. -/
theorem reads_transaction {tx : Transaction} (h : tx.Fits) (hclear : ¬ tx.Ambiguous)
    (pieces : tx.Pieces) : Reads Reader.transaction (pieces.version ++ (if tx.hasWitness then
      [0, 1] ++ (pieces.body ++ (tx.witnessBytes ++ tx.lockTimeBytes))
      else pieces.body ++ tx.lockTimeBytes)) tx := by
  intro rest
  cases hwitness : tx.hasWitness with
  | true =>
    have hread := reads_marked_body h pieces rest
    have hbytes : ∀ more : Bytes, pieces.version ++ ([0, 1] ++ more) ++ rest
        = pieces.version ++ 0 :: 1 :: (more ++ rest) := by
      intro more
      rw [List.append_assoc]
      rfl
    rw [if_pos rfl, hbytes, run_transaction pieces.readsVersion, if_pos ⟨rfl, rfl⟩]
    exact hread
  | false =>
    have hread := reads_unmarked_body h pieces hwitness rest
    obtain ⟨first, second, more, hhead, hambiguous⟩ := body_head pieces (tx.lockTimeBytes ++ rest)
    have hmarked : ¬ (first = 0 ∧ second = 1) := fun hboth => hclear (hambiguous hboth)
    rw [List.append_assoc, hhead] at hread
    rw [if_neg Bool.false_ne_true, List.append_assoc, List.append_assoc, hhead,
      run_transaction pieces.readsVersion, if_neg hmarked]
    exact hread

theorem decode_of_encode {tx : Transaction} {bytes : Bytes} (h : tx.Fits) (hclear : ¬ tx.Ambiguous)
    (hbytes : tx.encode = .ok bytes) : decode bytes = .ok tx := by
  obtain ⟨pieces, hencode⟩ := exists_encode h
  rw [hbytes] at hencode
  rw [Except.ok.inj hencode]
  exact decode_of_reads (reads_transaction h hclear pieces)

theorem ofHex_of_toHex {tx : Transaction} {hex : String} (h : tx.Fits) (hclear : ¬ tx.Ambiguous)
    (hhex : tx.toHex = .ok hex) : ofHex hex = .ok tx := by
  unfold toHex at hhex
  cases hbytes : tx.encode with
  | error e =>
    rw [hbytes] at hhex
    cases hhex
  | ok bytes =>
    rw [hbytes] at hhex
    cases hhex
    rw [ofHex_eq_decode (Bytes.ofHex?_toHex _), decode_of_encode h hclear hbytes]
    rfl

/-! ## Where marker and flag are mistaken -/

theorem takes_output :
    Takes Reader.output fun front output => outputLength output ≤ front.length := by
  unfold Reader.output
  refine (takes_signed 8).bind (fun value => takes_sized.bind
    (Q := fun script second output => second = [] ∧ output = ⟨value, script⟩)
    (R := fun front output => (Transaction.sized output.script).length ≤ front.length)
    (fun script => .pure ⟨rfl, rfl⟩) ?_) ?_
  · intro script first second output ⟨_, hsized⟩ ⟨hsecond, houtput⟩
    rw [houtput, hsecond, List.append_nil]
    exact hsized
  · intro value first second output ⟨hfirst, _⟩ hsecond
    rw [outputLength, List.length_append, hfirst]
    exact Nat.add_le_add_left hsecond 8

theorem takes_input : Takes Reader.input fun _ _ => True :=
  (takes_take 32).any fun _ => (takes_unsigned 4).any fun _ => takes_sized.any fun _ =>
    (takes_unsigned 4).any fun _ => .pure trivial

theorem takes_witnesses (inputs : List TxIn) : Takes (witnesses inputs) fun _ _ => True := by
  induction inputs with
  | nil => exact .pure trivial
  | cons input rest ih =>
    have hfirst : Takes (do
        let stack ← counted Reader.sized
        return { input with witness := stack }) fun _ (_ : TxIn) => True :=
      (takes_counted takes_sized).any fun _ => .pure trivial
    rw [witnesses, List.mapM_cons]
    exact hfirst.any fun _ => ih.any fun _ => .pure trivial

theorem length_encode_pos (n : Nat) : 1 ≤ (CompactSize.encode n).length := by
  obtain ⟨head, tail, hcount, -⟩ := encode_head n
  rw [hcount, List.length_cons]
  omega

/-- Two counts stand in front of an only output, and the lock time behind it. -/
theorem takes_marked (version : Int) : Takes (Reader.marked version) fun front tx =>
    ∀ output, tx.outputs = [output] → 6 + outputLength output ≤ front.length := by
  have hbehind : ∀ inputs outputs, Takes (do
      let inputs ← witnesses inputs
      let lockTime ← unsigned 4
      return (⟨version, lockTime, inputs, outputs⟩ : Transaction))
      fun front tx => tx.outputs = outputs ∧ 4 ≤ front.length := by
    intro inputs outputs
    refine (takes_witnesses inputs).bind (fun inputs => (takes_unsigned 4).bind
      (Q := fun _ _ tx => tx.outputs = outputs)
      (R := fun front tx => tx.outputs = outputs ∧ 4 ≤ front.length) (fun _ => .pure rfl) ?_) ?_
    · intro lockTime first second tx ⟨hlength, _⟩ houtputs
      rw [List.length_append, hlength]
      exact ⟨houtputs, by omega⟩
    · intro _ first second tx _ ⟨houtputs, hlength⟩
      rw [List.length_append]
      exact ⟨houtputs, by omega⟩
  refine (takes_counted takes_input).bind (fun inputs => (takes_counted takes_output).bind
    (fun outputs => hbehind inputs outputs)
    (R := fun front tx => ∀ output, tx.outputs = [output] → 5 + outputLength output ≤ front.length)
    ?_) ?_
  · intro outputs first second tx ⟨_, count, pieces, hcount, hfirst, hpieces⟩ ⟨houtputs, hsecond⟩
      output honly
    have hpos := length_encode_pos outputs.length
    rw [← houtputs, honly] at hpieces
    cases hpieces with
    | @cons piece _ _ _ hpiece hnone =>
      rw [hfirst, List.length_append, List.length_append, List.flatten_cons, List.length_append]
      omega
  · intro inputs first second tx ⟨_, count, pieces, hcount, hfirst, _⟩ hsecond output honly
    have hpos := length_encode_pos inputs.length
    have hrest := hsecond output honly
    rw [hfirst, List.length_append, List.length_append]
    omega

/-- Read with marker and flag, an ambiguous transaction would need two bytes more. -/
theorem decode_ne_of_ambiguous {tx : Transaction} {bytes : Bytes} (h : tx.Fits)
    (hambiguous : tx.Ambiguous) (hbytes : tx.encode = .ok bytes) : decode bytes ≠ .ok tx := by
  obtain ⟨pieces, hencode⟩ := exists_encode h
  obtain ⟨hinputs, hcount⟩ := hambiguous
  obtain ⟨output, houtput⟩ := List.length_eq_one_iff.1 hcount
  have hbare : tx.hasWitness = false := by
    rw [hasWitness, hinputs]
    rfl
  have hnone : pieces.inputs = [] := by
    have hpieces := pieces.readsInputs
    rw [hinputs] at hpieces
    exact List.forall₂_nil_right_iff.1 hpieces
  have hlengths := pieces.lengths
  rw [houtput] at hlengths
  cases hpieces : pieces.outputs with
  | nil =>
    rw [hpieces] at hlengths
    cases hlengths
  | cons piece rest =>
    rw [hpieces] at hlengths
    obtain ⟨hlength, hrest⟩ := List.forall₂_cons.1 hlengths
    have hbody : pieces.body = 0 :: 1 :: piece := by
      have hlast : rest = [] := List.forall₂_nil_right_iff.1 hrest
      rw [Pieces.body, hnone, hpieces, hinputs, houtput, hlast, List.flatten_cons]
      simp [CompactSize.encode]
    intro hdecode
    rw [hbytes, hbare, hbody] at hencode
    have hwire : bytes = pieces.version ++ 0 :: 1 :: (piece ++ tx.lockTimeBytes) :=
      Except.ok.inj hencode
    rw [decode, hwire, run_transaction pieces.readsVersion, if_pos ⟨rfl, rfl⟩] at hdecode
    split at hdecode
    case h_1 => cases hdecode
    case h_3 => cases hdecode
    case h_2 other hread =>
      cases hdecode
      obtain ⟨front, hfront, hleast⟩ := takes_marked tx.version _ _ _ hread
      have hlong := hleast output houtput
      have hshort : front.length = outputLength output + 4 := by
        rw [List.append_nil] at hfront
        rw [← hfront, List.length_append, hlength, lockTimeBytes, Bytes.length_littleEndian]
      omega

/-- Hexadecimal text is read as the bytes that it was written for. -/
theorem ofHex_of_encode {tx : Transaction} {bytes : Bytes} (hbytes : tx.encode = .ok bytes) :
    tx.toHex = .ok bytes.toHex ∧ ofHex bytes.toHex = (decode bytes).mapError .malformed := by
  rw [toHex, hbytes]
  exact ⟨rfl, ofHex_eq_decode (Bytes.ofHex?_toHex bytes)⟩

/-- A transaction that fits has a wire form. -/
theorem exists_toHex {tx : Transaction} (h : tx.Fits) : ∃ hex, tx.toHex = .ok hex := by
  obtain ⟨pieces, hbytes⟩ := exists_encode h
  exact ⟨_, (ofHex_of_encode hbytes).1⟩

/-- A transaction that fits has a wire form, and is read back from it if and only if it is not the
case that it has no inputs and exactly one output. -/
theorem ofHex_toHex_iff {tx : Transaction} (h : tx.Fits) : ∃ hex, tx.toHex = .ok hex
    ∧ (ofHex hex = .ok tx ↔ ¬ (tx.inputs = [] ∧ tx.outputs.length = 1)) := by
  obtain ⟨pieces, hbytes⟩ := exists_encode h
  obtain ⟨htoHex, hofHex⟩ := ofHex_of_encode hbytes
  refine ⟨_, htoHex, ?_⟩
  rw [hofHex]
  constructor
  · intro hread hambiguous
    have hlost := decode_ne_of_ambiguous h hambiguous hbytes
    cases hdecode : decode _ with
    | error e =>
      rw [hdecode] at hread
      cases hread
    | ok other =>
      rw [hdecode] at hread hlost
      cases hread
      exact hlost rfl
  · intro hclear
    rw [decode_of_encode h hclear hbytes]
    rfl

/-- A transaction with two inputs, the first of which has no witness and the second an empty item
in its witness. -/
def mixedTx : Transaction where
  version := -1
  lockTime := 0xFFFFFFFF
  inputs :=
    [⟨⟨"00000000000000000000000000000000000000000000000000000000deadbeef", 0xFFFFFFFF⟩,
      [0x51], 0, []⟩,
    ⟨⟨"f0e1d2c3b4a5968778695a4b3c2d1e0ff0e1d2c3b4a5968778695a4b3c2d1e0f", 0⟩,
      [], finalSequence, [[], [1, 2, 3]]⟩]
  outputs := [⟨-1, List.replicate 300 0x6A⟩]

theorem mixedTx_fits : mixedTx.Fits := by
  decide +kernel

theorem ofHex_mixedTx : mixedTx.Fits ∧ ∃ hex, mixedTx.toHex = .ok hex
    ∧ (ofHex hex = .ok mixedTx ↔ ¬ (mixedTx.inputs = [] ∧ mixedTx.outputs.length = 1)) :=
  ⟨mixedTx_fits, ofHex_toHex_iff mixedTx_fits⟩

end Transaction

end Runesmith
