import Runesmith.Proofs.Transaction.RoundTrip

/-!
# What text is read as a transaction

Reading is more lenient than writing: counts need not be in their shortest form, and marker and flag
may stand in front of a transaction without witness data. The bytes that are read are described here
field by field, and whatever was read is read again from the form that is written for it.

* `Spells` says which bytes stand for a transaction, one constructor for each of the two forms;
* `decode_eq_ok_iff`: exactly these bytes are read, by what readers take (`takes_transaction`) and
  by what is read from such bytes (`reads_spelt`);
* `Spells.fits`: the wire format has room for a transaction that was read;
* `ofHex_normal_form`: what is written for it is read as the same transaction.
-/

namespace Runesmith.Transaction

open Reader

/-! ## Bytes that stand for a transaction -/

/-- The bytes of a count, of which the first tells how many others follow. -/
inductive IsCount : Bytes → Nat → Prop where
  | one {b : UInt8} (h : b.toNat < 0xFD) : IsCount [b] b.toNat
  | two {digits : Bytes} (h : digits.length = 2) :
      IsCount (0xFD :: digits) (Bytes.ofLittleEndian digits)
  | four {digits : Bytes} (h : digits.length = 4) :
      IsCount (0xFE :: digits) (Bytes.ofLittleEndian digits)
  | eight {digits : Bytes} (h : digits.length = 8) :
      IsCount (0xFF :: digits) (Bytes.ofLittleEndian digits)

/-- A count of bytes, and so many. -/
def IsSized (front bytes : Bytes) : Prop :=
  ∃ count, front = count ++ bytes ∧ IsCount count bytes.length ∧ bytes.length ≤ maxRead

/-- A count of things, and the bytes of so many. -/
def IsCounted {α : Type} (IsItem : Bytes → α → Prop) (front : Bytes) (items : List α) : Prop :=
  ∃ count pieces, front = count ++ pieces.flatten ∧ IsCount count items.length
    ∧ List.Forall₂ IsItem pieces items

/-- The bytes of an input without its witness, which stands elsewhere. -/
def IsInput (front : Bytes) (input : TxIn) : Prop :=
  ∃ hash vout script sequence, front = hash ++ vout ++ script ++ sequence
    ∧ hash.length = 32 ∧ input.previous.txid = Bytes.toHex hash.reverse
    ∧ vout.length = 4 ∧ input.previous.vout = Bytes.ofLittleEndian vout
    ∧ IsSized script input.scriptSig
    ∧ sequence.length = 4 ∧ input.sequence = Bytes.ofLittleEndian sequence
    ∧ input.witness = []

/-- The bytes of an output. -/
def IsOutput (front : Bytes) (output : TxOut) : Prop :=
  ∃ value script, front = value ++ script
    ∧ value.length = 8 ∧ output.value = Int.bmod (Bytes.ofLittleEndian value) (2 ^ 64)
    ∧ IsSized script output.script

/-- The bytes of the witness of an input. -/
def IsStack (front : Bytes) (input : TxIn) : Prop :=
  IsCounted IsSized front input.witness

/-- The bytes of the fields that a transaction has in either form. -/
structure HasFields (version inputs outputs lockTime : Bytes) (tx : Transaction) : Prop where
  versionLength : version.length = 4
  version : tx.version = Int.bmod (Bytes.ofLittleEndian version) (2 ^ 32)
  inputs : IsCounted IsInput inputs (tx.inputs.map TxIn.bare)
  outputs : IsCounted IsOutput outputs tx.outputs
  lockTimeLength : lockTime.length = 4
  lockTime : tx.lockTime = Bytes.ofLittleEndian lockTime

/-- The bytes of a transaction: marker, flag and stacks stand among its fields, or there are no
witnesses and nothing that could be taken for marker and flag. -/
inductive Spells : Bytes → Transaction → Prop where
  | marked {version inputs outputs lockTime : Bytes} {piles : List Bytes} {tx : Transaction}
      (fields : HasFields version inputs outputs lockTime tx)
      (witnesses : List.Forall₂ IsStack piles tx.inputs) :
      Spells (version ++ ([0, 1] ++ (inputs ++ (outputs ++ (piles.flatten ++ lockTime))))) tx
  | unmarked {version inputs outputs lockTime : Bytes} {tx : Transaction}
      (fields : HasFields version inputs outputs lockTime tx)
      (bare : ∀ input ∈ tx.inputs, input.witness = [])
      (clear : ¬ [0, 1] <+: inputs ++ (outputs ++ lockTime)) :
      Spells (version ++ (inputs ++ (outputs ++ lockTime))) tx

theorem IsInput.witness_eq_nil {front : Bytes} {input : TxIn} (h : IsInput front input) :
    input.witness = [] := by
  obtain ⟨_, _, _, _, _, _, _, _, _, _, _, _, hnone⟩ := h
  exact hnone

theorem exists_piece {α : Type} {IsItem : Bytes → α → Prop} {pieces : List Bytes} {items : List α}
    (h : List.Forall₂ IsItem pieces items) : ∀ item ∈ items, ∃ piece, IsItem piece item := by
  induction h with
  | nil => exact List.forall_mem_nil _
  | cons hpiece _ ih => exact List.forall_mem_cons.2 ⟨⟨_, hpiece⟩, ih⟩

theorem IsCounted.exists_piece {α : Type} {IsItem : Bytes → α → Prop} {front : Bytes}
    {items : List α} (h : IsCounted IsItem front items) :
    ∀ item ∈ items, ∃ piece, IsItem piece item := by
  obtain ⟨_, _, _, _, hpieces⟩ := h
  exact Transaction.exists_piece hpieces

theorem witness_of_isCounted {front : Bytes} {inputs : List TxIn}
    (h : IsCounted IsInput front inputs) : ∀ input ∈ inputs, input.witness = [] := by
  intro input hinput
  obtain ⟨_, hpiece⟩ := h.exists_piece input hinput
  exact hpiece.witness_eq_nil

theorem map_bare_of_isCounted {front : Bytes} {inputs : List TxIn}
    (h : IsCounted IsInput front inputs) : inputs.map TxIn.bare = inputs :=
  TxIn.map_bare (witness_of_isCounted h)

/-! ## What readers take -/

theorem takes_isCount : Takes count IsCount := by
  intro bytes n rest hread
  obtain ⟨head, rest', hhead, hread⟩ := ok_of_bind hread
  obtain ⟨front, hbytes, hlength, hvalue⟩ := takes_unsigned 1 _ _ _ hhead
  obtain ⟨b, rfl⟩ := List.length_eq_one_iff.1 hlength
  have hb : head = b.toNat := by
    rw [hvalue]
    simp [Bytes.ofLittleEndian]
  -- The bytes behind the first are a number of their own.
  have hdigits : ∀ {marker : UInt8} {width : Nat}, b = marker →
      (∀ digits : Bytes, digits.length = width →
        IsCount (marker :: digits) (Bytes.ofLittleEndian digits)) →
      unsigned width rest' = .ok (n, rest) → ∃ front, bytes = front ++ rest ∧ IsCount front n := by
    intro marker width hmarker hform hnumber
    obtain ⟨digits, hrest, hwidth, hn⟩ := takes_unsigned width _ _ _ hnumber
    refine ⟨marker :: digits, ?_, ?_⟩
    · rw [hbytes, hrest, hmarker]
      rfl
    · rw [hn]
      exact hform digits hwidth
  have hmarker : ∀ {marker : UInt8}, head = marker.toNat → b = marker := fun heq =>
    UInt8.toNat_inj.1 (hb.symm.trans heq)
  split at hread
  · rename_i hsmall
    cases hread
    refine ⟨[b], hbytes, ?_⟩
    rw [hb]
    exact .one (by rwa [← hb])
  split at hread
  · rename_i htwo
    have htwo' : head = (0xFD : UInt8).toNat := htwo
    exact hdigits (hmarker htwo') (fun _ => .two) hread
  split at hread
  · rename_i hfour
    have hfour' : head = (0xFE : UInt8).toNat := hfour
    exact hdigits (hmarker hfour') (fun _ => .four) hread
  · rename_i hsmall htwo hfour
    have hbyte := b.toNat_lt
    have height : head = (0xFF : UInt8).toNat := by
      show head = 255
      omega
    exact hdigits (hmarker height) (fun _ => .eight) hread

theorem takes_isSized : Takes Reader.sized IsSized := by
  intro bytes x rest hread
  obtain ⟨n, rest', hcount, hread⟩ := ok_of_bind hread
  obtain ⟨count, hbytes, hform⟩ := takes_isCount _ _ _ hcount
  obtain ⟨front, hrest, hx, hlength, hfits⟩ := takes_take n _ _ _ hread
  refine ⟨count ++ x, ?_, count, rfl, ?_, ?_⟩
  · rw [hbytes, hrest, hx, List.append_assoc]
  · rwa [hx, hlength]
  · rwa [hx, hlength]

theorem takes_isCounted {α : Type} {item : Reader α} {P : Bytes → α → Prop} (h : Takes item P) :
    Takes (counted item) (IsCounted P) := by
  intro bytes xs rest hread
  obtain ⟨n, rest', hcount, hread⟩ := ok_of_bind hread
  obtain ⟨count, hbytes, hform⟩ := takes_isCount _ _ _ hcount
  obtain ⟨front, hrest, hlength, pieces, hfront, hpieces⟩ := takes_many h n _ _ _ hread
  refine ⟨count ++ pieces.flatten, ?_, count, pieces, rfl, ?_, hpieces⟩
  · rw [hbytes, hrest, hfront, List.append_assoc]
  · rwa [hlength]

theorem takes_isInput : Takes Reader.input IsInput := by
  intro bytes input rest hread
  obtain ⟨hash, rest₁, hhash, hread⟩ := ok_of_bind hread
  obtain ⟨vout, rest₂, hvout, hread⟩ := ok_of_bind hread
  obtain ⟨script, rest₃, hscript, hread⟩ := ok_of_bind hread
  obtain ⟨sequence, rest₄, hsequence, hread⟩ := ok_of_bind hread
  cases hread
  obtain ⟨front₁, rfl, hfront₁, hlength, -⟩ := takes_take 32 _ _ _ hhash
  obtain ⟨front₂, rfl, hvoutLength, hvoutValue⟩ := takes_unsigned 4 _ _ _ hvout
  obtain ⟨front₃, rfl, hsized⟩ := takes_isSized _ _ _ hscript
  obtain ⟨front₄, rfl, hsequenceLength, hsequenceValue⟩ := takes_unsigned 4 _ _ _ hsequence
  refine ⟨front₁ ++ front₂ ++ front₃ ++ front₄, by simp only [List.append_assoc], ?_⟩
  exact ⟨front₁, front₂, front₃, front₄, rfl, hlength, by rw [hfront₁], hvoutLength,
    congrArg Nat.cast hvoutValue, hsized, hsequenceLength,
    congrArg Nat.cast hsequenceValue, rfl⟩

theorem takes_isOutput : Takes Reader.output IsOutput := by
  intro bytes output rest hread
  obtain ⟨value, rest₁, hvalue, hread⟩ := ok_of_bind hread
  obtain ⟨script, rest₂, hscript, hread⟩ := ok_of_bind hread
  cases hread
  obtain ⟨front₁, rfl, hlength, hnumber⟩ := takes_signed 8 _ _ _ hvalue
  obtain ⟨front₂, rfl, hsized⟩ := takes_isSized _ _ _ hscript
  exact ⟨front₁ ++ front₂, by rw [List.append_assoc], front₁, front₂, rfl, hlength, hnumber, hsized⟩

/-- Stacks are taken one for each input, and nothing else of the inputs changes. -/
theorem takes_stacks (inputs : List TxIn) : Takes (witnesses inputs) fun front others =>
    others.map TxIn.bare = inputs.map TxIn.bare
      ∧ ∃ piles, front = List.flatten piles ∧ List.Forall₂ IsStack piles others := by
  induction inputs with
  | nil => exact .pure ⟨rfl, [], rfl, .nil⟩
  | cons input inputs ih =>
    intro bytes others rest hread
    rw [witnesses, List.mapM_cons] at hread
    obtain ⟨other, rest₁, hother, hread⟩ := ok_of_bind hread
    obtain ⟨others', rest₂, hothers, hread⟩ := ok_of_bind hread
    cases hread
    obtain ⟨stack, rest₃, hstack, hother⟩ := ok_of_bind hother
    cases hother
    obtain ⟨front, rfl, hcounted⟩ := takes_isCounted takes_isSized _ _ _ hstack
    obtain ⟨back, rfl, hbare, piles, hback, hpiles⟩ := ih _ _ _ hothers
    refine ⟨front ++ back, by rw [List.append_assoc], ?_, front :: piles, ?_, .cons ?_ hpiles⟩
    · rw [List.map_cons, List.map_cons, hbare]
      rfl
    · rw [hback, List.flatten_cons]
    · exact hcounted

theorem takes_marked_form {version : Bytes} {n : Int} (hlength : version.length = 4)
    (hn : n = Int.bmod (Bytes.ofLittleEndian version) (2 ^ 32)) :
    Takes (Reader.marked n) fun front tx => Spells (version ++ ([0, 1] ++ front)) tx := by
  intro bytes tx rest hread
  obtain ⟨bare, rest₁, hbare, hread⟩ := ok_of_bind hread
  obtain ⟨outputs, rest₂, houtputs, hread⟩ := ok_of_bind hread
  obtain ⟨inputs, rest₃, hinputs, hread⟩ := ok_of_bind hread
  obtain ⟨lockTime, rest₄, hlockTime, hread⟩ := ok_of_bind hread
  cases hread
  obtain ⟨front₁, rfl, hfront₁⟩ := takes_isCounted takes_isInput _ _ _ hbare
  obtain ⟨front₂, rfl, hfront₂⟩ := takes_isCounted takes_isOutput _ _ _ houtputs
  obtain ⟨_, rfl, hsame, piles, rfl, hpiles⟩ := takes_stacks bare _ _ _ hinputs
  obtain ⟨front₄, rfl, hwidth, hvalue⟩ := takes_unsigned 4 _ _ _ hlockTime
  have hcounted : IsCounted IsInput front₁ (inputs.map TxIn.bare) := by
    rw [hsame, map_bare_of_isCounted hfront₁]
    exact hfront₁
  refine ⟨front₁ ++ (front₂ ++ (piles.flatten ++ front₄)), ?_, .marked ?_ hpiles⟩
  · simp only [List.append_assoc]
  · exact ⟨hlength, hn, hcounted, hfront₂, hwidth, congrArg Nat.cast hvalue⟩

theorem takes_unmarked_form {version : Bytes} {n : Int} (hlength : version.length = 4)
    (hn : n = Int.bmod (Bytes.ofLittleEndian version) (2 ^ 32)) :
    Takes (Reader.unmarked n) fun front tx =>
      ¬ [0, 1] <+: front → Spells (version ++ front) tx := by
  intro bytes tx rest hread
  obtain ⟨inputs, rest₁, hinputs, hread⟩ := ok_of_bind hread
  obtain ⟨outputs, rest₂, houtputs, hread⟩ := ok_of_bind hread
  obtain ⟨lockTime, rest₃, hlockTime, hread⟩ := ok_of_bind hread
  cases hread
  obtain ⟨front₁, rfl, hfront₁⟩ := takes_isCounted takes_isInput _ _ _ hinputs
  obtain ⟨front₂, rfl, hfront₂⟩ := takes_isCounted takes_isOutput _ _ _ houtputs
  obtain ⟨front₃, rfl, hwidth, hvalue⟩ := takes_unsigned 4 _ _ _ hlockTime
  have hcounted : IsCounted IsInput front₁ (inputs.map TxIn.bare) := by
    rw [map_bare_of_isCounted hfront₁]
    exact hfront₁
  refine ⟨front₁ ++ (front₂ ++ front₃), ?_, fun hclear => .unmarked ?_ ?_ hclear⟩
  · simp only [List.append_assoc]
  · exact ⟨hlength, hn, hcounted, hfront₂, hwidth, congrArg Nat.cast hvalue⟩
  · exact witness_of_isCounted hfront₁

/-- The bytes that are read are those that spell the transaction. -/
theorem takes_transaction : Takes Reader.transaction Spells := by
  intro bytes tx rest h
  obtain ⟨n, rest₁, hversion, hread⟩ := ok_of_bind h
  obtain ⟨start, rest₂, hstart, hread⟩ := ok_of_bind hread
  cases hstart
  obtain ⟨marker, rest₃, hmarker, hread⟩ := ok_of_bind hread
  obtain ⟨flag, rest₄, hflag, -⟩ := ok_of_bind hread
  obtain ⟨version, rfl, hlength, hn⟩ := takes_signed 4 _ _ _ hversion
  obtain ⟨front₁, rfl, hone₁, -⟩ := takes_unsigned 1 _ _ _ hmarker
  obtain ⟨front₂, rfl, hone₂, -⟩ := takes_unsigned 1 _ _ _ hflag
  obtain ⟨first, rfl⟩ := List.length_eq_one_iff.1 hone₁
  obtain ⟨second, rfl⟩ := List.length_eq_one_iff.1 hone₂
  have hreads : Reads (signed 4) version n := by
    rw [hn]
    exact reads_signed_digits hlength (by decide)
  have hform := (run_transaction hreads first second rest₄).symm.trans h
  by_cases hmarked : first = 0 ∧ second = 1
  · rw [if_pos hmarked] at hform
    obtain ⟨front, rfl, hspells⟩ := takes_marked_form hlength hn _ _ _ hform
    refine ⟨version ++ ([0, 1] ++ front), ?_, hspells⟩
    rw [hmarked.1, hmarked.2]
    simp only [List.append_assoc, List.cons_append, List.nil_append]
  · rw [if_neg hmarked] at hform
    obtain ⟨front, hfront, hspells⟩ := takes_unmarked_form hlength hn _ _ _ hform
    refine ⟨version ++ front, ?_, hspells ?_⟩
    · rw [List.append_assoc, ← hfront]
      rfl
    · rintro ⟨tail, rfl⟩
      simp only [List.cons_append, List.nil_append, List.cons.injEq] at hfront
      exact hmarked ⟨hfront.1, hfront.2.1⟩

/-! ## What is read from such bytes -/

theorem reads_isCount {front : Bytes} {n : Nat} (h : IsCount front n) : Reads count front n := by
  cases h with
  | @one b hsmall =>
    unfold count
    rw [← List.append_nil [b]]
    refine (reads_byte b).bind ?_
    rw [if_pos hsmall]
    exact .pure _
  | two hlength => exact reads_marked_digits (by decide) rfl (by decide) hlength
  | four hlength => exact reads_marked_digits (by decide) rfl (by decide) hlength
  | eight hlength => exact reads_marked_digits (by decide) rfl (by decide) hlength

theorem reads_isSized {front bytes : Bytes} (h : IsSized front bytes) :
    Reads Reader.sized front bytes := by
  obtain ⟨count, rfl, hcount, hfits⟩ := h
  exact (reads_isCount hcount).bind (reads_take hfits)

theorem reads_isCounted {α : Type} {item : Reader α} {IsItem : Bytes → α → Prop} {front : Bytes}
    {items : List α} (hitem : ∀ {piece x}, IsItem piece x → Reads item piece x)
    (h : IsCounted IsItem front items) : Reads (counted item) front items := by
  obtain ⟨count, pieces, rfl, hcount, hpieces⟩ := h
  exact (reads_isCount hcount).bind (reads_many (hpieces.imp fun _ _ => hitem))

theorem reads_isInput {front : Bytes} {input : TxIn} (h : IsInput front input) :
    Reads Reader.input front input := by
  obtain ⟨hash, vout, script, sequence, rfl, hhash, htxid, hvoutLength, hvout, hscript,
    hsequenceLength, hsequence, hnone⟩ := h
  have hreadHash : Reads (take 32) hash hash := by
    rw [← hhash]
    exact reads_take (by rw [hhash]; decide)
  have hinput : input = ⟨⟨Bytes.toHex hash.reverse, Bytes.ofLittleEndian vout⟩, input.scriptSig,
      Bytes.ofLittleEndian sequence, []⟩ := by
    rw [← htxid, ← hvout, ← hsequence, ← hnone]
  rw [hinput, List.append_assoc, List.append_assoc]
  unfold Reader.input
  refine hreadHash.bind ((reads_digits hvoutLength (by decide)).bind
    ((reads_isSized hscript).bind ?_))
  exact (reads_digits hsequenceLength (by decide)).map fun last : Nat =>
    TxIn.mk ⟨Bytes.toHex hash.reverse, Bytes.ofLittleEndian vout⟩ input.scriptSig last []

theorem reads_isOutput {front : Bytes} {output : TxOut} (h : IsOutput front output) :
    Reads Reader.output front output := by
  obtain ⟨value, script, rfl, hlength, hvalue, hscript⟩ := h
  have hnumber : Reads (signed 8) value output.value := by
    rw [hvalue]
    exact reads_signed_digits hlength (by decide)
  exact hnumber.bind ((reads_isSized hscript).map (TxOut.mk output.value))

theorem reads_isStacks {piles : List Bytes} {inputs : List TxIn}
    (h : List.Forall₂ IsStack piles inputs) :
    Reads (witnesses (inputs.map TxIn.bare)) piles.flatten inputs := by
  induction h with
  | nil => exact .pure []
  | @cons pile input piles inputs hpile _ ih =>
    have hstack : Reads (counted Reader.sized) pile input.witness :=
      reads_isCounted reads_isSized hpile
    have hfirst := hstack.map fun stack => { input.bare with witness := stack }
    rw [List.map_cons, List.flatten_cons, witnesses, List.mapM_cons]
    exact hfirst.bind (ih.map (input :: ·))

section

variable {version inputs outputs lockTime : Bytes} {tx : Transaction}
  (fields : HasFields version inputs outputs lockTime tx)

include fields

theorem HasFields.reads_version : Reads (signed 4) version tx.version := by
  rw [fields.version]
  exact reads_signed_digits fields.versionLength (by decide)

theorem HasFields.reads_lockTime {inputs : List TxIn} : Reads (do
    let lockTime ← unsigned 4
    return (⟨tx.version, lockTime, inputs, tx.outputs⟩ : Transaction))
    lockTime { tx with inputs := inputs } := by
  have hread := (reads_digits fields.lockTimeLength (by decide)).map fun m : Nat =>
    Transaction.mk tx.version m inputs tx.outputs
  rwa [← fields.lockTime] at hread

theorem HasFields.reads_marked {piles : List Bytes}
    (hpiles : List.Forall₂ IsStack piles tx.inputs) : Reads (Reader.marked tx.version)
      (inputs ++ (outputs ++ (piles.flatten ++ lockTime))) tx :=
  (reads_isCounted reads_isInput fields.inputs).bind
    ((reads_isCounted reads_isOutput fields.outputs).bind
      ((reads_isStacks hpiles).bind fields.reads_lockTime))

theorem HasFields.reads_unmarked (hbare : ∀ input ∈ tx.inputs, input.witness = []) :
    Reads (Reader.unmarked tx.version) (inputs ++ (outputs ++ lockTime)) tx := by
  have hinputs := fields.inputs
  rw [TxIn.map_bare hbare] at hinputs
  exact (reads_isCounted reads_isInput hinputs).bind
    ((reads_isCounted reads_isOutput fields.outputs).bind fields.reads_lockTime)

end

/-- Bytes that spell a transaction are read as it. -/
theorem reads_spelt {bytes : Bytes} {tx : Transaction} (h : Spells bytes tx) :
    Reads Reader.transaction bytes tx := by
  intro rest
  cases h with
  | @marked version inputs outputs lockTime piles _ fields hpiles =>
    rw [List.append_assoc, List.append_assoc]
    refine (run_transaction fields.reads_version 0 1 _).trans ?_
    rw [if_pos ⟨rfl, rfl⟩]
    exact fields.reads_marked hpiles rest
  | @unmarked version inputs outputs lockTime _ fields hbare hclear =>
    have hread := fields.reads_unmarked hbare rest
    have hlong : 2 ≤ (inputs ++ (outputs ++ lockTime)).length := by
      simp only [List.length_append, fields.lockTimeLength]
      omega
    rw [List.append_assoc]
    generalize inputs ++ (outputs ++ lockTime) = front at hread hlong hclear ⊢
    obtain ⟨first, second, more, rfl⟩ : ∃ first second more, front = first :: second :: more := by
      match front with
      | first :: second :: more => exact ⟨first, second, more, rfl⟩
      | [_] => simp at hlong
      | [] => simp at hlong
    have hmarker : ¬ (first = 0 ∧ second = 1) := by
      rintro ⟨rfl, rfl⟩
      exact hclear ⟨more, rfl⟩
    refine (run_transaction fields.reads_version first second _).trans ?_
    rw [if_neg hmarker]
    exact hread

/-! ## Exactly these bytes are read -/

theorem decode_eq_ok_iff {bytes : Bytes} {tx : Transaction} :
    decode bytes = .ok tx ↔ Spells bytes tx := by
  constructor
  · intro h
    unfold decode at h
    split at h
    case h_1 => cases h
    case h_3 => cases h
    case h_2 hread =>
      cases h
      obtain ⟨front, rfl, hspells⟩ := takes_transaction _ _ _ hread
      rwa [List.append_nil]
  · intro h
    exact decode_of_reads (reads_spelt h)

/-! ## What was read has room in the wire format -/

theorem IsCount.fits {front : Bytes} {n : Nat} (h : IsCount front n) : FitsCount n := by
  have hdigits : ∀ {digits : Bytes} {width : Nat}, digits.length = width → width ≤ 8 →
      FitsCount (Bytes.ofLittleEndian digits) := by
    intro digits width hlength hwidth
    refine Nat.lt_of_lt_of_le (Bytes.ofLittleEndian_lt digits) ?_
    rw [hlength]
    exact Nat.pow_le_pow_right (by decide) hwidth
  cases h with
  | @one b hsmall => exact Nat.lt_trans b.toNat_lt (by decide)
  | two hlength => exact hdigits hlength (by decide)
  | four hlength => exact hdigits hlength (by decide)
  | eight hlength => exact hdigits hlength (by decide)

theorem fitsU32_ofLittleEndian {digits : Bytes} (h : digits.length = 4) :
    FitsU32 (Bytes.ofLittleEndian digits) := by
  have hlt := Bytes.ofLittleEndian_lt digits
  rw [h] at hlt
  exact ⟨Int.natCast_nonneg _, by omega⟩

theorem isTxid_toHex {hash : Bytes} (h : hash.length = 32) : IsTxid (Bytes.toHex hash) := by
  rw [IsTxid, Bytes.toHex, String.toList_ofList]
  exact ⟨by rw [Bytes.length_hexDigits, h], Bytes.mem_lowerHexDigits hash⟩

theorem IsSized.le {front bytes : Bytes} (h : IsSized front bytes) : bytes.length ≤ maxRead := by
  obtain ⟨_, _, _, hfits⟩ := h
  exact hfits

theorem IsCounted.fits {α : Type} {IsItem : Bytes → α → Prop} {front : Bytes} {items : List α}
    (h : IsCounted IsItem front items) : FitsCount items.length := by
  obtain ⟨_, _, _, hcount, _⟩ := h
  exact hcount.fits

theorem IsOutput.fits {front : Bytes} {output : TxOut} (h : IsOutput front output) :
    output.Fits := by
  obtain ⟨value, script, -, -, hvalue, hscript⟩ := h
  refine ⟨?_, hscript.le⟩
  rw [hvalue]
  have hlow := Int.le_bmod (x := Bytes.ofLittleEndian value) (m := 2 ^ 64) (by decide)
  have hhigh := Int.bmod_lt (x := Bytes.ofLittleEndian value) (m := 2 ^ 64) (by decide)
  omega

theorem IsInput.fits {front : Bytes} {input : TxIn} (h : IsInput front input) : input.Fits := by
  obtain ⟨hash, vout, script, sequence, -, hhash, htxid, hvoutLength, hvout, hscript,
    hsequenceLength, hsequence, hnone⟩ := h
  have hreversed : hash.reverse.length = 32 := by rw [List.length_reverse, hhash]
  refine ⟨?_, ?_, hscript.le, ?_, ?_, ?_⟩
  · rw [htxid]
    exact isTxid_toHex hreversed
  · rw [hvout]
    exact fitsU32_ofLittleEndian hvoutLength
  · rw [hsequence]
    exact fitsU32_ofLittleEndian hsequenceLength
  · rw [hnone]
    exact Nat.two_pow_pos 64
  · rw [hnone]
    exact List.forall_mem_nil _

/-- An input has room if its witness does. -/
theorem IsStack.fits {pile : Bytes} {input : TxIn} (h : IsStack pile input)
    (hbare : input.bare.Fits) : input.Fits := by
  refine ⟨hbare.txid, hbare.vout, hbare.scriptSig, hbare.sequence, IsCounted.fits h, ?_⟩
  intro item hitem
  obtain ⟨_, hsized⟩ := IsCounted.exists_piece h item hitem
  exact hsized.le

theorem HasFields.fits {version inputs outputs lockTime : Bytes} {tx : Transaction}
    (fields : HasFields version inputs outputs lockTime tx)
    (hinputs : ∀ input ∈ tx.inputs, input.bare.Fits → input.Fits) : tx.Fits := by
  refine ⟨?_, ?_, ?_, ?_, fields.outputs.fits, ?_⟩
  · rw [fields.version]
    have hlow := Int.le_bmod (x := Bytes.ofLittleEndian version) (m := 2 ^ 32) (by decide)
    have hhigh := Int.bmod_lt (x := Bytes.ofLittleEndian version) (m := 2 ^ 32) (by decide)
    omega
  · rw [fields.lockTime]
    exact fitsU32_ofLittleEndian fields.lockTimeLength
  · have hcount := fields.inputs.fits
    rwa [List.length_map] at hcount
  · intro input hinput
    obtain ⟨_, hpiece⟩ := fields.inputs.exists_piece _ (List.mem_map_of_mem hinput)
    exact hinputs input hinput hpiece.fits
  · intro output houtput
    obtain ⟨_, hpiece⟩ := fields.outputs.exists_piece output houtput
    exact hpiece.fits

/-- A transaction that was read has room in the wire format. -/
theorem Spells.fits {bytes : Bytes} {tx : Transaction} (h : Spells bytes tx) : tx.Fits := by
  cases h with
  | marked fields hpiles =>
    refine fields.fits fun input hinput hbare => ?_
    obtain ⟨_, hpile⟩ := exists_piece hpiles input hinput
    exact IsStack.fits hpile hbare
  | unmarked fields hnone =>
    refine fields.fits fun input hinput hbare => ?_
    have hsame : input.bare = input := by
      rw [TxIn.bare, ← hnone input hinput]
    rwa [hsame] at hbare

/-! ## The form that is written -/

/-- Text is read as a transaction if and only if it is hexadecimal and its bytes, all of them, spell
one. What was read is written, and unless it has no inputs and exactly one output, that is read as
the same transaction, however the text spelt it. -/
theorem ofHex_normal_form (text : String) :
    (∃ tx bytes hex, ofHex text = .ok tx ∧ Bytes.ofHex? text = some bytes
      ∧ Reader.transaction bytes = .ok (tx, []) ∧ Spells bytes tx ∧ tx.toHex = .ok hex
      ∧ (¬ (tx.inputs = [] ∧ tx.outputs.length = 1) → ofHex hex = .ok tx))
    ∨ ∃ e, ofHex text = .error e
      ∧ ∀ bytes tx, Bytes.ofHex? text = some bytes → ¬ Spells bytes tx := by
  cases hbytes : Bytes.ofHex? text with
  | none =>
    refine .inr ⟨.notHex, ?_, fun _ _ h => nomatch h⟩
    rw [ofHex, hbytes]
  | some bytes =>
    cases hdecode : decode bytes with
    | error e =>
      refine .inr ⟨.malformed e, ?_, ?_⟩
      · rw [ofHex_eq_decode hbytes, hdecode]
        rfl
      · intro bytes tx hsame hspells
        cases hsame
        rw [decode_eq_ok_iff.2 hspells] at hdecode
        cases hdecode
    | ok tx =>
      have hspells := decode_eq_ok_iff.1 hdecode
      obtain ⟨hex, hhex⟩ := exists_toHex hspells.fits
      have hread := reads_spelt hspells []
      rw [List.append_nil] at hread
      refine .inl ⟨tx, bytes, hex, ?_, rfl, hread, hspells, hhex, ?_⟩
      · rw [ofHex_eq_decode hbytes, hdecode]
        rfl
      · intro hclear
        exact ofHex_of_toHex hspells.fits hclear hhex

-- The count of the inputs is longer than it need be, and marker and flag announce an empty stack.
example : ofHex ("02000000" ++ "0001" ++ "fd0100"
    ++ "1111111111111111111111111111111111111111111111111111111111111111" ++ "00000000"
    ++ "00" ++ "ffffffff" ++ "00" ++ "00" ++ "00000000") = .ok ⟨2, 0,
      [⟨⟨"1111111111111111111111111111111111111111111111111111111111111111", 0⟩, [],
        finalSequence, []⟩], []⟩ := by
  decide +kernel

end Runesmith.Transaction
