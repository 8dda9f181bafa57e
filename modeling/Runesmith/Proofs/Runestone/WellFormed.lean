import Runesmith.Proofs.Runestone.RoundTrip
import Runesmith.Proofs.Runestone.Acceptance

/-!
# Deciphered runestones are well formed

Whatever bytes a transaction carries, a runestone that is deciphered from them keeps its bounds: the
ids of its edicts only grow, its numbers fit, and its etching has only values that mean something.
So a runestone without an etching can be written again, and what is written is deciphered as the
same runestone, however the bytes in the transaction were put together.

* `Says.sorted`: the ids of edicts only grow;
* `wellFormed_of_decipher`: the bounds of what is deciphered;
* `decipher_normal_form`: it is written in one form that means the same.
-/

namespace Runesmith

/-! ## Well-formed runestones -/

/-- The values of an etching mean something. -/
structure Etching.WellFormed (etching : Etching) : Prop where
  divisibility : ∀ n ∈ etching.divisibility, n ≤ 38
  spacers : ∀ n ∈ etching.spacers, n ≤ 2 ^ 27 - 1
  /-- The symbol is a code point, and not half of a pair of them. -/
  symbol : ∀ c ∈ etching.symbol, c.toNat < 0xD800 ∨ (0xDFFF < c.toNat ∧ c.toNat < 0x110000)
  bounds : ∀ terms ∈ etching.terms, ∀ bound ∈ [terms.height.1, terms.height.2, terms.offset.1,
    terms.offset.2], ∀ n ∈ bound, n ≤ 2 ^ 64 - 1
  supply : ∃ total < 2 ^ 128, etching.supply = some total

/-- The numbers of a runestone fit a transaction with so many outputs, and its edicts are in the
order of their ids. -/
structure Runestone.WellFormed (outputs : Nat) (r : Runestone) : Prop where
  ids : ∀ edict ∈ r.edicts, RuneId.IsPlace edict.id.block edict.id.tx
  sorted : r.edicts.Pairwise fun a b =>
    a.id.block < b.id.block ∨ (a.id.block = b.id.block ∧ a.id.tx ≤ b.id.tx)
  amounts : ∀ edict ∈ r.edicts, 0 ≤ edict.amount ∧ edict.amount < 2 ^ 128
  edictOutputs : ∀ edict ∈ r.edicts, 0 ≤ edict.output ∧ edict.output ≤ min outputs (2 ^ 32 - 1)
  pointer : ∀ p ∈ r.pointer, 0 ≤ p ∧ p < outputs ∧ p ≤ 2 ^ 32 - 1
  etching : ∀ etching ∈ r.etching, etching.WellFormed

/-! ## Edicts -/

namespace Message

/-- The ids of edicts only grow, from the id in front of them on. -/
theorem Says.sorted {outputs : Nat} {current : RuneId} {integers : List Nat} {edicts : List Edict}
    (h : Says outputs current integers edicts) :
    (∀ edict ∈ edicts, current.le edict.id = true) ∧
      edicts.Pairwise fun a b => a.id.le b.id = true := by
  -- What holds behind the next id holds behind the one before it, as the step between them grows.
  induction h with
  | nil => exact ⟨nofun, .nil⟩
  | @cons current id block tx amount output rest edicts hid houtput _ ih =>
    have hstep : current.le id = true := RuneId.le_of_stepPlace hid
    obtain ⟨hbehind, hsorted⟩ := ih
    constructor
    · intro edict hedict
      rcases List.mem_cons.1 hedict with rfl | hedict
      · exact hstep
      · exact RuneId.le_trans hstep (hbehind edict hedict)
    · exact List.pairwise_cons.2 ⟨hbehind, hsorted⟩

/-- The numbers of edicts are numbers of the message. -/
theorem Says.bounds {outputs : Nat} {current : RuneId} {integers : List Nat} {edicts : List Edict}
    (h : Says outputs current integers edicts) {limit : Nat} (hlimit : ∀ i ∈ integers, i ≤ limit) :
    ∀ edict ∈ edicts, (0 ≤ edict.amount ∧ edict.amount ≤ limit) ∧
      0 ≤ edict.output ∧ edict.output ≤ min outputs maxU32 := by
  induction h with
  | nil => exact nofun
  | @cons current id block tx amount output rest edicts hid houtput _ ih =>
    have hamount : amount ≤ limit := hlimit amount (by simp)
    intro edict hedict
    rcases List.mem_cons.1 hedict with rfl | hedict
    · dsimp only
      omega
    · exact ih (fun i hi => hlimit i (by simp [hi])) edict hedict

end Message

namespace Runestone

open Fields (Queues)

/-! ## Fields -/

section

variable {outputs tag : Nat} {queues : Queues}

/-- A field that was read meets the condition that it is read under. -/
theorem of_first {p : Nat → Prop} [DecidablePred p] {n : Nat}
    (h : queues.first tag (fun value => if p value then some value else none) = some n) : p n := by
  obtain ⟨value, -, hvalue⟩ := Option.bind_eq_some_iff.1 h
  split at hvalue
  case isTrue hp =>
    cases hvalue
    exact hp
  case isFalse => cases hvalue

theorem le_of_first {limit n : Nat}
    (h : queues.first tag (fun value => if value ≤ limit then some value else none) = some n) :
    n ≤ limit :=
  of_first (p := (· ≤ limit)) h

theorem pointer_of_headerOf {n : Nat} (h : n ∈ (headerOf outputs queues).pointer) :
    n ≤ maxU32 ∧ n < outputs :=
  of_first h

theorem supply_lt {etching : Etching} {total : Nat} (h : etching.supply = some total) :
    total < 2 ^ 128 := by
  have hbound (n : Nat) (hn : (if n ≤ maxU128 then some n else none) = some total) :
      total < 2 ^ 128 := by
    split at hn
    case isTrue hle =>
      rw [← Option.some.inj hn]
      exact Nat.lt_succ_of_le hle
    case isFalse => cases hn
  exact hbound _ h

theorem wellFormed_of_etchingOf {flags : Nat}
    (hsupply : (etchingOf flags queues).1.supply ≠ none) :
    (etchingOf flags queues).1.WellFormed where
  divisibility _ h := le_of_first h
  spacers _ h := le_of_first h
  symbol c _ := c.valid
  bounds := by
    intro terms hterms
    have hannounced : (etchingOf flags queues).1.terms =
        if (Flag.take Flag.terms flags).1 then some (termsOf queues) else none := rfl
    rw [hannounced] at hterms
    split at hterms
    case isTrue =>
      cases hterms
      intro bound hbound n hn
      simp only [List.mem_cons, List.not_mem_nil, or_false] at hbound
      rcases hbound with rfl | rfl | rfl | rfl <;> exact le_of_first hn
    case isFalse => cases hterms
  supply := by
    obtain ⟨total, htotal⟩ := Option.ne_none_iff_exists'.1 hsupply
    exact ⟨total, supply_lt htotal, htotal⟩

end

/-- Whatever a transaction carries, what is deciphered from it is well formed. -/
theorem wellFormed_of_decipher {tx : Transaction} {r : Runestone}
    (h : decipher tx = some (.runestone r)) : r.WellFormed tx.outputs.length := by
  obtain ⟨script, -, hscript⟩ := decipher_eq_runestone_iff.1 h
  obtain ⟨pieces, integers, -, hdenotes, hintegers⟩ := ofScript_eq_runestone_iff.1 hscript
  obtain ⟨edicts, fields, hmessage, hflawless, rfl⟩ := ofIntegers_eq_runestone_iff.1 hintegers
  -- All numbers of the edicts are integers of the payload, and those have at most 128 bits.
  have hedicts : (edicts.Pairwise fun a b => a.id.le b.id = true) ∧
      ∀ edict ∈ edicts, (0 ≤ edict.amount ∧ edict.amount ≤ maxU128) ∧
        0 ≤ edict.output ∧ edict.output ≤ min tx.outputs.length maxU32 := by
    obtain ⟨-, ⟨-, rfl⟩ | ⟨body, hbody, hspells⟩⟩ := Message.ofIntegers_eq_iff.1 hmessage
    · exact ⟨.nil, nofun⟩
    · have hlimit : ∀ i ∈ body, i ≤ maxU128 := by
        intro i hi
        exact hdenotes.le_maxU128 i (by rw [hbody]; simp [hi])
      exact ⟨hspells.sorted.2, hspells.bounds hlimit⟩
  obtain ⟨hsorted, hbounds⟩ := hedicts
  exact {
    ids := fun edict _ => edict.id.isPlace
    sorted := hsorted.imp RuneId.le_iff.1
    amounts := fun edict hedict => by
      have hamount := (hbounds edict hedict).1
      unfold maxU128 at hamount
      omega
    edictOutputs := fun edict hedict => (hbounds edict hedict).2
    pointer := by
      intro p hp
      obtain ⟨n, hn, rfl⟩ := Option.mem_map.1 hp
      have hbound := pointer_of_headerOf hn
      unfold maxU32 at hbound
      rw [Int.ofNat_eq_natCast]
      omega
    etching := by
      intro etching hetching
      have hsupply := hflawless.supply etching hetching
      have hheader : (headerOf tx.outputs.length fields.values).etching =
          if (Flag.take Flag.etching (flagsOf fields.values)).1 then
            some (etchingOf (Flag.take Flag.etching (flagsOf fields.values)).2 fields.values).1
          else none := rfl
      change etching ∈ (headerOf tx.outputs.length fields.values).etching at hetching
      rw [hheader] at hetching
      split at hetching
      case isTrue =>
        cases hetching
        exact wellFormed_of_etchingOf hsupply
      case isFalse => cases hetching }

/-! ## The normal form -/

/-- The outputs with another script in the first of those whose script begins with the header. -/
def replaceScript (script : Bytes) : List TxOut → List TxOut
  | [] => []
  | output :: rest =>
    if header.isPrefixOf output.script then { output with script := script } :: rest
    else output :: replaceScript script rest

/-- A transaction with another script for its runestone. -/
def rewrite (tx : Transaction) (script : Bytes) : Transaction :=
  { tx with outputs := replaceScript script tx.outputs }

theorem replaceScript_append {script : Bytes} {before after : List TxOut} {output : TxOut}
    (hbefore : ∀ other ∈ before, ¬header <+: other.script) (houtput : header <+: output.script) :
    replaceScript script (before ++ output :: after) =
      before ++ { output with script := script } :: after := by
  induction before with
  | nil => exact if_pos (List.isPrefixOf_iff_prefix.2 houtput)
  | cons other rest ih =>
    obtain ⟨hother, hrest⟩ := List.forall_mem_cons.1 hbefore
    rw [List.cons_append, replaceScript, if_neg (by rwa [List.isPrefixOf_iff_prefix]), ih hrest,
      List.cons_append]

/-- The new script is the one that is found, and there are as many outputs as before. -/
theorem isFirstScript_rewrite {tx : Transaction} {old script : Bytes} (hold : IsFirstScript tx old)
    (hscript : header <+: script) :
    IsFirstScript (rewrite tx script) script ∧
      (rewrite tx script).outputs.length = tx.outputs.length := by
  obtain ⟨hheader, before, after, hmap, hbefore⟩ := hold
  obtain ⟨front, back, houtputs, rfl, hback⟩ := List.map_eq_append_iff.1 hmap
  obtain ⟨output, back, rfl, rfl, rfl⟩ := List.map_eq_cons_iff.1 hback
  have hfront : ∀ other ∈ front, ¬header <+: other.script := fun other hother =>
    hbefore _ (List.mem_map_of_mem hother)
  have hnew : (rewrite tx script).outputs =
      front ++ { output with script := script } :: back := by
    rw [rewrite, houtputs]
    exact replaceScript_append hfront hheader
  constructor
  · refine ⟨hscript, front.map TxOut.script, back.map TxOut.script, ?_, hbefore⟩
    rw [hnew, List.map_append, List.map_cons]
  · rw [hnew, houtputs, List.length_append, List.length_append, List.length_cons, List.length_cons]

theorem header_prefix_of_encipher {r : Runestone} {script : Bytes} (h : r.encipher = .ok script) :
    header <+: script := by
  obtain ⟨-, bytes, -, rfl⟩ := encipher_eq_ok_iff.1 h
  exact List.prefix_append _ _

/-- What is well formed can be written, and its edicts are in order already. -/
theorem WellFormed.writable {outputs : Nat} {r : Runestone} (h : r.WellFormed outputs) :
    Writable r ∧ Reaches outputs r ∧ sortEdicts r.edicts = r.edicts := by
  refine ⟨⟨?_, ?_⟩, ⟨?_, ?_⟩, ?_⟩
  · intro edict hedict
    have hamount := h.amounts edict hedict
    have houtput := h.edictOutputs edict hedict
    unfold Fits Varint.InRange maxU128
    omega
  · intro p hp
    have hpointer := h.pointer p hp
    unfold Varint.InRange maxU128
    omega
  · intro edict hedict
    exact (h.edictOutputs edict hedict).2
  · intro p hp
    exact (h.pointer p hp).2
  · exact List.mergeSort_of_pairwise (h.sorted.imp RuneId.le_iff.2)

/-- Whatever a transaction carries, what is deciphered from it is well formed. A runestone without
an etching can be written again, and with the new script in the place of the one that was found, the
transaction carries the same runestone as before. -/
theorem decipher_normal_form {tx : Transaction} {r : Runestone}
    (h : decipher tx = some (.runestone r)) :
    r.WellFormed tx.outputs.length ∧ (r.etching = none → ∃ script, r.encipher = .ok script ∧
      decipher (rewrite tx script) = some (.runestone r)) := by
  have hwell := wellFormed_of_decipher h
  obtain ⟨hwritable, hreaches, hsorted⟩ := hwell.writable
  refine ⟨hwell, ?_⟩
  intro hetching
  obtain ⟨script, hscript⟩ := exists_encipher hetching hwritable
  obtain ⟨old, hold, -⟩ := decipher_eq_runestone_iff.1 h
  obtain ⟨hfirst, hlength⟩ := isFirstScript_rewrite hold (header_prefix_of_encipher hscript)
  refine ⟨script, hscript, ?_⟩
  rw [decipher_of_encipher hscript hfirst (hlength ▸ hreaches), hsorted, ← hetching]

/-- A runestone with a mint, two transfers and a pointer. -/
def scattered : Runestone where
  edicts :=
    [⟨⟨2, 5, by decide, by decide, by decide⟩, 7, 1⟩,
      ⟨⟨2, 8, by decide, by decide, by decide⟩, 300, 2⟩]
  etching := none
  mint := some ⟨2, 5, by decide, by decide, by decide⟩
  pointer := some 0

/-- A transaction that carries it in two pushes, the first of them with a length of its own, behind
an odd tag that means nothing and with a tag in two bytes that would fit in one. -/
def scatteredTx : Transaction where
  version := Transaction.currentVersion
  lockTime := 0
  inputs := []
  outputs :=
    [⟨546, [0x51]⟩,
      ⟨0, [0x6A, 0x5D, 0x4C, 9, 127, 5, 150, 0, 0, 20, 2, 20, 5, 10, 0, 2, 5, 7, 1, 0, 3, 172, 2,
        2]⟩]

theorem decipher_scattered :
    decipher scatteredTx = some (.runestone scattered) ∧
      scattered.WellFormed 2 ∧ ∃ script, scattered.encipher = .ok script ∧
        decipher (rewrite scatteredTx script) = some (.runestone scattered) := by
  have hread : decipher scatteredTx = some (.runestone scattered) := by
    cbv
  obtain ⟨hwell, hwritten⟩ := decipher_normal_form hread
  exact ⟨hread, hwell, hwritten rfl⟩

end Runestone

end Runesmith
