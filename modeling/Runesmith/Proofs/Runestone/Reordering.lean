import Mathlib
import Runesmith.Proofs.Runestone.Decipher

/-!
# Messages that are written down differently

There are many ways to write down one message. What a transaction is deciphered to depends on none
of them:

* of a transaction, only the integers of its message and the number of its outputs count, however
  the integers are pushed and written (`decipher_of_carries`);
* of the integers, only the queues of the tags and what stands behind the pairs count, so that pairs
  of different tags may change places (`ofIntegers_of_rearranged`);
* `decipher_of_rearranged` puts the two together.
-/

namespace Runesmith

/-! ## Fields in another order -/

/-- Fields in another order, those of one tag in the order that they had. -/
structure Fields.Reordered (fields others : Fields) : Prop where
  perm : others.Perm fields
  stable : ∀ tag, others.filter (·.1 = tag) = fields.filter (·.1 = tag)

namespace Fields

variable {fields others : Fields}

/-- The queues are still the same. -/
theorem Reordered.values_eq (h : fields.Reordered others) : others.values = fields.values := by
  funext tag
  rw [values, values, h.stable]

theorem Reordered.ne_body (h : fields.Reordered others)
    (htags : ∀ field ∈ fields, field.1 ≠ Tag.body) : ∀ field ∈ others, field.1 ≠ Tag.body :=
  fun field hfield => htags field (h.perm.mem_iff.1 hfield)

/-- Whether an even tag is left is told by the queues of the even tags. -/
theorem hasEvenTag_congr (h : ∀ tag, tag % 2 = 0 → others.values tag = fields.values tag) :
    others.hasEvenTag = fields.hasEvenTag := by
  have hempty : others.hasEvenTag = false ↔ fields.hasEvenTag = false := by
    rw [hasEvenTag_eq_false_iff, hasEvenTag_eq_false_iff]
    exact forall₂_congr fun tag heven => by rw [h tag heven]
  cases hothers : others.hasEvenTag with
  | false => exact (hempty.1 hothers).symm
  | true =>
    cases hfields : fields.hasEvenTag with
    | false => exact hothers.symm.trans (hempty.2 hfields)
    | true => rfl

theorem values_append (fields others : Fields) (tag : Nat) :
    (fields ++ others).values tag = fields.values tag ++ others.values tag := by
  rw [values, List.filter_append, List.map_append]
  rfl

end Fields

namespace Runestone

/-! ## Integers in another order -/

/-- Pairs in another order, and behind them the same: nothing, a lone integer, or a body. -/
def Rearranged (integers others : List Nat) : Prop :=
  ∃ fields moved : Fields, ∃ tail, fields.Reordered moved ∧ (∀ field ∈ fields, field.1 ≠ Tag.body)
    ∧ integers = fields.integers ++ tail ∧ others = moved.integers ++ tail

/-- The artifact of a message is told by its flaw, its edicts and its queues. -/
theorem ofIntegers_congr {outputs : Nat} {integers others : List Nat} {flaw : Option Flaw}
    {edicts : List Edict} {fields moved : Fields}
    (hmessage : Message.ofIntegers outputs integers = ⟨flaw, edicts, fields⟩)
    (hother : Message.ofIntegers outputs others = ⟨flaw, edicts, moved⟩)
    (hvalues : moved.values = fields.values) :
    ofIntegers outputs others = ofIntegers outputs integers := by
  obtain ⟨left, hleft, hverdict⟩ := exists_verdict hmessage
  obtain ⟨left', hleft', hverdict'⟩ := exists_verdict hother
  dsimp only at hleft hverdict hleft' hverdict'
  rw [hvalues] at hleft' hverdict'
  -- The header is the same, and the same queues are left behind it.
  have heven : left'.hasEvenTag = left.hasEvenTag :=
    Fields.hasEvenTag_congr fun tag _ => congrFun (hleft'.trans hleft.symm) tag
  rw [hverdict, hverdict', verdict, verdict, flaw?, flaw?, heven]

/-- Pairs of different tags may change places. -/
theorem ofIntegers_of_rearranged {outputs : Nat} {integers others : List Nat}
    (h : Rearranged integers others) : ofIntegers outputs others = ofIntegers outputs integers := by
  obtain ⟨fields, moved, tail, hmoved, htags, rfl, rfl⟩ := h
  refine ofIntegers_congr (Message.ofIntegers_append htags tail)
    (Message.ofIntegers_append (hmoved.ne_body htags) tail) ?_
  funext tag
  rw [Fields.values_append, Fields.values_append, hmoved.values_eq]

/-! ## Transactions that carry integers -/

/-- The first script with the header goes on with pushes, and what they push is these integers, each
in any of its forms. -/
def Carries (tx : Transaction) (integers : List Nat) : Prop :=
  ∃ body pieces, IsFirstScript tx (header ++ body) ∧ Script.Pushes body pieces
    ∧ Varint.DenotesAll pieces.flatten integers

/-- What is carried can be found by reading. -/
theorem carries_iff {tx : Transaction} {integers : List Nat} :
    Carries tx integers ↔ ∃ body payload, IsFirstScript tx (header ++ body)
      ∧ payloadOf body = .ok payload ∧ Varint.decodeAll payload = .ok integers := by
  constructor
  · rintro ⟨body, pieces, hfirst, hpushes, hdenotes⟩
    exact ⟨body, _, hfirst, payloadOf_eq_ok_iff.2 ⟨pieces, hpushes, rfl⟩,
      Varint.decodeAll_eq_ok_iff.2 hdenotes⟩
  · rintro ⟨body, payload, hfirst, hpayload, hintegers⟩
    obtain ⟨pieces, hpushes, rfl⟩ := payloadOf_eq_ok_iff.1 hpayload
    exact ⟨body, pieces, hfirst, hpushes, Varint.decodeAll_eq_ok_iff.1 hintegers⟩

/-- Only the integers of a transaction count, and the number of its outputs. -/
theorem decipher_of_carries {tx : Transaction} {integers : List Nat} (h : Carries tx integers) :
    decipher tx = some (ofIntegers tx.outputs.length integers) := by
  obtain ⟨body, payload, hfirst, hpayload, hintegers⟩ := carries_iff.1 h
  rw [decipher, script?_eq_some_iff.2 hfirst, Option.map_some, ofScript, List.drop_left, hpayload]
  dsimp only
  rw [hintegers]

/-- Two transactions with as many outputs carry equal artifacts if their messages are the same but
for the order of pairs of different tags. How the messages are pushed and written, and what else is
in the transactions, makes no difference. -/
theorem decipher_of_rearranged {tx other : Transaction} {integers others : List Nat}
    (hcount : other.outputs.length = tx.outputs.length) (hcarries : Carries tx integers)
    (hother : Carries other others) (h : Rearranged integers others) :
    ∃ artifact, decipher tx = some artifact ∧ decipher other = some artifact := by
  refine ⟨_, decipher_of_carries hcarries, ?_⟩
  rw [decipher_of_carries hother, hcount, ofIntegers_of_rearranged h]

/-! ## Two transactions with one message -/

/-- A mint, a pointer, a tag that means nothing and one transfer. -/
def plainFields : Fields := [(22, 1), (20, 2), (127, 9), (20, 300)]

def movedFields : Fields := [(20, 2), (127, 9), (20, 300), (22, 1)]

def transferTail : List Nat := [0, 2, 300, 7, 1]

/-- They are written in one push, each integer as short as it can be. -/
def plainTx : Transaction where
  version := Transaction.currentVersion
  lockTime := 0
  inputs := []
  outputs := [⟨0, [0x6A, 0x5D, 15, 22, 1, 20, 2, 127, 9, 20, 172, 2, 0, 2, 172, 2, 7, 1]⟩,
    ⟨546, [0x51]⟩]

/-- They are written in another order, in two pushes the first of which ends within an integer, and
the first tag takes three bytes. -/
def movedTx : Transaction where
  version := 1
  lockTime := 9
  inputs := []
  outputs := [⟨546, [0x6A, 0x01, 0x5D]⟩,
    ⟨1, [0x6A, 0x5D, 0x4C, 8, 148, 128, 0, 2, 127, 9, 20, 172, 9, 2, 22, 1, 0, 2, 172, 2, 7, 1]⟩]

theorem decipher_plainTx_movedTx :
    movedTx.outputs.length = plainTx.outputs.length
      ∧ Carries plainTx (plainFields.integers ++ transferTail)
      ∧ Carries movedTx (movedFields.integers ++ transferTail)
      ∧ Rearranged (plainFields.integers ++ transferTail) (movedFields.integers ++ transferTail)
      ∧ ∃ artifact, decipher plainTx = some artifact ∧ decipher movedTx = some artifact := by
  have hplain : Carries plainTx (plainFields.integers ++ transferTail) :=
    carries_iff.2 ⟨_, _, script?_eq_some_iff.1 rfl, by cbv, by cbv⟩
  have hmoved : Carries movedTx (movedFields.integers ++ transferTail) :=
    carries_iff.2 ⟨_, _, script?_eq_some_iff.1 rfl, by cbv, by cbv⟩
  have hstable : ∀ tag, movedFields.filter (·.1 = tag) = plainFields.filter (·.1 = tag) := by
    intro tag
    by_cases hmint : tag = 20
    · subst hmint
      rfl
    by_cases hpointer : tag = 22
    · subst hpointer
      rfl
    · simp [movedFields, plainFields, List.filter_cons, Ne.symm hmint, Ne.symm hpointer]
  have hrearranged : Rearranged (plainFields.integers ++ transferTail)
      (movedFields.integers ++ transferTail) :=
    ⟨plainFields, movedFields, transferTail, ⟨by decide, hstable⟩, by decide, rfl, rfl⟩
  exact ⟨rfl, hplain, hmoved, hrearranged,
    decipher_of_rearranged rfl hplain hmoved hrearranged⟩

end Runestone

end Runesmith
