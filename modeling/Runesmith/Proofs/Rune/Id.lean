import Runesmith.Rune.Id

/-!
# Rune ids and their differences

Ids are ordered first by block and then by position. A step leads from one id to a later one, and
the difference of two ids is the step between them.
-/

namespace Runesmith.RuneId

/-! ## Places -/

/-- The places that an etching may have. -/
def IsPlace (block tx : Nat) : Prop :=
  block ≤ maxU64 ∧ tx ≤ maxU32 ∧ (block = 0 → tx = 0)

theorem isPlace (id : RuneId) : IsPlace id.block id.tx :=
  ⟨id.block_le, id.tx_le, id.genesis⟩

/-- Two numbers make an id exactly if they are a place. -/
theorem ofInts?_eq_some_iff {block tx : Nat} {id : RuneId} :
    ofInts? block tx = some id ↔ IsPlace block tx ∧ id.block = block ∧ id.tx = tx := by
  unfold ofInts? ofInts IsPlace
  constructor
  · intro h
    split at h
    · split at h
      · split at h
        · rename_i hb ht hg
          simp only [Except.toOption, Option.some.injEq] at h
          subst h
          simp only [Int.toNat_natCast] at hg
          exact ⟨⟨by omega, by omega, hg⟩, Int.toNat_natCast _, Int.toNat_natCast _⟩
        · simp [Except.toOption] at h
      · simp [Except.toOption] at h
    · simp [Except.toOption] at h
  · rintro ⟨⟨hb, ht, hg⟩, rfl, rfl⟩
    rw [dif_pos (by omega), dif_pos (by omega), dif_pos (by simpa using hg)]
    simp [Except.toOption]

theorem ofInts?_self (id : RuneId) : ofInts? id.block id.tx = some id :=
  ofInts?_eq_some_iff.2 ⟨id.isPlace, rfl, rfl⟩

/-- Two numbers make no id exactly if they are no place. -/
theorem isSome_ofInts? {block tx : Nat} : (ofInts? block tx).isSome ↔ IsPlace block tx := by
  constructor
  · intro h
    rcases Option.isSome_iff_exists.1 h with ⟨id, hid⟩
    exact (ofInts?_eq_some_iff.1 hid).1
  · intro h
    have hid : ofInts? block tx = some ⟨block, tx, h.1, h.2.1, h.2.2⟩ :=
      ofInts?_eq_some_iff.2 ⟨h, rfl, rfl⟩
    rw [hid]
    rfl

/-! ## Order -/

theorem le_iff {a b : RuneId} :
    a.le b = true ↔ a.block < b.block ∨ (a.block = b.block ∧ a.tx ≤ b.tx) := by
  simp [le]

theorem origin_le (a : RuneId) : origin.le a = true := by
  rw [le_iff]
  show 0 < a.block ∨ (0 = a.block ∧ 0 ≤ a.tx)
  omega

theorem le_refl (a : RuneId) : a.le a = true := by
  rw [le_iff]
  omega

theorem le_trans {a b c : RuneId} (hab : a.le b = true) (hbc : b.le c = true) :
    a.le c = true := by
  rw [le_iff] at *
  omega

theorem le_total (a b : RuneId) : (a.le b || b.le a) = true := by
  rw [Bool.or_eq_true, le_iff, le_iff]
  omega

/-! ## Steps -/

/-- Where a step leads: inside one block the position is relative, in a later one it starts anew. -/
def stepPlace (block tx blockStep txStep : Nat) : Nat × Nat :=
  if blockStep = 0 then (block, tx + txStep) else (block + blockStep, txStep)

/-- A step leads to an id exactly if it leads to a place. -/
theorem next?_eq_some_iff {a id : RuneId} {blockStep txStep : Nat} :
    a.next? blockStep txStep = some id ↔
      IsPlace (stepPlace a.block a.tx blockStep txStep).1
          (stepPlace a.block a.tx blockStep txStep).2
        ∧ (id.block, id.tx) = stepPlace a.block a.tx blockStep txStep := by
  unfold next? stepPlace
  by_cases hstep : blockStep = 0
  · rw [if_pos (by omega), if_pos hstep]
    have := @ofInts?_eq_some_iff a.block (a.tx + txStep) id
    simpa using this
  · rw [if_neg (by omega), if_neg hstep]
    have := @ofInts?_eq_some_iff (a.block + blockStep) txStep id
    simpa using this

/-- A step leads to no smaller id. -/
theorem le_of_stepPlace {a id : RuneId} {block tx : Nat}
    (h : (id.block, id.tx) = stepPlace a.block a.tx block tx) : a.le id = true := by
  rw [le_iff]
  unfold stepPlace at h
  split at h <;> rw [Prod.mk.injEq] at h <;> omega

/-- The difference of two ids in order is the step from one to the other. -/
theorem exists_delta_of_le {a b : RuneId} (h : a.le b = true) :
    ∃ blockStep txStep : Nat, a.delta b = .ok (blockStep, txStep)
      ∧ a.next? blockStep txStep = some b
      ∧ blockStep ≤ maxU64 ∧ txStep ≤ maxU32 := by
  have hblock := b.block_le
  have htx := b.tx_le
  rw [le_iff] at h
  unfold delta
  -- In a later block the position starts anew, inside one block it counts from the id before.
  rcases h with h | ⟨hsame, h⟩
  · refine ⟨b.block - a.block, b.tx, ?_, ?_, by omega, htx⟩
    · rw [if_neg (by omega), if_neg (by omega)]
    · rw [next?_eq_some_iff, stepPlace, if_neg (by omega)]
      have hsum : a.block + (b.block - a.block) = b.block := by omega
      rw [hsum]
      exact ⟨b.isPlace, rfl⟩
  · refine ⟨0, b.tx - a.tx, ?_, ?_, by omega, by omega⟩
    · rw [if_neg (by omega), if_pos hsame.symm, if_neg (by omega)]
    · rw [next?_eq_some_iff, stepPlace, if_pos rfl]
      have hsum : a.tx + (b.tx - a.tx) = b.tx := by omega
      rw [hsum, hsame]
      exact ⟨b.isPlace, rfl⟩

end Runesmith.RuneId
