import Runesmith.Proofs.Results
import Runesmith.Proofs.Rune.Id

/-!
# Ids told by their differences

Ids in order are told by the first of them and the differences behind it. The two cases of a
difference (in one block the position is relative, in a later one it starts anew) are also the two
cases of a step, so that nothing is lost either way.

* `delta_eq_ok_iff`: the difference of two ids is the one step that leads from the one to the other;
* `delta_eq_error_iff`, `next?_eq_none_iff`: which ids have no difference, and which steps lead
  nowhere;
* `walk_eq_some_iff`, `exists_differences_iff`: steps and differences along chains of any length;
* `delta_and_next_exact`: all of it, and the chains from the origin on.

Numbers of any length are steps. An id out of range is refused with an error that shows its numbers,
and a limit that an interpreter sets on showing long ones is left out.
-/

namespace Runesmith.RuneId

/-! ## One step -/

/-- The first of two ids lies before the second. -/
def IsBefore (a b : RuneId) : Prop :=
  a.block < b.block ∨ (a.block = b.block ∧ a.tx < b.tx)

/-- Different steps lead to different places. -/
theorem stepPlace_inj {block tx : Nat} {step other : Nat × Nat}
    (h : stepPlace block tx step.1 step.2 = stepPlace block tx other.1 other.2) : step = other := by
  unfold stepPlace at h
  split at h <;> split at h <;> rw [Prod.mk.injEq] at h <;> apply Prod.ext <;> omega

/-- A step leads to no smaller id. -/
theorem le_of_next? {a b : RuneId} {block tx : Nat} (h : a.next? block tx = some b) :
    a.le b = true :=
  le_of_stepPlace (next?_eq_some_iff.1 h).2

/-- There is no difference exactly if the second id lies before the first. -/
theorem delta_eq_error_iff {a b : RuneId} : a.delta b = .error .unsorted ↔ b.IsBefore a := by
  unfold delta IsBefore
  constructor
  · intro h
    split at h
    · omega
    · split at h
      · split at h
        · omega
        · cases h
      · cases h
  · intro h
    split
    · rfl
    · rw [if_pos (by omega), if_pos (by omega)]

/-- There is a difference exactly if the ids are in order. -/
theorem exists_delta_iff {a b : RuneId} : (∃ step, a.delta b = .ok step) ↔ a.le b = true := by
  constructor
  · intro h
    rcases h with ⟨step, h⟩
    have hnot : ¬b.IsBefore a := by
      rw [← delta_eq_error_iff, h]
      exact nofun
    rw [le_iff]
    unfold IsBefore at hnot
    omega
  · intro h
    rcases exists_delta_of_le h with ⟨block, tx, hdelta, -⟩
    exact ⟨(block, tx), hdelta⟩

/-- The difference of two ids is the step from the one to the other, and there is only one. -/
theorem delta_eq_ok_iff {a b : RuneId} {step : Nat × Nat} :
    a.delta b = .ok step ↔ a.next? step.1 step.2 = some b := by
  constructor
  · intro h
    rcases exists_delta_of_le (exists_delta_iff.1 ⟨step, h⟩) with ⟨block, tx, hdelta, hnext, -⟩
    rw [hdelta] at h
    cases h
    exact hnext
  · intro h
    rcases exists_delta_of_le (le_of_next? h) with ⟨block, tx, hdelta, hnext, -⟩
    -- Both steps lead to the same place, and the block of a place tells how its position counts.
    have hplace := (next?_eq_some_iff.1 hnext).2.symm.trans (next?_eq_some_iff.1 h).2
    have hsame : (block, tx) = step := stepPlace_inj hplace
    rw [hdelta, hsame]

/-- A step leads nowhere exactly if it leads beyond the bounds, or into block zero and there to
another place than the first. -/
theorem next?_eq_none_iff {a : RuneId} {block tx : Nat} :
    a.next? block tx = none ↔
      maxU64 < (stepPlace a.block a.tx block tx).1 ∨ maxU32 < (stepPlace a.block a.tx block tx).2
        ∨ ((stepPlace a.block a.tx block tx).1 = 0 ∧ 0 < (stepPlace a.block a.tx block tx).2) := by
  have hplace : (∃ id, a.next? block tx = some id) ↔
      IsPlace (stepPlace a.block a.tx block tx).1 (stepPlace a.block a.tx block tx).2 := by
    constructor
    · intro h
      rcases h with ⟨id, h⟩
      exact (next?_eq_some_iff.1 h).1
    · intro h
      exact ⟨⟨_, _, h.1, h.2.1, h.2.2⟩, next?_eq_some_iff.2 ⟨h, rfl⟩⟩
  rw [← Option.not_isSome_iff_eq_none, Option.isSome_iff_exists, hplace, IsPlace]
  omega

/-! ## Chains -/

/-- Ids in order. -/
def InOrder (ids : List RuneId) : Prop :=
  ids.Pairwise fun a b => a.le b = true

/-- The differences of ids, each to the id in front of it. -/
def differences : RuneId → List RuneId → Except Unsorted (List (Nat × Nat))
  | _, [] => .ok []
  | a, b :: rest => do
    let step ← a.delta b
    let more ← differences b rest
    return step :: more

/-- The ids that steps lead to, one after the other. -/
def walk : RuneId → List (Nat × Nat) → Option (List RuneId)
  | _, [] => some []
  | a, step :: rest => do
    let b ← a.next? step.1 step.2
    let more ← walk b rest
    return b :: more

theorem differences_cons_eq_ok_iff {a b : RuneId} {rest : List RuneId}
    {steps : List (Nat × Nat)} :
    differences a (b :: rest) = .ok steps ↔
      ∃ step more, a.delta b = .ok step ∧ differences b rest = .ok more ∧ steps = step :: more := by
  rw [differences]
  constructor
  · intro h
    rcases exists_ok_of_bind h with ⟨step, hstep, h⟩
    rcases exists_ok_of_bind h with ⟨more, hmore, h⟩
    cases h
    exact ⟨step, more, hstep, hmore, rfl⟩
  · intro h
    rcases h with ⟨step, more, hstep, hmore, rfl⟩
    rw [hstep, hmore]
    rfl

theorem walk_cons_eq_some_iff {a : RuneId} {step : Nat × Nat} {rest : List (Nat × Nat)}
    {ids : List RuneId} :
    walk a (step :: rest) = some ids ↔
      ∃ b more, a.next? step.1 step.2 = some b ∧ walk b rest = some more ∧ ids = b :: more := by
  rw [walk]
  simp only [Option.bind_eq_bind, Option.bind_eq_some_iff, Option.pure_def, Option.some.injEq]
  constructor
  · intro h
    rcases h with ⟨b, hb, more, hmore, rfl⟩
    exact ⟨b, more, hb, hmore, rfl⟩
  · intro h
    rcases h with ⟨b, more, hb, hmore, rfl⟩
    exact ⟨b, hb, more, hmore, rfl⟩

/-- Steps lead to ids exactly if they are their differences. -/
theorem walk_eq_some_iff {a : RuneId} {steps : List (Nat × Nat)} {ids : List RuneId} :
    walk a steps = some ids ↔ differences a ids = .ok steps := by
  -- The id in front of the chain varies: each step starts from the id that the one before leads to.
  induction steps generalizing a ids with
  | nil =>
    cases ids with
    | nil => exact iff_of_true rfl rfl
    | cons b rest =>
      rw [differences_cons_eq_ok_iff]
      constructor
      · intro h
        cases h
      · intro h
        rcases h with ⟨step, more, -, -, hsteps⟩
        cases hsteps
  | cons step rest ih =>
    rw [walk_cons_eq_some_iff]
    cases ids with
    | nil =>
      constructor
      · intro h
        rcases h with ⟨b, more, -, -, hids⟩
        cases hids
      · intro h
        cases h
    | cons b more =>
      rw [differences_cons_eq_ok_iff]
      constructor
      · intro h
        rcases h with ⟨b, more, hb, hmore, hids⟩
        cases hids
        exact ⟨step, rest, delta_eq_ok_iff.2 hb, ih.1 hmore, rfl⟩
      · intro h
        rcases h with ⟨step, rest, hstep, hrest, hsteps⟩
        cases hsteps
        exact ⟨b, more, delta_eq_ok_iff.1 hstep, ih.2 hrest, rfl⟩

/-- Ids have differences exactly if they are in order. -/
theorem exists_differences_iff {a : RuneId} {ids : List RuneId} :
    (∃ steps, differences a ids = .ok steps) ↔ InOrder (a :: ids) := by
  induction ids generalizing a with
  | nil => exact iff_of_true ⟨[], rfl⟩ (List.pairwise_singleton _ a)
  | cons b rest ih =>
    constructor
    · intro h
      rcases h with ⟨steps, h⟩
      rcases differences_cons_eq_ok_iff.1 h with ⟨step, more, hstep, hmore, -⟩
      have hle : a.le b = true := exists_delta_iff.1 ⟨step, hstep⟩
      have horder : InOrder (b :: rest) := ih.1 ⟨more, hmore⟩
      apply List.pairwise_cons.2
      constructor
      · intro c hc
        rcases List.mem_cons.1 hc with rfl | hc
        · exact hle
        · exact le_trans hle ((List.pairwise_cons.1 horder).1 c hc)
      · exact horder
    · intro h
      rcases List.pairwise_cons.1 h with ⟨hfirst, horder⟩
      rcases exists_delta_iff.2 (hfirst b List.mem_cons_self) with ⟨step, hstep⟩
      rcases ih.2 horder with ⟨more, hmore⟩
      exact ⟨step :: more, differences_cons_eq_ok_iff.2 ⟨step, more, hstep, hmore, rfl⟩⟩

/-- Differences of ids are exact both ways. Ids in order have a difference, which is a step from the
one to the other, and ids in the wrong order have none; a step that leads to an id leads to no
smaller one, and is the difference to it; a step that leads to no id leads beyond the bounds or
into block zero. Chained from the origin on, the differences of ids in order lead to these ids
again, and whatever steps lead to is in order. -/
theorem delta_and_next_exact :
    (∀ a b : RuneId,
      (a.le b = true ↔ ∃ step, a.delta b = .ok step ∧ a.next? step.1 step.2 = some b)
        ∧ (b.IsBefore a ↔ a.delta b = .error .unsorted))
    ∧ (∀ (a c : RuneId) (block tx : Nat),
      a.next? block tx = some c ↔ a.le c = true ∧ a.delta c = .ok (block, tx))
    ∧ (∀ (a : RuneId) (block tx : Nat), a.next? block tx = none ↔
      maxU64 < (stepPlace a.block a.tx block tx).1 ∨ maxU32 < (stepPlace a.block a.tx block tx).2
        ∨ ((stepPlace a.block a.tx block tx).1 = 0 ∧ 0 < (stepPlace a.block a.tx block tx).2))
    ∧ (∀ ids : List RuneId, InOrder ids ↔
      ∃ steps, differences origin ids = .ok steps ∧ walk origin steps = some ids)
    ∧ (∀ (a : RuneId) (steps : List (Nat × Nat)) (ids : List RuneId),
      walk a steps = some ids ↔ InOrder (a :: ids) ∧ differences a ids = .ok steps) := by
  refine ⟨?one, ?step, ?nowhere, ?fromOrigin, ?chain⟩
  case one =>
    intro a b
    constructor
    · rw [← exists_delta_iff]
      simp only [delta_eq_ok_iff, and_self]
    · exact delta_eq_error_iff.symm
  case step =>
    intro a c block tx
    constructor
    · intro h
      exact ⟨le_of_next? h, delta_eq_ok_iff.2 h⟩
    · intro h
      exact delta_eq_ok_iff.1 h.2
  case nowhere =>
    intro a block tx
    exact next?_eq_none_iff
  case fromOrigin =>
    intro ids
    -- Every id lies behind the origin, so that ids in order stay so with the origin in front.
    have horigin : InOrder ids ↔ InOrder (origin :: ids) := by
      unfold InOrder
      rw [List.pairwise_cons]
      constructor
      · intro h
        exact ⟨fun id _ => origin_le id, h⟩
      · intro h
        exact h.2
    rw [horigin, ← exists_differences_iff]
    simp only [walk_eq_some_iff, and_self]
  case chain =>
    intro a steps ids
    rw [walk_eq_some_iff]
    constructor
    · intro h
      exact ⟨exists_differences_iff.1 ⟨steps, h⟩, h⟩
    · intro h
      exact h.2

/-- In one block the position counts from the one before, in a later block from zero. -/
example : (walk origin [(840000, 3), (0, 2), (1, 7)]).map (·.map fun id => (id.block, id.tx)) =
    some [(840000, 3), (840000, 5), (840001, 7)] := by decide

end Runesmith.RuneId
