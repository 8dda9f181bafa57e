import Runesmith.Proofs.Observation

/-!
# Waiting for the index

A mint waits until the index has more blocks than the height of the chain. The index may answer with
any sequence of numbers, smaller ones after larger ones too, and may fail at any time.

* `replying` is an index that answers from a sequence, `rounds` the calls of the first polls;
* `Waiting` holds before every poll, and `Waiting.settles` or `Waiting.next` after it;
* `Outcome` says how polling ends, and `Waiting.outcome` that it ends so;
* `waits_waitForSync` tells from this when waiting returns, gives up or fails, and what it calls.
-/

namespace Runesmith.Index

/-! ## An index that answers in turn -/

/-- How often an index was asked for its number of blocks. -/
def polls (history : History) : Nat :=
  (history.of .blockCount).length

/-- Surroundings in which the chain has some height and the polls of the index are answered one
after another from a sequence. -/
def replying (height : Int) (answers : Nat → Except Failure Int) (others : Behaviour) : Behaviour :=
  fun history call => match call with
    | .chainHeight => .ok height
    | .blockCount => answers (polls history)
    | call => others history call

/-- An index is behind if it has no more blocks than the height of the chain. -/
def isBehind (height : Int) : Except Failure Int → Bool
  | .ok count => count ≤ height
  | .error _ => false

/-- What was answered last after so many polls, all of which gave a number. -/
def lastCount (answers : Nat → Except Failure Int) : Nat → Option Int
  | 0 => none
  | before + 1 => (answers before).toOption

theorem isBehind_iff {height : Int} {answer : Except Failure Int} :
    isBehind height answer = true ↔ ∃ count, answer = .ok count ∧ count ≤ height := by
  cases answer with
  | error e => simp [isBehind]
  | ok count => simp [isBehind]

section

variable (height : Int) (answers : Nat → Except Failure Int) (seconds : Binary64)

/-- The calls of one poll: the question, and a pause if the index is behind. -/
def round (i : Nat) : History :=
  ⟨.blockCount, answers i⟩ ::
    if isBehind height (answers i) then [⟨.sleep seconds, ()⟩] else []

/-- The calls of the first polls. -/
def rounds (count : Nat) : History :=
  (List.range count).flatMap (round height answers seconds)

theorem rounds_succ (count : Nat) : rounds height answers seconds (count + 1)
    = rounds height answers seconds count ++ round height answers seconds count := by
  simp [rounds, List.range_succ]

theorem blockCount_round (i : Nat) :
    (round height answers seconds i).of .blockCount = [⟨.blockCount, answers i⟩] := by
  cases hbehind : isBehind height (answers i) <;> simp [round, hbehind, History.of, Call.kind]

theorem chainHeight_round (i : Nat) : (round height answers seconds i).of .chainHeight = [] := by
  cases hbehind : isBehind height (answers i) <;> simp [round, hbehind, History.of, Call.kind]

theorem chainHeight_rounds (count : Nat) :
    (rounds height answers seconds count).of .chainHeight = [] := by
  induction count with
  | zero => rfl
  | succ count ih => rw [rounds_succ, History.of_append, ih, chainHeight_round, List.append_nil]

/-- Everything that is called while an index is asked so many times. -/
def calls (count : Nat) : History :=
  ⟨.chainHeight, .ok height⟩ :: rounds height answers seconds count

theorem calls_succ (count : Nat) : calls height answers seconds (count + 1)
    = calls height answers seconds count ++ round height answers seconds count := by
  rw [calls, rounds_succ, calls, List.cons_append]

theorem chainHeight_calls (count : Nat) :
    (calls height answers seconds count).of .chainHeight = [⟨.chainHeight, .ok height⟩] :=
  congrArg (List.cons _) (chainHeight_rounds height answers seconds count)

@[simp]
theorem polls_calls (count : Nat) : polls (calls height answers seconds count) = count := by
  induction count with
  | zero => rfl
  | succ count ih =>
    rw [calls_succ, polls, History.of_append, List.length_append, blockCount_round]
    exact congrArg (· + 1) ih

end

/-! ## Polling -/

section

variable {height : Int} {answers : Nat → Except Failure Int} (others : Behaviour)
  {seconds : Binary64} {attempts done left : Nat} {last : Option Int} {world : World}

/-- Polling in surroundings that reply. -/
def polling (height : Int) (answers : Nat → Except Failure Int) (others : Behaviour)
    (seconds : Binary64) (attempts : Nat) : Option Int → Nat → Action Observed Int :=
  poll (replying height answers others).index
    ((replying height answers others).transport.sleep seconds) attempts height

/-- What holds before each poll: all polls so far found the index behind, and nothing but them and
the pauses behind them was called since the height of the chain was read. -/
structure Waiting (height : Int) (answers : Nat → Except Failure Int) (seconds : Binary64)
    (attempts done left : Nat) (last : Option Int) (world : World) : Prop where
  budget : done + left = attempts
  behind : ∀ i < done, isBehind height (answers i) = true
  last_eq : last = lastCount answers done
  history_eq : world.history = calls height answers seconds done

/-- How polling ends, and after how many polls: with the first answer that does not find the index
behind, or without one. -/
inductive Outcome (height : Int) (answers : Nat → Except Failure Int) (attempts : Nat) :
    Nat → Except Failure Int → Prop where
  | settled (i : Nat) (hi : i < attempts) (hbehind : ∀ j < i, isBehind height (answers j) = true)
      (hanswer : isBehind height (answers i) = false) :
      Outcome height answers attempts (i + 1) (answers i)
  | gaveUp (hbehind : ∀ i < attempts, isBehind height (answers i) = true) :
      Outcome height answers attempts attempts
        (.error (.notSynced attempts (lastCount answers attempts) height))

/-- The next poll is answered with what is next in the sequence. -/
theorem Waiting.answered (h : Waiting height answers seconds attempts done left last world) :
    (replying height answers others).index.blockCount world
      = (answers done, ⟨world.history ++ [⟨.blockCount, answers done⟩], world.memory⟩) := by
  have hpolls : polls world.history = done := by rw [h.history_eq, polls_calls]
  subst hpolls
  rfl

/-- An answer that does not find the index behind is the result. -/
theorem Waiting.settles
    (h : Waiting height answers seconds attempts done (left + 1) last world)
    (hanswer : isBehind height (answers done) = false) :
    polling height answers others seconds attempts last (left + 1) world
      = (answers done, ⟨calls height answers seconds (done + 1), world.memory⟩) := by
  have hround : calls height answers seconds (done + 1)
      = world.history ++ [⟨.blockCount, answers done⟩] := by
    rw [calls_succ, ← h.history_eq, round, if_neg (by simp [hanswer])]
  rw [polling, poll, bind_apply, h.answered others, hround]
  rcases hcount : answers done with e | count
  · rfl
  · have hpast : height < count := by
      rw [hcount] at hanswer
      simpa [isBehind] using hanswer
    show (if height < count then pure count else _ : Action Observed Int) _ = _
    rw [if_pos hpast]
    rfl

/-- An answer that finds the index behind is followed by a pause and the rest of the polls. -/
theorem Waiting.next (h : Waiting height answers seconds attempts done (left + 1) last world)
    (hanswer : isBehind height (answers done) = true) :
    ∃ last' after, Waiting height answers seconds attempts (done + 1) left last' after
      ∧ polling height answers others seconds attempts last (left + 1) world
        = polling height answers others seconds attempts last' left after := by
  rcases isBehind_iff.1 hanswer with ⟨count, hcount, hle⟩
  refine ⟨some count, ⟨calls height answers seconds (done + 1), world.memory⟩, ?_, ?_⟩
  · constructor
    case budget =>
      have := h.budget
      omega
    case behind =>
      intro i hi
      rcases Nat.lt_succ_iff_lt_or_eq.1 hi with hi | rfl
      · exact h.behind i hi
      · exact hanswer
    case last_eq => rw [lastCount, hcount]; rfl
    case history_eq => rfl
  · have hround : calls height answers seconds (done + 1)
        = world.history ++ [⟨.blockCount, .ok count⟩] ++ [⟨.sleep seconds, ()⟩] := by
      rw [calls_succ, ← h.history_eq, round, if_pos hanswer, hcount, List.append_assoc]
      rfl
    rw [polling, poll, bind_apply, h.answered others, hcount, hround]
    show (if height < count then pure count else _ : Action Observed Int) _ = _
    rw [if_neg (Int.not_lt.2 hle)]
    rfl

/-- Polling ends with the first answer that does not find the index behind, or gives up, and has
asked for no more than it took. -/
theorem Waiting.outcome (h : Waiting height answers seconds attempts done left last world) :
    ∃ count, Outcome height answers attempts count
        (polling height answers others seconds attempts last left world).1
      ∧ (polling height answers others seconds attempts last left world).2.history
        = calls height answers seconds count := by
  -- The polls that are left get fewer; `Waiting` holds again before each of them.
  induction left generalizing done last world with
  | zero =>
    have hdone : done = attempts := h.budget
    subst hdone
    refine ⟨done, ?_, h.history_eq⟩
    rw [h.last_eq]
    exact .gaveUp h.behind
  | succ left ih =>
    have hdone : done < attempts := by
      have := h.budget
      omega
    cases hanswer : isBehind height (answers done) with
    | false =>
      rw [h.settles others hanswer]
      exact ⟨done + 1, .settled done hdone h.behind hanswer, rfl⟩
    | true =>
      rcases h.next others hanswer with ⟨last', after, hnext, heq⟩
      rw [heq]
      exact ih hnext

end

/-! ## Waiting -/

/-- What is called while waiting and how this ends, if the polls are answered from a sequence. -/
structure Waits (height : Int) (answers : Nat → Except Failure Int) (seconds : Binary64)
    (attempts : Nat) (made : History) (result : Except Failure Int) : Prop where
  /-- The height of the chain is read, then come the polls, with pauses while the index lags. -/
  made_eq : made = ⟨.chainHeight, .ok height⟩ :: rounds height answers seconds (polls made)
  chainHeight_once : made.of .chainHeight = [⟨.chainHeight, .ok height⟩]
  polls_le : polls made ≤ attempts
  /-- The first number of blocks above the height is returned, and no other. -/
  ok_iff : ∀ count, result = .ok count ↔ ∃ i < attempts,
    (∀ j < i, isBehind height (answers j) = true) ∧ answers i = .ok count ∧ height < count
  polls_of_synced : ∀ i < attempts, ∀ count, (∀ j < i, isBehind height (answers j) = true) →
    answers i = .ok count → height < count → polls made = i + 1
  /-- Waiting gives up, not for an error of a poll, exactly if all answers find the index behind. -/
  gaveUp_iff : (result = .error (.notSynced attempts (lastCount answers (polls made)) height)
      ∧ ∀ i < polls made, ∀ e, answers i ≠ .error e)
    ↔ ∀ i < attempts, isBehind height (answers i) = true
  polls_of_behind : (∀ i < attempts, isBehind height (answers i) = true) → polls made = attempts
  /-- The first poll that fails is the last one, and its error the result. -/
  fails : ∀ i < attempts, ∀ e, (∀ j < i, isBehind height (answers j) = true) →
    answers i = .error e → result = .error e ∧ polls made = i + 1

section

variable {height : Int} {answers : Nat → Except Failure Int} {attempts count : Nat}
  {result : Except Failure Int}

/-- No more than one answer is the first that does not find the index behind. -/
theorem Outcome.unique (h : Outcome height answers attempts count result) {i : Nat}
    (hi : i < attempts) (hbehind : ∀ j < i, isBehind height (answers j) = true)
    (hanswer : isBehind height (answers i) = false) : count = i + 1 ∧ result = answers i := by
  cases h with
  | settled first _ hfirst hsettled =>
    have heq : first = i := by
      rcases Nat.lt_trichotomy first i with hlt | heq | hgt
      · exact absurd (hbehind first hlt) (by simp [hsettled])
      · exact heq
      · exact absurd (hfirst i hgt) (by simp [hanswer])
    subst heq
    exact ⟨rfl, rfl⟩
  | gaveUp hall => exact absurd (hall i hi) (by simp [hanswer])

/-- What follows from how polling ends. -/
theorem Outcome.waits (h : Outcome height answers attempts count result) (seconds : Binary64) :
    Waits height answers seconds attempts (calls height answers seconds count) result := by
  have hpast : ∀ {answer : Except Failure Int} {number : Int}, answer = .ok number →
      height < number → isBehind height answer = false := by
    rintro _ number rfl hlt
    simpa [isBehind] using hlt
  constructor
  case made_eq => rw [polls_calls, calls]
  case chainHeight_once => exact chainHeight_calls height answers seconds count
  case polls_le =>
    rw [polls_calls]
    cases h with
    | settled i hi => exact hi
    | gaveUp => exact Nat.le_refl _
  case ok_iff =>
    intro number
    constructor
    · intro hok
      cases h with
      | settled i hi hbehind hanswer =>
        refine ⟨i, hi, hbehind, hok, ?_⟩
        rw [hok] at hanswer
        simpa [isBehind] using hanswer
      | gaveUp => cases hok
    · rintro ⟨i, hi, hbehind, hok, hlt⟩
      rw [(h.unique hi hbehind (hpast hok hlt)).2, hok]
  case polls_of_synced =>
    intro i hi number hbehind hok hlt
    rw [polls_calls]
    exact (h.unique hi hbehind (hpast hok hlt)).1
  case gaveUp_iff =>
    rw [polls_calls]
    constructor
    · rintro ⟨herror, hnone⟩
      cases h with
      | settled i => exact absurd herror (hnone i (Nat.lt_succ_self i) _)
      | gaveUp hall => exact hall
    · intro hall
      cases h with
      | settled i hi _ hanswer => exact absurd (hall i hi) (by simp [hanswer])
      | gaveUp =>
        refine ⟨rfl, ?_⟩
        intro i hi e he
        have hbehind := hall i hi
        rw [he] at hbehind
        cases hbehind
  case polls_of_behind =>
    intro hall
    rw [polls_calls]
    cases h with
    | settled i hi _ hanswer => exact absurd (hall i hi) (by simp [hanswer])
    | gaveUp => rfl
  case fails =>
    intro i hi e hbehind he
    rw [polls_calls, ← he]
    exact (h.unique hi hbehind (by rw [he]; rfl)).symm

end

/-- Waiting reads the height of the chain once and asks the index no more often than it may. It ends
with the first number of blocks above the height, or with the first error of a poll, and asks no
more then. It gives up exactly if no answer was enough. -/
theorem waits_waitForSync (height : Int) (answers : Nat → Except Failure Int) (others : Behaviour)
    (seconds : Binary64) (attempts : Nat) (memory : NetworkMemory) :
    let around := replying height answers others
    let waiting := waitForSync around.index (around.transport.sleep seconds) attempts
    Waits height answers seconds attempts (made waiting ⟨[], memory⟩) (waiting ⟨[], memory⟩).1 := by
  intro around waiting
  -- The first poll comes right behind the height of the chain.
  let start : World := ⟨calls height answers seconds 0, memory⟩
  have hstart : Waiting height answers seconds attempts 0 attempts none start :=
    ⟨Nat.zero_add _, nofun, rfl, rfl⟩
  have hrun : waiting ⟨[], memory⟩
      = polling height answers others seconds attempts none attempts start :=
    rfl
  rcases hstart.outcome others with ⟨count, houtcome, hhistory⟩
  rw [made, hrun, hhistory]
  exact houtcome.waits seconds

/-- As many blocks as the height are a block too few. -/
example (others : Behaviour) (seconds : Binary64) (memory : NetworkMemory) :
    let around := replying 840100 (fun i => .ok (840099 + i)) others
    let run := waitForSync around.index (around.transport.sleep seconds) 5 ⟨[], memory⟩
    run.1 = .ok 840101 ∧ polls run.2.history = 3 :=
  ⟨rfl, rfl⟩

end Runesmith.Index
