import Mathlib
import Runesmith.Mint.Connect
import Runesmith.Proofs.Mint.Session

/-!
# Mints at the same time

Several mints of a process may run at the same time, and then their calls are mixed. But whoever
locks coins and funds a transaction holds the lock of its wallet meanwhile.

* `Process` is where the mints of a process are and what they called under locks, `Step` what may
  happen next;
* `Serial` is the invariant: a lock has at most one holder, and what was called under it is one
  whole funding after the other, then what the holder called so far (`serial_of_reaches`);
* `Serial.restores`: mints at the same time restore the locked coins like mints one after the other.
-/

namespace Runesmith.Mint

open NodeWallet

/-! ## Processes -/

/-- Where a mint is: away from the lock of its wallet, or behind it, with what it called there. -/
inductive Place where
  | outside
  | inside (made : History)

/-- The mints of a process, the locks that are taken, and what was called under them, from the first
call on. -/
structure Process (ι : Type) where
  taken : Finset WalletLock
  place : ι → Place
  log : List (WalletLock × Exchange)

/-- All that a mint may call to lock coins and to fund a transaction, whatever it is answered. -/
def IsFunding (context : MintContext) (made : History) : Prop :=
  ∃ (around : Behaviour) (config : RpcConfig) (skeleton : Transaction) (feeRate : FeeRate)
    (world : World), made = Runesmith.made
      ((sharing around (nodeOf context config) context.targetPostage).fundLocked skeleton feeRate)
      world

theorem exists_isFunding (context : MintContext) : ∃ made, IsFunding context made :=
  ⟨_, sharedAnswers true, ⟨.null, .null, .null, .null, false, .null⟩,
    ⟨Transaction.currentVersion, 0, [], []⟩, openRequest.feeRate, ⟨[], none⟩, rfl⟩

namespace Process

section

variable {ι : Type}

/-- Nobody has called anything yet. -/
def initial : Process ι :=
  ⟨∅, fun _ => .outside, []⟩

/-- What was called under a lock. -/
def under (p : Process ι) (lock : WalletLock) : History :=
  (p.log.filter (·.1 = lock)).map (·.2)

end

variable {ι : Type} [DecidableEq ι] (context : ι → MintContext)

/-- A mint takes the lock of its wallet. -/
def enter (p : Process ι) (i : ι) : Process ι :=
  { p with
    taken := insert (lockOf (context i)) p.taken
    place := Function.update p.place i (.inside []) }

/-- A mint that called all this under its lock makes another call. -/
def call (p : Process ι) (i : ι) (made : History) (x : Exchange) : Process ι :=
  { p with
    place := Function.update p.place i (.inside (made ++ [x]))
    log := p.log ++ [(lockOf (context i), x)] }

/-- A mint gives its lock back. -/
def leave (p : Process ι) (i : ι) : Process ι :=
  { p with
    taken := p.taken.erase (lockOf (context i))
    place := Function.update p.place i .outside }

/-- What may happen next: a lock is taken if nobody has it, and given back when its holder has
funded its transaction or failed to. -/
inductive Step (p : Process ι) : Process ι → Prop where
  | enter {i : ι} (hplace : p.place i = .outside) (hfree : lockOf (context i) ∉ p.taken) :
      Step p (p.enter context i)
  | call {i : ι} {made rest : History} {x : Exchange} (hplace : p.place i = .inside made)
      (hgoing : IsFunding (context i) (made ++ x :: rest)) : Step p (p.call context i made x)
  | leave {i : ι} {made : History} (hplace : p.place i = .inside made)
      (hended : IsFunding (context i) made) : Step p (p.leave context i)

/-- The process may come to this. -/
def Reaches (p : Process ι) : Prop :=
  Relation.ReflTransGen (Step context) initial p

variable {context} {p : Process ι} {i j : ι} {made before rest : History}
  {x : Exchange}

/-- Who is behind a lock when one mint has changed its place. -/
theorem update_eq_inside {place : ι → Place} {new : Place} :
    Function.update place i new j = .inside made
      ↔ (j = i ∧ new = .inside made) ∨ (j ≠ i ∧ place j = .inside made) := by
  rw [Function.update_apply]
  by_cases h : j = i <;> simp [h]

theorem inside_enter : (p.enter context i).place j = .inside made
    ↔ (j = i ∧ made = []) ∨ (j ≠ i ∧ p.place j = .inside made) := by
  refine update_eq_inside.trans (or_congr_left (and_congr_right fun _ => ?_))
  rw [Place.inside.injEq, eq_comm]

theorem inside_call : (p.call context i before x).place j = .inside made
    ↔ (j = i ∧ made = before ++ [x]) ∨ (j ≠ i ∧ p.place j = .inside made) := by
  refine update_eq_inside.trans (or_congr_left (and_congr_right fun _ => ?_))
  rw [Place.inside.injEq, eq_comm]

theorem inside_leave : (p.leave context i).place j = .inside made
    ↔ j ≠ i ∧ p.place j = .inside made := by
  refine update_eq_inside.trans (or_iff_right ?_)
  rintro ⟨-, h⟩
  cases h

theorem under_call (lock : WalletLock) : (p.call context i before x).under lock
    = p.under lock ++ if lockOf (context i) = lock then [x] else [] := by
  unfold under call
  rw [List.filter_append, List.map_append]
  by_cases h : lockOf (context i) = lock <;> simp [h]

/-! ## One funding after the other -/

/-- Under each lock, mints fund one after the other. -/
structure Serial (context : ι → MintContext) (p : Process ι)
    (fundings : WalletLock → List History) : Prop where
  /-- The taken locks are those with a holder. -/
  taken_iff : ∀ lock, lock ∈ p.taken
    ↔ ∃ i made, p.place i = .inside made ∧ lockOf (context i) = lock
  /-- No lock has two holders. -/
  alone : ∀ i j made other, p.place i = .inside made → p.place j = .inside other →
    lockOf (context i) = lockOf (context j) → i = j
  /-- What has ended under a lock are whole fundings of mints that share it. -/
  ended : ∀ lock, ∀ made ∈ fundings lock, ∃ i, lockOf (context i) = lock
    ∧ IsFunding (context i) made
  /-- Under a free lock, nothing else was called. -/
  idle : ∀ lock, lock ∉ p.taken → p.under lock = (fundings lock).flatten
  /-- Under a taken one, its holder called what comes last. -/
  busy : ∀ i made, p.place i = .inside made →
    p.under (lockOf (context i)) = (fundings (lockOf (context i))).flatten ++ made
  /-- That is how one more funding starts. -/
  going : ∀ i made, p.place i = .inside made → ∃ rest, IsFunding (context i) (made ++ rest)

omit [DecidableEq ι] in
theorem serial_initial : Serial context initial fun _ => [] where
  taken_iff lock := by simp [initial]
  alone := by simp [initial]
  ended := by simp
  idle := by simp [initial, under]
  busy := by simp [initial]
  going := by simp [initial]

namespace Serial

variable {fundings : WalletLock → List History} (h : Serial context p fundings)

include h

theorem enter (hplace : p.place i = .outside) (hfree : lockOf (context i) ∉ p.taken) :
    Serial context (p.enter context i) fundings := by
  -- A lock that nobody has taken has no holder.
  have hnone (j : ι) (made : History) (hj : p.place j = .inside made) :
      lockOf (context j) ≠ lockOf (context i) := fun hsame =>
    hfree ((h.taken_iff _).2 ⟨j, made, hj, hsame⟩)
  constructor
  case taken_iff =>
    -- The holders are those from before, and this mint at its own lock.
    intro lock
    rw [Process.enter, Finset.mem_insert, h.taken_iff]
    constructor
    · rintro (rfl | ⟨j, made, hj, hlock⟩)
      · exact ⟨i, [], inside_enter.2 (.inl ⟨rfl, rfl⟩), rfl⟩
      · have hji : j ≠ i := fun hji => by rw [hji, hplace] at hj; cases hj
        exact ⟨j, made, inside_enter.2 (.inr ⟨hji, hj⟩), hlock⟩
    · rintro ⟨j, made, hj, hlock⟩
      rcases inside_enter.1 hj with ⟨rfl, -⟩ | ⟨-, hj⟩
      · exact .inl hlock.symm
      · exact .inr ⟨j, made, hj, hlock⟩
  case alone =>
    intro j k first second hj hk hsame
    rcases inside_enter.1 hj with ⟨hji, -⟩ | ⟨-, hj'⟩ <;>
      rcases inside_enter.1 hk with ⟨hki, -⟩ | ⟨-, hk'⟩
    · exact hji.trans hki.symm
    · rw [hji] at hsame
      exact absurd hsame.symm (hnone k second hk')
    · rw [hki] at hsame
      exact absurd hsame (hnone j first hj')
    · exact h.alone j k first second hj' hk' hsame
  case ended => exact h.ended
  case idle =>
    intro lock hlock
    rw [Process.enter, Finset.mem_insert, not_or] at hlock
    exact h.idle lock hlock.2
  case busy =>
    intro j made hj
    rcases inside_enter.1 hj with ⟨rfl, rfl⟩ | ⟨-, hj⟩
    · rw [List.append_nil]
      exact h.idle _ hfree
    · exact h.busy j made hj
  case going =>
    intro j made hj
    rcases inside_enter.1 hj with ⟨-, rfl⟩ | ⟨-, hj⟩
    · exact exists_isFunding (context j)
    · exact h.going j made hj

theorem call (hplace : p.place i = .inside made)
    (hgoing : IsFunding (context i) (made ++ x :: rest)) :
    Serial context (p.call context i made x) fundings := by
  -- The holders are the same.
  have hinside {j : ι} {other : History} (hj : (p.call context i made x).place j = .inside other) :
      ∃ other, p.place j = .inside other := by
    rcases inside_call.1 hj with ⟨rfl, -⟩ | ⟨-, hj⟩
    · exact ⟨made, hplace⟩
    · exact ⟨other, hj⟩
  constructor
  case taken_iff =>
    intro lock
    refine (h.taken_iff lock).trans ?_
    constructor
    · rintro ⟨j, other, hj, hlock⟩
      by_cases hji : j = i
      · exact ⟨j, made ++ [x], inside_call.2 (.inl ⟨hji, rfl⟩), hlock⟩
      · exact ⟨j, other, inside_call.2 (.inr ⟨hji, hj⟩), hlock⟩
    · rintro ⟨j, other, hj, hlock⟩
      obtain ⟨other, hj⟩ := hinside hj
      exact ⟨j, other, hj, hlock⟩
  case alone =>
    intro j k first second hj hk hsame
    obtain ⟨first, hj⟩ := hinside hj
    obtain ⟨second, hk⟩ := hinside hk
    exact h.alone j k first second hj hk hsame
  case ended => exact h.ended
  case idle =>
    intro lock hlock
    have hne : lockOf (context i) ≠ lock := fun hsame =>
      hlock ((h.taken_iff lock).2 ⟨i, made, hplace, hsame⟩)
    rw [under_call, if_neg hne, List.append_nil]
    exact h.idle lock hlock
  case busy =>
    intro j other hj
    rw [under_call]
    -- The call stands under the lock of its caller, and no other holder shares that lock.
    rcases inside_call.1 hj with ⟨rfl, rfl⟩ | ⟨hji, hj⟩
    · rw [if_pos rfl, h.busy j made hplace, List.append_assoc]
    · have hne : lockOf (context i) ≠ lockOf (context j) := fun hsame =>
        hji (h.alone j i other made hj hplace hsame.symm)
      rw [if_neg hne, List.append_nil]
      exact h.busy j other hj
  case going =>
    intro j other hj
    rcases inside_call.1 hj with ⟨rfl, rfl⟩ | ⟨-, hj⟩
    · refine ⟨rest, ?_⟩
      rw [List.append_assoc, List.singleton_append]
      exact hgoing
    · exact h.going j other hj

theorem leave (hplace : p.place i = .inside made) (hended : IsFunding (context i) made) :
    Serial context (p.leave context i) (Function.update fundings (lockOf (context i))
      (fundings (lockOf (context i)) ++ [made])) := by
  -- Nobody else was behind the lock.
  have hne {j : ι} {other : History} (hji : j ≠ i) (hj : p.place j = .inside other) :
      lockOf (context j) ≠ lockOf (context i) := fun hsame =>
    hji (h.alone j i other made hj hplace hsame)
  constructor
  case taken_iff =>
    intro lock
    rw [Process.leave, Finset.mem_erase, h.taken_iff]
    constructor
    · rintro ⟨hlock, j, other, hj, rfl⟩
      have hji : j ≠ i := fun hji => hlock (congrArg (fun k => lockOf (context k)) hji)
      exact ⟨j, other, inside_leave.2 ⟨hji, hj⟩, rfl⟩
    · rintro ⟨j, other, hj, rfl⟩
      obtain ⟨hji, hj⟩ := inside_leave.1 hj
      exact ⟨hne hji hj, j, other, hj, rfl⟩
  case alone =>
    intro j k first second hj hk hsame
    exact h.alone j k first second (inside_leave.1 hj).2 (inside_leave.1 hk).2 hsame
  case ended =>
    -- What was going on is one more funding that has ended.
    intro lock other hother
    rw [Function.update_apply] at hother
    split at hother
    case isTrue hlock =>
      rcases List.mem_append.1 hother with hother | hother
      · exact h.ended lock other (hlock ▸ hother)
      · rw [List.mem_singleton.1 hother]
        exact ⟨i, hlock.symm, hended⟩
    case isFalse => exact h.ended lock other hother
  case idle =>
    intro lock hlock
    rw [Process.leave, Finset.mem_erase, not_and] at hlock
    rw [Function.update_apply]
    split
    case isTrue hsame =>
      rw [List.flatten_append, List.flatten_singleton, hsame]
      exact h.busy i made hplace
    case isFalse hsame => exact h.idle lock (hlock hsame)
  case busy =>
    intro j other hj
    obtain ⟨hji, hj⟩ := inside_leave.1 hj
    rw [Function.update_of_ne (hne hji hj)]
    exact h.busy j other hj
  case going => exact fun j other hj => h.going j other (inside_leave.1 hj).2

theorem step {next : Process ι} (hstep : Step context p next) :
    ∃ fundings, Serial context next fundings := by
  cases hstep with
  | enter hplace hfree => exact ⟨_, h.enter hplace hfree⟩
  | call hplace hgoing => exact ⟨_, h.call hplace hgoing⟩
  | leave hplace hended => exact ⟨_, h.leave hplace hended⟩

end Serial

/-- Whatever the mints of a process do, under each lock they fund one after the other. -/
theorem serial_of_reaches (h : Reaches context p) : ∃ fundings, Serial context p fundings := by
  -- The induction is on the steps of the process; which fundings have ended grows along the way.
  induction h with
  | refl => exact ⟨_, serial_initial⟩
  | tail _ hstep ih =>
    obtain ⟨fundings, hserial⟩ := ih
    exact hserial.step hstep

end Process

/-! ## The locked coins -/

section

variable {reserve : Transaction → Set Coin} {locks : Set Coin}

theorem balanced_of_isFunding {context : MintContext} {made : History}
    (h : IsFunding context made) (hkeeps : KeepsLocks reserve locks made) :
    Balanced reserve locks made := by
  obtain ⟨around, config, skeleton, feeRate, world, rfl⟩ := h
  have hfollows := follows_sharing around (nodeOf context config) context.targetPostage
  exact balanced_of_fundsLocked ((leads_fundLocked hfollows skeleton feeRate).made world).2 hkeeps

/-- The fundings that have ended under a lock treat the locked coins as if nothing else had been
called meanwhile: each of them restores what was locked when it started if it fails, and releases
none of it. -/
theorem Process.Serial.restores {ι : Type} {context : ι → MintContext} {p : Process ι}
    {fundings : WalletLock → List History} (h : Serial context p fundings) {lock : WalletLock}
    (hkeeps : KeepsLocks reserve locks (p.under lock)) {before after : List History}
    {made : History} (hfundings : fundings lock = before ++ made :: after) :
    Restores reserve (lockSetAfter reserve locks before.flatten) made := by
  -- If the lock has a holder, the holder has called the rest.
  have hunder : ∃ rest, p.under lock = (fundings lock).flatten ++ rest := by
    by_cases htaken : lock ∈ p.taken
    · obtain ⟨i, other, hplace, rfl⟩ := (h.taken_iff lock).1 htaken
      exact ⟨other, h.busy i other hplace⟩
    · exact ⟨[], by rw [List.append_nil, h.idle lock htaken]⟩
  obtain ⟨rest, hrest⟩ := hunder
  have hmem : made ∈ fundings lock := by
    rw [hfundings]
    exact List.mem_append_right _ List.mem_cons_self
  obtain ⟨i, -, hfunding⟩ := h.ended lock made hmem
  rw [hrest, hfundings, List.flatten_append, List.flatten_cons, List.append_assoc,
    List.append_assoc] at hkeeps
  exact (balanced_of_isFunding hfunding hkeeps.right.left).restores

end

end Runesmith.Mint
