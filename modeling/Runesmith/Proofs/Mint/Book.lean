import Runesmith.Mint

/-!
# The book of a mint

A mint can be told to note in a book which stage it has reached, and to look only when it fails
which stage stands behind that one. Then no step knows which stage it leads to. Here it is shown
that this comes to the same as naming the stage at every step.

* `noting` does a step and notes its stage, `settle` makes a result of the run and its book;
* `settle_notedRun`, `settle_notedPrepare`: a failure is told with the stage behind the last one
  that was reached.
-/

namespace Runesmith

namespace Stage

/-- The stages in the order in which a mint goes through them, and at the end the stage of a mint
that has failed. -/
def order : List Stage :=
  [.requested, .indexChecked, .eligible, .encoded, .skeletonBuilt, .funded, .signed, .broadcast,
    .reported, .failed]

/-- The stage that stands behind a stage. -/
def successor (stage : Stage) : Stage :=
  order.getD (order.idxOf stage + 1) .failed

/-- The book is closed with the stage of a failure, or with the last stage of the run. -/
def closing {α : Type} (last : Stage) : Except Stopped α → Stage
  | .ok _ => last
  | .error _ => .failed

end Stage

namespace Mint

section

variable {m : Type → Type} [Monad m] {α β : Type}

/-- An action with a book beside it. -/
abbrev Noted (m : Type → Type) (α : Type) : Type :=
  ExceptT Failure (StateT Stage m) α

/-- Does an action and then, unless it failed, notes a stage. -/
def noting (stage : Stage) (action : Action m α) : Noted m α := do
  let x ← (ExceptT.mk (StateT.lift action.run) : Noted m α)
  set stage
  return x

/-- What comes of a run with a book, and what the book says at the end. A failure is told with the
stage behind the one that was noted last. -/
def settle (reached : Stage) (noted : Noted m α) : m (Except Stopped α × Stage) := do
  let (result, last) ← noted.run.run reached
  match result with
  | .ok x => return (.ok x, last)
  | .error e => return (.error ⟨last.successor, e⟩, .failed)

variable (self : Mint m)

/-- Everything up to a funded transaction, with a book. -/
def notedFund (request : MintRequest) : Noted m Funded := do
  noting .indexChecked self.checkIndex
  let (id, pile) ← noting .eligible (self.eligible request.rune)
  let (runestone, script) ←
    noting .encoded (Action.ofExcept .runestone (Runestone.encipherMint id))
  let skeleton ← noting .skeletonBuilt (self.buildSkeleton request script)
  let transaction ← noting .funded (self.fundLocked skeleton request.feeRate)
  return ⟨runestone, pile, transaction⟩

/-- Mints a rune, with a book. -/
def notedRun (request : MintRequest) : Noted m Result := do
  let funded ← self.notedFund request
  let signed ← noting .signed (self.node.sign funded.transaction)
  let mint ← noting .broadcast (self.broadcastChecked funded.runestone signed)
  set Stage.reported
  return ⟨request.rune, funded.pile, mint⟩

/-- Goes as far as a funded transaction, with a book. -/
def notedPrepare (request : MintRequest) : Noted m Prepared := do
  let funded ← self.notedFund request
  return ⟨request.rune, funded.pile, funded.transaction⟩

end

/-! ## The book and the stages that are named -/

section

variable {m : Type → Type} [Monad m] [LawfulMonad m] {α β : Type}

@[simp] theorem run_set (reached stage : Stage) :
    (ExceptT.run (set stage : Noted m PUnit)).run reached = pure (.ok ⟨⟩, stage) := by
  have hlift : ExceptT.run (set stage : Noted m PUnit) =
      Except.ok <$> (set stage : StateT Stage m PUnit) := rfl
  rw [hlift, StateT.run_map, StateT.run_set, map_pure]

/-- From one stage on to another, the book says what is named at the steps. -/
def Agrees (first last : Stage) (noted : Noted m α) (named : ExceptT Stopped m α) : Prop :=
  settle first noted = (fun result => (result, Stage.closing last result)) <$> named.run

theorem settle_bind (reached : Stage) (noted : Noted m α) (next : α → Noted m β) :
    settle reached (noted >>= next) = settle reached noted >>= fun
      | (.ok x, last) => settle last (next x)
      | (.error stopped, last) => pure (.error stopped, last) := by
  simp only [settle, ExceptT.run_bind, StateT.run_bind, bind_assoc]
  refine bind_congr fun ⟨result, last⟩ => ?_
  cases result with
  | ok x => simp
  | error e => simp

theorem agrees_pure (stage : Stage) (x : α) :
    Agrees stage stage (pure x : Noted m α) (pure x) := by
  simp [Agrees, settle, Stage.closing]

/-- Steps that agree are put together to steps that agree. -/
theorem Agrees.bind {first middle last : Stage} {noted : Noted m α} {named : ExceptT Stopped m α}
    {next : α → Noted m β} {next' : α → ExceptT Stopped m β} (h : Agrees first middle noted named)
    (hnext : ∀ x, Agrees middle last (next x) (next' x)) :
    Agrees first last (noted >>= next) (named >>= next') := by
  rw [Agrees, settle_bind, h, ExceptT.run_bind, map_bind, bind_map_left]
  refine bind_congr fun result => ?_
  cases result with
  | ok x => exact hnext x
  | error stopped => simp [Stage.closing]

/-- A step that notes its stage fails as one that names the stage behind the last. -/
theorem agrees_noting {first stage : Stage} (h : first.successor = stage) (action : Action m α) :
    Agrees first stage (noting stage action) (reaching stage action) := by
  subst h
  have hnamed : (reaching first.successor action).run =
      action.run >>= fun result => pure (result.mapError (Stopped.mk first.successor)) := by
    rw [bind_pure_comp]
    rfl
  rw [Agrees, hnamed, map_bind]
  simp only [settle, noting, ExceptT.run_bind, ExceptT.run_mk, StateT.run_bind, StateT.run_lift,
    bind_assoc, pure_bind, map_pure]
  refine bind_congr fun result => ?_
  cases result with
  | ok x =>
    show _ = pure (Except.ok x, first.successor)
    simp
  | error e =>
    show _ = pure (Except.error (Stopped.mk first.successor e), Stage.failed)
    simp

variable (self : Mint m) (request : MintRequest)

theorem agrees_notedFund :
    Agrees .requested .funded (self.notedFund request) (self.fund request) := by
  unfold notedFund fund
  refine (agrees_noting rfl _).bind fun _ => ?_
  refine (agrees_noting rfl _).bind fun ⟨id, pile⟩ => ?_
  refine (agrees_noting rfl _).bind fun ⟨runestone, script⟩ => ?_
  refine (agrees_noting rfl _).bind fun skeleton => ?_
  refine (agrees_noting rfl _).bind fun transaction => ?_
  exact agrees_pure _ _

/-- A run with a book ends as one that names its stages, and the book says that it has failed or
that everything is done. -/
theorem settle_notedRun : settle .requested (self.notedRun request) =
    (fun result => (result, Stage.closing .reported result)) <$> (self.run request).run := by
  refine (agrees_notedFund self request).bind fun funded => ?_
  refine (agrees_noting rfl _).bind fun signed => ?_
  refine (agrees_noting rfl _).bind fun mint => ?_
  simp [Agrees, settle, Stage.closing, Except.map]

theorem settle_notedPrepare : settle .requested (self.notedPrepare request) =
    (fun result => (result, Stage.closing .funded result)) <$> (self.prepare request).run := by
  refine (agrees_notedFund self request).bind fun funded => ?_
  exact agrees_pure _ _

end

end Mint

end Runesmith
