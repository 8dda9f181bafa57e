import Runesmith.Proofs.Observation

/-!
# How actions fail

`Fails action p` says that whatever happened before and whatever is answered, the action fails with
errors of a certain kind only. There is one rule for each way in which actions are put together.
-/

namespace Runesmith

/-- In any world, an action that ends with an error ends with one that has a property. -/
def Fails {ε α : Type} (action : ExceptT ε Observed α) (p : ε → Prop) : Prop :=
  ∀ world e, (action world).1 = .error e → p e

namespace Fails

variable {ε ε' α β : Type} {p q : ε → Prop}

theorem mono {action : ExceptT ε Observed α} (h : Fails action q) (hq : ∀ e, q e → p e) :
    Fails action p :=
  fun world e he => hq e (h world e he)

/-- What an action leads to says how it fails. -/
theorem of_leads {action : ExceptT ε Observed α} {P : Trace ε α} (h : Leads action P)
    (hP : ∀ made e, P made (.error e) → p e) : Fails action p := by
  intro world e he
  obtain ⟨made, -, hmade⟩ := h world
  rw [he] at hmade
  exact hP made e hmade

/-- A result that needs no call. -/
theorem result {r : Except ε α} (h : ∀ e, r = .error e → p e) :
    Fails (ExceptT.mk (Pure.pure r)) p :=
  fun _ => h

theorem pure (x : α) : Fails (Pure.pure x : ExceptT ε Observed α) p := by
  intro world e he
  cases he

theorem throw {e : ε} (h : p e) : Fails (throwThe ε e : ExceptT ε Observed α) p := by
  intro world e' he
  cases he
  exact h

theorem bind {action : ExceptT ε Observed α} {next : α → ExceptT ε Observed β}
    (h : Fails action p) (hnext : ∀ x, Fails (next x) p) : Fails (action >>= next) p := by
  intro world e he
  -- The error is the one of the action, or one of what follows it in the world that it left.
  rw [bind_apply] at he
  rcases hrun : action world with ⟨e' | x, after⟩ <;> rw [hrun] at he
  · cases he
    exact h world e (congrArg Prod.fst hrun)
  · exact hnext x after e he

/-- A handler is told only errors with which the action fails. -/
theorem tryCatch {action : ExceptT ε Observed α} {handler : ε → ExceptT ε Observed α}
    (h : Fails action q) (hhandler : ∀ e, q e → Fails (handler e) p) :
    Fails (tryCatchThe ε action handler) p := by
  intro world e he
  rw [tryCatch_apply] at he
  rcases hrun : action world with ⟨e' | x, after⟩ <;> rw [hrun] at he
  · exact hhandler e' (h world e' (congrArg Prod.fst hrun)) after e he
  · cases he

/-- The error of an action, told in other words. -/
theorem adapt {action : ExceptT ε' Observed α} {f : ε' → ε} {q : ε' → Prop} (h : Fails action q)
    (hq : ∀ e, q e → p (f e)) : Fails (ExceptT.adapt f action) p := by
  intro world e he
  rw [adapt_apply] at he
  cases hrun : (action world).1 with
  | error e' =>
    rw [hrun] at he
    cases he
    exact hq e' (h world e' hrun)
  | ok x =>
    rw [hrun] at he
    cases he

/-- A call does not fail by itself, whatever is answered. -/
theorem ask {around : Behaviour} {call : Call} :
    Fails (liftM (around.ask call) : ExceptT ε Observed call.Answer) p := by
  intro world e he
  cases he

theorem getMemory : Fails (getThe NetworkMemory : ExceptT ε Observed NetworkMemory) p := by
  intro world e he
  cases he

theorem setMemory {memory : NetworkMemory} :
    Fails (MonadStateOf.set memory : ExceptT ε Observed PUnit) p := by
  intro world e he
  cases he

/-- A conversion fails as it is told to. -/
theorem convert {p : Failure → Prop} {x : Except ε' α} {wrap : ε' → Failure}
    (h : ∀ e, p (wrap e)) : Fails (Action.ofExcept wrap x : Action Observed α) p := by
  refine result fun e he => ?_
  cases x with
  | error e' =>
    cases he
    exact h e'
  | ok a => cases he

end Fails

end Runesmith
