import Runesmith.Mint

/-!
# Observed runs

A run calls on an index, a wallet and a node. Here every call is written down with its answer, and
the surroundings answer as they like: each answer may depend on everything that happened before.

* `Observed` is the monad of runs that are written down, `Behaviour` what the surroundings answer;
* `Leads` says which calls an action may make and how it may end, with one rule for each way in
  which actions are put together.
-/

namespace Runesmith

/-! ## Calls and answers -/

/-- A call that a run makes: of the index, of the wallet, of the node, or over a connection. -/
inductive Call where
  | runesIndexed
  | chainHeight
  | lookup (rune : SpacedRune)
  | blockCount
  | coinInfo (coin : Coin)
  | lockNonCardinal
  | release (coins : List Coin)
  | changeScript
  | network
  | fund (tx : Transaction) (feeRate : FeeRate)
  | sign (tx : Transaction)
  | broadcast (tx : Transaction)
  | get (query : Http.Query)
  | post (call : Http.Call)
  | sleep (seconds : Binary64)

namespace Call

/-- What a call may be answered. -/
abbrev Answer : Call → Type
  | runesIndexed => Except Failure Bool
  | chainHeight => Except Failure Int
  | lookup _ => Except Failure (Option (RuneId × Entry))
  | blockCount => Except Failure Int
  | coinInfo _ => Except Failure Json
  | lockNonCardinal => Except Failure (List Coin)
  | release _ => Except Failure Unit
  | changeScript => Except Failure Bytes
  | network => Except Failure Network
  | fund _ _ => Except Failure Transaction
  | sign _ => Except Failure Transaction
  | broadcast _ => Except Failure Json
  | get _ => Option Http.Response
  | post _ => Option Http.Response
  | sleep _ => Unit

/-- Calls of one function, whatever they are about. -/
inductive Kind where
  | runesIndexed
  | chainHeight
  | lookup
  | blockCount
  | coinInfo
  | lockNonCardinal
  | release
  | changeScript
  | network
  | fund
  | sign
  | broadcast
  | get
  | post
  | sleep
deriving DecidableEq, Repr

/-- The kind of a call. -/
def kind : Call → Kind
  | runesIndexed => .runesIndexed
  | chainHeight => .chainHeight
  | lookup _ => .lookup
  | blockCount => .blockCount
  | coinInfo _ => .coinInfo
  | lockNonCardinal => .lockNonCardinal
  | release _ => .release
  | changeScript => .changeScript
  | network => .network
  | fund _ _ => .fund
  | sign _ => .sign
  | broadcast _ => .broadcast
  | get _ => .get
  | post _ => .post
  | sleep _ => .sleep

end Call

/-- A call with its answer. -/
structure Exchange where
  call : Call
  answer : call.Answer

/-- The procedure of the node that an exchange calls, if it calls one. -/
def Exchange.method? (x : Exchange) : Option String :=
  match x.call with
  | .post call => some call.method
  | _ => none

/-- Everything that was called, from the first call on. -/
abbrev History := List Exchange

/-- The exchanges of one kind. -/
def History.of (history : History) (kind : Call.Kind) : History :=
  history.filter (·.call.kind = kind)

theorem History.of_append (first rest : History) (kind : Call.Kind) :
    History.of (first ++ rest) kind = History.of first kind ++ History.of rest kind :=
  List.filter_append ..

theorem History.of_eq_nil_iff {history : History} {kind : Call.Kind} :
    history.of kind = [] ↔ ∀ x ∈ history, x.call.kind ≠ kind := by
  simp [History.of, List.filter_eq_nil_iff]

theorem History.mem_of {history : History} {x : Exchange} {kind : Call.Kind} (h : x ∈ history)
    (hkind : x.call.kind = kind) : x ∈ history.of kind :=
  List.mem_filter.2 ⟨h, decide_eq_true hkind⟩

/-- What answers the calls of a run. The answers may depend on all that happened before. -/
abbrev Behaviour := History → (call : Call) → call.Answer

/-! ## Observed runs -/

/-- What was called so far, and the network if the wallet has asked for it. -/
structure World where
  history : History
  memory : NetworkMemory

/-- Runs that are written down. -/
abbrev Observed := StateM World

instance : MonadStateOf NetworkMemory Observed where
  get := fun world => (world.memory, world)
  set memory := fun world => ((), { world with memory := memory })
  modifyGet f := fun world => ((f world.memory).1, { world with memory := (f world.memory).2 })

namespace Behaviour

variable (around : Behaviour)

/-- Makes a call and writes it down. -/
def ask (call : Call) : Observed call.Answer := fun world =>
  let answer := around world.history call
  (answer, { world with history := world.history ++ [⟨call, answer⟩] })

/-- The index that is called on. -/
def index : Index Observed where
  runesIndexed := ExceptT.mk (around.ask .runesIndexed)
  chainHeight := ExceptT.mk (around.ask .chainHeight)
  lookup rune := ExceptT.mk (around.ask (.lookup rune))
  blockCount := ExceptT.mk (around.ask .blockCount)
  coinInfo coin := ExceptT.mk (around.ask (.coinInfo coin))

/-- The wallet that is called on. -/
def wallet : Wallet Observed where
  lockNonCardinal := ExceptT.mk (around.ask .lockNonCardinal)
  release coins := ExceptT.mk (around.ask (.release coins))
  changeScript := ExceptT.mk (around.ask .changeScript)
  network := ExceptT.mk (around.ask .network)

/-- The node that is called on to complete transactions. -/
def completion : Completion Observed where
  fund tx feeRate := ExceptT.mk (around.ask (.fund tx feeRate))
  sign tx := ExceptT.mk (around.ask (.sign tx))
  broadcast tx := ExceptT.mk (around.ask (.broadcast tx))

/-- The connection that is called over. -/
def transport : Http.Transport Observed where
  get query := around.ask (.get query)
  post call := around.ask (.post call)
  sleep seconds := around.ask (.sleep seconds)

end Behaviour

/-! ## Actions in a world -/

section

variable {ε α β : Type}

/-- Either an action failed and nothing follows, or the next one starts in the world it left. -/
theorem bind_apply (action : ExceptT ε Observed α) (next : α → ExceptT ε Observed β)
    (world : World) : (action >>= next) world = match action world with
      | (.ok x, after) => next x after
      | (.error e, after) => (.error e, after) := by
  show ExceptT.bindCont next (action world).1 (action world).2 = _
  rcases action world with ⟨_ | x, after⟩ <;> rfl

theorem tryCatch_apply (action : ExceptT ε Observed α) (handler : ε → ExceptT ε Observed α)
    (world : World) : (tryCatchThe ε action handler : ExceptT ε Observed α) world
      = match action world with
        | (.ok x, after) => (.ok x, after)
        | (.error e, after) => handler e after := by
  show (match (action world).1 with
    | .ok x => (Pure.pure (.ok x) : Observed (Except ε α))
    | .error e => handler e) (action world).2 = _
  rcases action world with ⟨_ | x, after⟩ <;> rfl

theorem adapt_apply {ε' : Type} (f : ε → ε') (action : ExceptT ε Observed α) (world : World) :
    ExceptT.adapt f action world = ((action world).1.mapError f, (action world).2) :=
  rfl

/-- Errors of actions in a row can be told in other words one by one. -/
theorem adapt_bind {ε' : Type} (f : ε → ε') (action : ExceptT ε Observed α)
    (next : α → ExceptT ε Observed β) :
    ExceptT.adapt f (action >>= next)
      = ExceptT.adapt f action >>= fun x => ExceptT.adapt f (next x) := by
  funext world
  rw [bind_apply, adapt_apply, adapt_apply, bind_apply]
  rcases action world with ⟨_ | x, after⟩ <;> rfl

end

/-! ## What actions lead to -/

/-- The calls that an action may make, together with how it may end. -/
abbrev Trace (ε α : Type) := History → Except ε α → Prop

/-- All exchanges of a trace have a property. -/
def Trace.All {ε α : Type} (trace : Trace ε α) (p : Exchange → Prop) : Prop :=
  ∀ made result, trace made result → ∀ x ∈ made, p x

/-- What holds of a call however it is answered holds of an action that is this one call. -/
theorem Trace.all_oneCall {ε α : Type} {call : Call} {f : Except ε α → call.Answer}
    {p : Exchange → Prop} (h : ∀ answer, p ⟨call, answer⟩) :
    Trace.All (fun made result => made = [⟨call, f result⟩]) p := by
  rintro made result rfl x hx
  rw [List.mem_singleton.1 hx]
  exact h _

/-- The exchanges that an action makes in a world. -/
def made {ε α : Type} (action : ExceptT ε Observed α) (world : World) : History :=
  (action world).2.history.drop world.history.length

/-- In any world, an action makes calls and ends as the trace allows. -/
def Leads {ε α : Type} (action : ExceptT ε Observed α) (trace : Trace ε α) : Prop :=
  ∀ world, ∃ made, (action world).2.history = world.history ++ made ∧ trace made (action world).1

namespace Leads

variable {ε α β : Type}

/-- What an action makes in a world, and how it ends there, is what it leads to. -/
theorem made {action : ExceptT ε Observed α} {P : Trace ε α} (h : Leads action P) (world : World) :
    (action world).2.history = world.history ++ made action world
      ∧ P (Runesmith.made action world) (action world).1 := by
  rcases h world with ⟨exchanges, hhistory, hP⟩
  have hmade : Runesmith.made action world = exchanges := by
    rw [Runesmith.made, hhistory, List.drop_left]
  rw [hmade]
  exact ⟨hhistory, hP⟩

theorem mono {action : ExceptT ε Observed α} {P Q : Trace ε α} (h : Leads action P)
    (hPQ : ∀ made result, P made result → Q made result) : Leads action Q := by
  intro world
  rcases h world with ⟨made, hmade, hresult⟩
  exact ⟨made, hmade, hPQ made _ hresult⟩

/-- A result that needs no call. -/
theorem result {r : Except ε α} {P : Trace ε α} (h : P [] r) :
    Leads (ExceptT.mk (Pure.pure r)) P := by
  intro world
  exact ⟨[], (List.append_nil _).symm, h⟩

theorem pure {x : α} {P : Trace ε α} (h : P [] (.ok x)) : Leads (Pure.pure x) P :=
  result h

theorem throw {e : ε} {P : Trace ε α} (h : P [] (.error e)) :
    Leads (throwThe ε e : ExceptT ε Observed α) P :=
  result h

/-- An action that ends with an error ends what it is a part of. -/
theorem bind {action : ExceptT ε Observed α} {next : α → ExceptT ε Observed β} {P : Trace ε α}
    {Q : α → Trace ε β} {R : Trace ε β} (haction : Leads action P)
    (hnext : ∀ x, Leads (next x) (Q x))
    (herror : ∀ made e, P made (.error e) → R made (.error e))
    (hok : ∀ x first rest result, P first (.ok x) → Q x rest result → R (first ++ rest) result) :
    Leads (action >>= next) R := by
  intro world
  -- What the next action calls stands behind what the first one called.
  rcases haction world with ⟨first, hfirst, hP⟩
  rw [bind_apply]
  rcases hrun : action world with ⟨e | x, after⟩ <;> rw [hrun] at hfirst hP
  · exact ⟨first, hfirst, herror first e hP⟩
  · rcases hnext x after with ⟨rest, hrest, hQ⟩
    refine ⟨first ++ rest, ?_, hok x first rest _ hP hQ⟩
    rw [← List.append_assoc, ← hfirst]
    exact hrest

/-- What follows an action has to lead, behind everything that the action may have called, to what
the whole leads to. -/
theorem andThen {action : ExceptT ε Observed α} {next : α → ExceptT ε Observed β} {P : Trace ε α}
    {R : Trace ε β} (haction : Leads action P)
    (herror : ∀ made e, P made (.error e) → R made (.error e))
    (hnext : ∀ x, Leads (next x) fun rest result =>
      ∀ first, P first (.ok x) → R (first ++ rest) result) :
    Leads (action >>= next) R :=
  haction.bind hnext herror fun _ first _ _ hP hQ => hQ first hP

/-- A handler is called on when the action ends with an error. -/
theorem tryCatch {action : ExceptT ε Observed α} {handler : ε → ExceptT ε Observed α}
    {P : Trace ε α} {Q : ε → Trace ε α} {R : Trace ε α} (haction : Leads action P)
    (hhandler : ∀ e, Leads (handler e) (Q e))
    (hok : ∀ made x, P made (.ok x) → R made (.ok x))
    (herror : ∀ e first rest result, P first (.error e) → Q e rest result →
      R (first ++ rest) result) :
    Leads (tryCatchThe ε action handler) R := by
  intro world
  rcases haction world with ⟨first, hfirst, hP⟩
  rw [tryCatch_apply]
  rcases hrun : action world with ⟨e | x, after⟩ <;> rw [hrun] at hfirst hP
  · rcases hhandler e after with ⟨rest, hrest, hQ⟩
    refine ⟨first ++ rest, ?_, herror e first rest _ hP hQ⟩
    rw [← List.append_assoc, ← hfirst]
    exact hrest
  · exact ⟨first, hfirst, hok first x hP⟩

/-- The error of an action, told in other words. -/
theorem adapt {ε' : Type} {action : ExceptT ε Observed α} {f : ε → ε'} {P : Trace ε α}
    {Q : Trace ε' α} (h : Leads action P)
    (hPQ : ∀ made result, P made result → Q made (result.mapError f)) :
    Leads (ExceptT.adapt f action) Q := by
  intro world
  rcases h world with ⟨made, hmade, hP⟩
  exact ⟨made, hmade, hPQ made _ hP⟩

/-- A call makes one exchange, and is answered as the surroundings answer behind some history. -/
theorem asked {around : Behaviour} {call : Call} {next : call.Answer → ExceptT ε Observed β}
    {R : Trace ε β} (hnext : ∀ history, Leads (next (around history call)) fun rest result =>
      R (⟨call, around history call⟩ :: rest) result) :
    Leads (liftM (around.ask call) >>= next) R := by
  intro world
  -- The call has been written down before anything else happens.
  rcases hnext world.history (around.ask call world).2 with ⟨rest, hrest, hR⟩
  refine ⟨⟨call, around world.history call⟩ :: rest, ?_, hR⟩
  rw [List.append_cons]
  exact hrest

/-- A call makes one exchange, whatever is answered. -/
theorem ask {around : Behaviour} {call : Call} {next : call.Answer → ExceptT ε Observed β}
    {R : Trace ε β}
    (hnext : ∀ answer, Leads (next answer) fun rest result => R (⟨call, answer⟩ :: rest) result) :
    Leads (liftM (around.ask call) >>= next) R :=
  asked fun _ => hnext _

/-- Looking at what is remembered makes no call. -/
theorem getMemory {next : NetworkMemory → ExceptT ε Observed β} {R : Trace ε β}
    (hnext : ∀ memory, Leads (next memory) R) :
    Leads ((getThe NetworkMemory : ExceptT ε Observed NetworkMemory) >>= next) R :=
  fun world => hnext world.memory world

theorem setMemory {memory : NetworkMemory} {next : PUnit → ExceptT ε Observed β} {R : Trace ε β}
    (hnext : Leads (next ⟨⟩) R) :
    Leads ((MonadStateOf.set memory : ExceptT ε Observed PUnit) >>= next) R :=
  fun world => hnext { world with memory := memory }

/-- A result that is known makes no call. -/
theorem given {x : Except ε α} {next : α → ExceptT ε Observed β} {R : Trace ε β}
    (herror : ∀ e, x = .error e → R [] (.error e)) (hok : ∀ a, x = .ok a → Leads (next a) R) :
    Leads (ExceptT.mk (Pure.pure x) >>= next) R := by
  cases x with
  | error e => exact fun world => ⟨[], (List.append_nil _).symm, herror e rfl⟩
  | ok a => exact fun world => hok a rfl world

/-- A conversion makes no call. -/
theorem convert {ε' : Type} {x : Except ε' α} {wrap : ε' → Failure}
    {next : α → Action Observed β} {R : Trace Failure β}
    (herror : ∀ e, x = .error e → R [] (.error (wrap e)))
    (hok : ∀ a, x = .ok a → Leads (next a) R) :
    Leads (Action.ofExcept wrap x >>= next) R := by
  refine given ?_ ?_
  · intro e he
    cases x with
    | error e' =>
      cases he
      exact herror e' rfl
    | ok a => cases he
  · intro a ha
    cases x with
    | error e' => cases ha
    | ok a' =>
      cases ha
      exact hok a rfl

/-- If all exchanges of the parts have a property, so have those of the whole. -/
theorem all {action : ExceptT ε Observed α} {next : α → ExceptT ε Observed β}
    {p : Exchange → Prop} (haction : Leads action fun made _ => ∀ x ∈ made, p x)
    (hnext : ∀ x, Leads (next x) fun made _ => ∀ x ∈ made, p x) :
    Leads (action >>= next) fun made _ => ∀ x ∈ made, p x :=
  haction.bind hnext (fun _ _ h => h) fun _ _ _ _ hfirst hrest =>
    List.forall_mem_append.2 ⟨hfirst, hrest⟩

end Leads

end Runesmith
