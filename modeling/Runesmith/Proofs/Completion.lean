import Runesmith.Proofs.Node
import Runesmith.Proofs.Results

/-!
# Completing transactions through the node

A skeleton is built, and then completed step by step. Each step writes its transaction, calls one
procedure of the node and reads what was answered.

* `Transaction.skeleton_eq_error` says why a skeleton is not built;
* `fundOutcome`, `signOutcome` and `relayOutcome` say what the outcome of a call is taken for;
* `Asking` and `Funding` say what a step may lead to, whatever calls of the node may lead to
  (`leads_fund`, `leads_sign`, `leads_broadcast`).
-/

namespace Runesmith

/-! ## Skeletons -/

/-- What stops a skeleton from being built is a script that is too large, or a postage that is not
worth its output. -/
theorem Transaction.skeleton_eq_error {script destination : Bytes} {postage : Postage} {e : Failure}
    (h : skeleton script destination postage = .error e) : (∃ cause, e = .runestone cause)
      ∨ postage.value ≤ Script.dust destination
        ∧ e = .belowDust postage (Script.dust destination) := by
  rcases error_of_bind h with hscript | ⟨_, -, hskeleton⟩
  · obtain ⟨cause, -, rfl⟩ := error_of_mapError hscript
    exact .inl ⟨cause, rfl⟩
  · dsimp only at hskeleton
    split at hskeleton
    case isTrue hdust =>
      cases hskeleton
      exact .inr ⟨hdust, rfl⟩
    case isFalse => cases hskeleton

namespace Node

/-! ## Outcomes -/

/-- The transaction in an answer, or a failure with the cause that there is none. -/
def transactionFrom (wrap : ReplyError → Failure) (answer : Json) : Except Failure Transaction :=
  match transactionOf answer with
  | .error e => .error (.mismatch e)
  | .ok (.error cause) => .error (wrap cause)
  | .ok (.ok tx) => .ok tx

/-- What the outcome of a call that funds is taken for. -/
def fundOutcome : Except Failure Json → Except Failure Transaction
  | .ok answer => transactionFrom (fun cause => .funding (.reply cause)) answer
  | .error (.rpc cause) => .error (fundingFailure cause)
  | .error (.transport cause) => .error (.funding (.transport cause))
  | .error failure => .error failure

/-- What an answer about signatures is taken for. -/
def signedFrom (answer : Json) : Except Failure Transaction :=
  match answer.memberOr "complete" .null, signatureDetail answer with
  | .error e, _ => .error (.mismatch e)
  | .ok complete, detail =>
    if complete.isTruthy then transactionFrom (fun cause => .signing (.reply cause)) answer
    else match detail with
      | .error e => .error (.mismatch e)
      | .ok text => .error (.signing (.incomplete text))

/-- What the outcome of a call that signs is taken for. -/
def signOutcome : Except Failure Json → Except Failure Transaction
  | .ok answer => signedFrom answer
  | .error (.rpc cause) => .error (.signing (.refused cause))
  | .error (.transport cause) => .error (.signing (.transport cause))
  | .error failure => .error failure

/-- What the outcome of a call that relays is taken for. -/
def relayOutcome : Except Failure Json → Except Failure Json
  | .ok answer => .ok answer
  | .error (.rpc cause) => .error (broadcastFailure cause)
  | .error (.transport cause) => .error (.broadcast (.transport cause))
  | .error failure => .error failure

/-! ## Steps -/

section

variable {α : Type} (calls : String → Json → Trace Failure Json)

/-- A procedure is called with the wire form of a transaction, and the outcome is read. -/
inductive Asking (tx : Transaction) (method : String) (params : String → Json)
    (read : Except Failure Json → Except Failure α) : Trace Failure α where
  | unwritable {e : Transaction.EncodeError} (h : tx.toHex = .error e) :
      Asking tx method params read [] (.error (.transaction e))
  | asked {hex : String} {made : History} {outcome : Except Failure Json}
      (hhex : tx.toHex = .ok hex) (h : calls method (params hex) made outcome) :
      Asking tx method params read made (read outcome)

/-- The parameters of a call with nothing but a transaction. -/
def rawParams (hex : String) : Json := .arr [.str hex]

def fundParams (options : FeeRate.FundOptions) (hex : String) : Json :=
  .arr [.str hex, options.toJson]

/-- A transaction is funded with the options for a fee rate, if the node can be told the rate. -/
inductive Funding (tx : Transaction) (feeRate : FeeRate) : Trace Failure Transaction where
  | rateTooLarge (h : feeRate.fundOptions? tx.outputs.length true = none) :
      Funding tx feeRate [] (.error .feeRateTooLarge)
  | asking {options : FeeRate.FundOptions} {made : History} {result : Except Failure Transaction}
      (hoptions : feeRate.fundOptions? tx.outputs.length true = some options)
      (h : Asking calls tx "fundrawtransaction" (fundParams options) fundOutcome made result) :
      Funding tx feeRate made result

def Signing (tx : Transaction) : Trace Failure Transaction :=
  Asking calls tx "signrawtransactionwithwallet" rawParams signOutcome

def Relaying (tx : Transaction) : Trace Failure Json :=
  Asking calls tx "sendrawtransaction" rawParams relayOutcome

end

/-! ## What the steps lead to -/

section

variable {α : Type} {around : Behaviour} {node : Node}
  {calls : String → Json → Trace Failure Json}

theorem shape_ok_bind {β : Type} (x : β) (next : β → Action Observed α) :
    Action.shape (.ok x) >>= next = next x := rfl

/-- The transaction of an answer is read without a call. -/
theorem transactionFrom_eq {wrap : ReplyError → Failure} (answer : Json) :
    (Action.shape (transactionOf answer) >>= fun read => match read with
      | .ok tx => pure tx
      | .error cause => throw (wrap cause) : Action Observed Transaction)
      = ExceptT.mk (pure (transactionFrom wrap answer)) := by
  unfold transactionFrom
  rcases transactionOf answer with _ | _ | _ <;> rfl

variable (hcalls : ∀ method params,
  Leads (node.call around.transport method params) (calls method params))

include hcalls

/-- An error is told in other words, and an answer is kept. -/
theorem leads_caught (method : String) (params : Json)
    (read : Except Failure Json → Except Failure α) (handler : Failure → Action Observed Json)
    (hhandler : ∀ e, ∃ told, handler e = throw told ∧ read (.error e) = .error told) :
    Leads (tryCatchThe Failure (node.call around.transport method params) handler)
      fun made result => ∃ outcome, calls method params made outcome
        ∧ ((∃ answer, outcome = .ok answer ∧ result = .ok answer)
          ∨ ∃ e told, outcome = .error e ∧ read outcome = .error told ∧ result = .error told) := by
  refine (hcalls method params).tryCatch (Q := fun e made result =>
    made = [] ∧ ∃ told, read (.error e) = .error told ∧ result = .error told) ?_ ?_ ?_
  · intro e
    obtain ⟨told, hthrow, hread⟩ := hhandler e
    rw [hthrow]
    exact .throw ⟨rfl, told, hread, rfl⟩
  · intro made answer hcall
    exact ⟨_, hcall, .inl ⟨answer, rfl, rfl⟩⟩
  · rintro e first rest result hcall ⟨rfl, told, hread, rfl⟩
    rw [List.append_nil]
    exact ⟨_, hcall, .inr ⟨e, told, rfl, hread, rfl⟩⟩

/-- A call whose errors are told in other words, and whose answer is read without another call. -/
theorem leads_asking (tx : Transaction) (method : String) (params : String → Json)
    (read : Except Failure Json → Except Failure α) (action : Json → Action Observed Json)
    (handler : Failure → Action Observed Json) (finish : Json → Action Observed α)
    (hhandler : ∀ e, ∃ told, handler e = throw told ∧ read (.error e) = .error told)
    (hfinish : ∀ answer, finish answer = ExceptT.mk (pure (read (.ok answer))))
    (haction : ∀ hex, action (.str hex) = node.call around.transport method (params hex)) :
    Leads (ExceptT.mk (pure tx.hexJson) >>= fun hex =>
      tryCatch (action hex) handler >>= finish) (Asking calls tx method params read) := by
  refine .given ?_ ?_
  · intro e he
    unfold Transaction.hexJson at he
    cases hhex : tx.toHex with
    | ok hex =>
      rw [hhex] at he
      cases he
    | error cause =>
      rw [hhex] at he
      cases he
      exact .unwritable hhex
  intro json hjson
  unfold Transaction.hexJson at hjson
  cases hhex : tx.toHex with
  | error cause =>
    rw [hhex] at hjson
    cases hjson
  | ok hex =>
    rw [hhex] at hjson
    cases hjson
    rw [haction]
    refine (leads_caught hcalls method (params hex) read handler hhandler).andThen ?_ ?_
    · rintro made e ⟨outcome, hcall, ⟨answer, -, hok⟩ | ⟨_, told, rfl, hread, htold⟩⟩
      · cases hok
      · cases htold
        rw [← hread]
        exact .asked hhex hcall
    · intro answer
      rw [hfinish]
      refine .result ?_
      rintro made ⟨outcome, hcall, ⟨_, rfl, hok⟩ | ⟨_, told, -, -, htold⟩⟩
      · cases hok
        rw [List.append_nil]
        exact .asked hhex hcall
      · cases htold

theorem leads_fund (tx : Transaction) (feeRate : FeeRate) :
    Leads (node.fund around.transport tx feeRate) (Funding calls tx feeRate) := by
  unfold fund
  cases hoptions : feeRate.fundOptions? tx.outputs.length true with
  | none => exact .throw (.rateTooLarge hoptions)
  | some options =>
    refine (leads_asking hcalls tx _ (fundParams options) fundOutcome _ _ _ ?_ ?_ ?_).mono
      fun _ _ => .asking hoptions
    · intro e
      cases e <;> exact ⟨_, rfl, rfl⟩
    · intro answer
      exact transactionFrom_eq answer
    · intro hex
      rfl

theorem leads_sign (tx : Transaction) :
    Leads (node.sign around.transport tx) (Signing calls tx) := by
  unfold sign
  refine leads_asking hcalls tx _ rawParams signOutcome _ _ _ ?_ ?_ ?_
  · intro e
    cases e <;> exact ⟨_, rfl, rfl⟩
  · intro answer
    show _ = ExceptT.mk (pure (signedFrom answer))
    unfold signedFrom
    cases answer.memberOr "complete" .null with
    | error e => rfl
    | ok complete =>
      dsimp only
      rw [shape_ok_bind]
      cases complete.isTruthy with
      | true => exact transactionFrom_eq answer
      | false => cases signatureDetail answer <;> rfl
  · intro hex
    rfl

theorem leads_broadcast (tx : Transaction) :
    Leads (node.broadcast around.transport tx) (Relaying calls tx) := by
  -- The answer is passed on as it is.
  rw [← bind_pure (node.broadcast around.transport tx)]
  unfold broadcast
  rw [bind_assoc]
  refine leads_asking hcalls tx _ rawParams relayOutcome _ _ _ ?_ (fun _ => rfl) fun _ => rfl
  intro e
  cases e <;> exact ⟨_, rfl, rfl⟩

end

end Node

end Runesmith
