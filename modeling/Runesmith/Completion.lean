import Runesmith.Node

/-!
# Completing transactions

A transaction skeleton is funded, signed and relayed by the node. Each step is one call; what the
node answers is read back as a transaction, and an error of the node becomes an error of the step.
-/

namespace Runesmith

/-- The steps that complete a transaction. -/
structure Completion (m : Type → Type) where
  fund : Transaction → FeeRate → Action m Transaction
  sign : Transaction → Action m Transaction
  /-- Relays a transaction and returns its id, or whatever the node answered. -/
  broadcast : Transaction → Action m Json

/-! ## Skeletons -/

namespace Transaction

/-- The skeleton of a mint: the runestone in the first output, and the postage for the destination
in the second one. The postage has to be worth more than dust. -/
def skeleton (runestoneScript destination : Bytes) (postage : Postage) :
    Except Failure Transaction := do
  let _ ← (Runestone.ensureSize Runestone.maxScriptSize runestoneScript).mapError .runestone
  let dust := Script.dust destination
  if postage.value ≤ dust then throw (.belowDust postage dust)
  return ⟨currentVersion, 0, [], [⟨0, runestoneScript⟩, ⟨postage.value, destination⟩]⟩

/-- The wire form in hexadecimal as a document value. -/
def hexJson (tx : Transaction) : Except Failure Json :=
  match tx.toHex with
  | .ok hex => .ok (.str hex)
  | .error e => .error (.transaction e)

end Transaction

/-! ## The node -/

namespace Node

/-- An error of the node with its hint. -/
def refused (cause : RpcError) : Except Mismatch Refused :=
  cause.hint?.map fun hint => ⟨cause, hint⟩

/-- The code of the node for a wallet without enough coins. -/
def insufficientFundsCode : Int := -6

/-- The transaction in an answer of the node. -/
def transactionOf (answer : Json) : Except Mismatch (Except ReplyError Transaction) := do
  match ← answer.member? "hex" with
  | some (.str hex) => return (Transaction.ofHex hex).mapError .undecodable
  | some (.rough _) => return .error (.undecodable .notHex)
  | _ => return .error .noHex

/-- The failure behind an error of the node while funding. -/
def fundingFailure (cause : RpcError) : Failure :=
  match refused cause with
  | .error e => .mismatch e
  | .ok answer =>
    if cause.hasCode insufficientFundsCode then .funding (.insufficientFunds answer)
    else .funding (.refused answer)

/-- The failure behind an error of the node while relaying. -/
def broadcastFailure (cause : RpcError) : Failure :=
  match refused cause with
  | .error e => .mismatch e
  | .ok answer => .broadcast (.refused answer)

/-- What the errors of an incomplete signature say, those that say something. -/
def signatureDetail (answer : Json) : Except Mismatch String := do
  let errors ← answer.memberOr "errors" .null
  let errors ← if errors.isTruthy then errors.elements else pure []
  let details := errors.filterMap fun error => match error with
    | .obj members => some ((Json.find? members "error").getD error).display
    | _ => none
  return "; ".intercalate details

section

variable {m : Type → Type} [Monad m] (http : Http.Transport m) (node : Node)

/-- Adds inputs and change behind the outputs of a transaction. -/
def fund (tx : Transaction) (feeRate : FeeRate) : Action m Transaction := do
  let some options := feeRate.fundOptions? tx.outputs.length true | throw .feeRateTooLarge
  let hex ← ExceptT.mk (pure tx.hexJson)
  let answer ← tryCatch (node.fundRawTransaction http hex options.toJson) fun
    | .rpc cause => throw (fundingFailure cause)
    | .transport cause => throw (.funding (.transport cause))
    | failure => throw failure
  match ← Action.shape (transactionOf answer) with
  | .ok funded => return funded
  | .error cause => throw (.funding (.reply cause))

/-- Signs a transaction. -/
def sign (tx : Transaction) : Action m Transaction := do
  let hex ← ExceptT.mk (pure tx.hexJson)
  let answer ← tryCatch (node.signRawTransactionWithWallet http hex) fun
    | .rpc cause => throw (.signing (.refused cause))
    | .transport cause => throw (.signing (.transport cause))
    | failure => throw failure
  if !(← Action.shape (answer.memberOr "complete" .null)).isTruthy then
    throw (.signing (.incomplete (← Action.shape (signatureDetail answer))))
  match ← Action.shape (transactionOf answer) with
  | .ok signed => return signed
  | .error cause => throw (.signing (.reply cause))

/-- Relays a transaction. -/
def broadcast (tx : Transaction) : Action m Json := do
  let hex ← ExceptT.mk (pure tx.hexJson)
  tryCatch (node.sendRawTransaction http hex) fun
    | .rpc cause => throw (broadcastFailure cause)
    | .transport cause => throw (.broadcast (.transport cause))
    | failure => throw failure

/-- The node as the one that completes transactions. -/
def completion : Completion m where
  fund := fund http node
  sign := sign http node
  broadcast := broadcast http node

end

end Node

end Runesmith
