import Runesmith.Failure
import Runesmith.FeeRate
import Runesmith.Http

/-!
# The node

Calls of a node of the chain. The node reports errors of its own in the body of a reply, whatever
its status; a body that is no document is judged by the status. Every procedure that a mint needs
has a function here, which passes its arguments on and returns what the node answered.
-/

namespace Runesmith

/-- How to reach a node: its address, the caller's credentials, and the wallet that calls are meant
for, if any. -/
structure Node where
  baseUrl : String
  user : Json
  password : Json
  wallet : Json

namespace Node

/-- In seconds. -/
def timeout : Nat := 30

/-- The address for calls; a wallet has one of its own. -/
def url (node : Node) : String :=
  if node.wallet.isTruthy then s!"{node.baseUrl}/wallet/{node.wallet.display}" else node.baseUrl

/-- The same node with another wallet. -/
def withWallet (node : Node) (wallet : Json) : Node :=
  { node with wallet := wallet }

/-! ## Replies -/

/-- Judges a reply by its status alone. -/
def checkStatus (response : Http.Response) : Except TransportError Unit :=
  if response.isOk then .ok ()
  else if response.status = 401 then .error .unauthorized
  else .error (.httpStatus response.status)

/-- The error that a body reports, a code and a message; either may be missing. -/
def errorOf (error : Json) : Except Mismatch RpcError := do
  return ⟨← error.memberOr "code" (.int (-1)), ← error.memberOr "message" (.str "unknown")⟩

/-- The result of a reply. An error in the body comes before the status. -/
def resultOf (response : Http.Response) : Except Failure Json := do
  let checked : Except Failure Unit := (checkStatus response).mapError .transport
  match response.json? with
  | none =>
    checked
    throw (.transport .malformedJson)
  | some (.obj members) =>
    let error := (Json.find? members "error").getD .null
    if error.isTruthy then
      let cause ← (errorOf error).mapError Failure.mismatch
      throw (.rpc cause)
    checked
    return (Json.find? members "result").getD .null
  | some _ => throw (.transport .notAnObject)

section

variable {m : Type → Type} [Monad m] (http : Http.Transport m) (node : Node)

/-- Calls a procedure. Empty parameters are sent as an empty list. -/
def call (method : String) (params : Json) : Action m Json := do
  let params := if params.isTruthy then params else .arr []
  match ← http.post ⟨node.url, method, params, node.user, node.password, timeout⟩ with
  | none => throw (.transport .unreachable)
  | some response => ExceptT.mk (pure (resultOf response))

/-! ## Procedures -/

/-- What the node says about its chain. -/
def getBlockchainInfo : Action m Json :=
  call http node "getblockchaininfo" .null

/-- The height of the chain. -/
def getBlockCount : Action m Int := do
  Action.shape (← call http node "getblockcount" .null).toInteger

/-- The node's own reading of a transaction. -/
def decodeRawTransaction (rawTx : Json) : Action m Json :=
  call http node "decoderawtransaction" (.arr [rawTx])

/-- The most confirmations that an output may have to be listed. -/
def maxConfirmations : Json := .int 9999999

/-- The unspent outputs of the wallet. -/
def listUnspent (minConf maxConf : Json) : Action m Json :=
  call http node "listunspent" (.arr [minConf, maxConf])

/-- The outputs of the wallet that are locked. -/
def listLockUnspent : Action m Json :=
  call http node "listlockunspent" .null

/-- Locks outputs, or unlocks them; did it work? -/
def lockUnspent (unlock : Json) (outputs : Json) : Action m Bool := do
  return (← call http node "lockunspent" (.arr [unlock, outputs])).isTruthy

/-- A fresh address for change, of a certain kind if one is given. -/
def getRawChangeAddress (kind : Json) : Action m Json :=
  call http node "getrawchangeaddress" (.arr (if kind.isNull then [] else [kind]))

/-- Adds inputs and change to a transaction. -/
def fundRawTransaction (rawTx options : Json) : Action m Json :=
  call http node "fundrawtransaction" (.arr (if options.isNull then [rawTx] else [rawTx, options]))

/-- Signs a transaction with the keys of the wallet. -/
def signRawTransactionWithWallet (rawTx : Json) : Action m Json :=
  call http node "signrawtransactionwithwallet" (.arr [rawTx])

/-- Relays a transaction. -/
def sendRawTransaction (rawTx : Json) : Action m Json :=
  call http node "sendrawtransaction" (.arr [rawTx])

end

end Node

end Runesmith
