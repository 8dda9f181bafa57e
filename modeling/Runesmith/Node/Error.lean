import Runesmith.Json.Shape
import Runesmith.Text.Case

/-!
# Errors of the node

The node answers with an error of its own, a code and a message, or does not answer properly at all.
Some of its errors have a well-known cause and come with a hint.
-/

namespace Runesmith.Node

/-- An error that the node reported. The code and the message are whatever it answered. -/
structure RpcError where
  code : Json
  message : Json

/-- What is said about an error of the node. -/
def RpcError.text (e : RpcError) : String :=
  s!"RPC error {e.code.display}: {e.message.display}"

/-- A reply that carries neither a result nor an error of the node. -/
inductive TransportError where
  | unreachable
  | unauthorized
  | httpStatus (status : Int)
  | malformedJson
  | notAnObject
deriving DecidableEq, Repr

/-- What is said about a reply. -/
def TransportError.message : TransportError → String
  | .unreachable =>
    "RPC connection failed. Ensure bitcoind is reachable, authentication is valid, " ++
    "and BITCOIN_RPC_* variables (or ~/.runemint.yaml) point to the right host and port."
  | .unauthorized =>
    "Unauthorized (401). Ensure BITCOIN_RPC_USER/BITCOIN_RPC_PASSWORD or the cookie file are valid."
  | .httpStatus _ =>
    "RPC server returned an HTTP error; check the URL, wallet name, authentication, " ++
    "and BITCOIN_RPC_* settings."
  | .malformedJson => "RPC server returned malformed JSON"
  | .notAnObject => "RPC server returned a non-object JSON response"

/-- The status of a reply that was judged by it. -/
def TransportError.status? : TransportError → Option Int
  | .unauthorized => some 401
  | .httpStatus status => some status
  | _ => none

/-! ## Hints -/

/-- A known cause of an error. -/
inductive Hint where
  | belowRelayFee
  | dustOutput
  | insufficientFunds
  | walletLocked
  | spentInput
  | walletNotLoaded
deriving DecidableEq, Repr

/-- What can be done about a cause. -/
def Hint.text : Hint → String
  | .belowRelayFee =>
    "The node rejected the transaction because the fee is below its minrelaytxfee policy. " ++
    "Retry with a higher --fee-rate."
  | .dustOutput => "An output is below the node's dust threshold. Increase --postage."
  | .insufficientFunds =>
    "The wallet does not hold enough cardinal (inscription- and rune-free) outputs to pay for " ++
    "the mint. Send plain bitcoin to the wallet and retry."
  | .walletLocked =>
    "The wallet is locked. Unlock it with walletpassphrase, then retry the command."
  | .spentInput =>
    "One of the funding inputs was spent by another transaction. Another mint from the same " ++
    "wallet may have raced this one; retry once it confirms."
  | .walletNotLoaded =>
    "The requested wallet is not loaded. Load it with `loadwallet` or pass --wallet."

namespace RpcError

/-- Whether the code is a certain number. -/
def hasCode (e : RpcError) (code : Int) : Bool :=
  e.code.same (.int code)

/-- The message in lower case; only text has one. -/
def loweredMessage (e : RpcError) : Except Mismatch String :=
  match e.message.wording? with
  | some message => .ok (Text.lower message)
  | none => .error .notAnObject

/-- Whether the code is one of those for a spent input; a code that is no plain value cannot be
looked up. -/
def isSpentInputCode (e : RpcError) : Except Mismatch Bool :=
  if e.code.isHashable then .ok (e.hasCode (-25) || e.hasCode (-27)) else .error .wrongKind

/-- The hint for an error, if its cause is known. A code settles most causes; the wording of the
message settles the others. -/
def hint? (e : RpcError) : Except Mismatch (Option Hint) := do
  if e.hasCode (-26) then
    if ← e.message.contains "min relay fee not met" then return some .belowRelayFee
    if ← e.message.contains "dust" then return some .dustOutput
  if e.hasCode (-6) then return some .insufficientFunds
  let message ← e.loweredMessage
  if Json.textContains message "insufficient funds" then return some .insufficientFunds
  if e.hasCode (-13) then return some .walletLocked
  if Json.textContains message "wallet passphrase" then return some .walletLocked
  if Json.textContains message "wallet locked" then return some .walletLocked
  if ← e.isSpentInputCode then return some .spentInput
  if Json.textContains message "missing inputs" then return some .spentInput
  if Json.textContains message "already in block chain" then return some .spentInput
  if e.hasCode (-18) then return some .walletNotLoaded
  return none

end RpcError

/-- The hint for an error as the node wrote it in a document; anything but an object has none. -/
def hintOfJson? (error : Json) : Except Mismatch (Option Hint) :=
  match error with
  | .obj members =>
    let code := (Json.find? members "code").getD .null
    let message := (Json.find? members "message").getD (.str "")
    RpcError.hint? ⟨code, if message.points?.isSome then message else .str message.display⟩
  | _ => RpcError.hint? ⟨.null, .str ""⟩

end Runesmith.Node
