import Runesmith.Address
import Runesmith.Coin
import Runesmith.Entry
import Runesmith.Node.Error
import Runesmith.Runestone.Encipher
import Runesmith.Transaction.Wire

/-!
# Failures

Everything that can go wrong on the way from a request to a mint: the causes found by the index, the
wallet and the node, the rules a mint has to keep, and documents of an unexpected shape. An action
is a computation in some monad that may end in a failure.
-/

namespace Runesmith

/-! ## The index -/

/-- What can go wrong with the index. -/
inductive IndexError where
  | unreachable (server : String)
  | httpStatus (status : Int) (path : String)
  | malformedJson (path : String)
  | statusNotAnObject
  | unexpectedRune (rune : SpacedRune)
  | noBlockCount
  | blockCountNotNumeric (text : String)
  | unknownOutput (coin : String)
  | outputNotAnObject (coin : String)
deriving DecidableEq, Repr

/-- What is said about an error of the index. -/
def IndexError.message : IndexError → String
  | .unreachable server =>
    s!"Could not reach ord server at {server}; check --server-url and that `ord server` is running."
  | .httpStatus status path => s!"ord server returned HTTP {status} for {path}"
  | .malformedJson path => s!"ord server returned malformed JSON for {path}"
  | .statusNotAnObject => "ord server /status did not return a JSON object"
  | .unexpectedRune rune => s!"ord server returned an unexpected rune payload for {rune.text}"
  | .noBlockCount => "ord server does not expose /blockcount"
  | .blockCountNotNumeric text =>
    s!"ord server returned a non-numeric block count: {Text.quoted text}"
  | .unknownOutput coin => s!"output in wallet but not in ord server: {coin}"
  | .outputNotAnObject coin => s!"ord server /output/{coin} did not return a JSON object"

/-- The status that an error of the index is about. -/
def IndexError.status? : IndexError → Option Int
  | .httpStatus status _ => some status
  | .unknownOutput _ => some 404
  | _ => none

/-! ## The wallet -/

/-- What can go wrong with locks on coins. -/
inductive WalletError where
  | lockRefused (cause : Node.RpcError)
  | notLocked
  | notReleased

/-- What is said about an error of the wallet. -/
def WalletError.message : WalletError → String
  | .lockRefused cause => s!"failed to lock non-cardinal outputs: {cause.text}"
  | .notLocked => "failed to lock non-cardinal outputs"
  | .notReleased => "failed to release locked outputs"

/-! ## Completing transactions -/

/-- An error of the node with a hint, if there is one. -/
structure Refused where
  cause : Node.RpcError
  hint : Option Node.Hint

/-- The error and the hint on a line of its own. -/
def Refused.text (refused : Refused) : String :=
  refused.cause.text ++ match refused.hint with
    | some hint => s!"\nHint: {hint.text}"
    | none => ""

/-- What is wrong with a transaction that the node answered. -/
inductive ReplyError where
  | noHex
  | undecodable (cause : Transaction.DecodeError)
deriving DecidableEq, Repr

/-- What is said about the answer of the node about a transaction of some kind. -/
def ReplyError.message (what : String) : ReplyError → String
  | .noHex => s!"node returned no {what} transaction hex"
  | .undecodable cause => s!"node returned an undecodable {what} transaction: {cause.message}"

/-- Why a transaction was not funded. -/
inductive FundingError where
  | insufficientFunds (answer : Refused)
  | refused (answer : Refused)
  | transport (cause : Node.TransportError)
  | reply (cause : ReplyError)

/-- What is said about a transaction that was not funded. -/
def FundingError.message : FundingError → String
  | .insufficientFunds answer => s!"not enough cardinal utxos: {answer.text}"
  | .refused answer => s!"fundrawtransaction failed: {answer.text}"
  | .transport cause => s!"fundrawtransaction failed: {cause.message}"
  | .reply cause => cause.message "funded"

/-- Why a transaction was not signed. -/
inductive SigningError where
  | refused (cause : Node.RpcError)
  | transport (cause : Node.TransportError)
  /-- Signatures are missing; the details may be empty. -/
  | incomplete (detail : String)
  | reply (cause : ReplyError)

/-- What is said about a transaction that was not signed. -/
def SigningError.message : SigningError → String
  | .refused cause => s!"signrawtransactionwithwallet failed: {cause.text}"
  | .transport cause => s!"signrawtransactionwithwallet failed: {cause.message}"
  | .incomplete detail =>
    "Node failed to produce a complete signature set" ++
      if detail.isEmpty then "" else s!": {detail}"
  | .reply cause => cause.message "signed"

/-- Why a transaction was not relayed. -/
inductive BroadcastError where
  | refused (answer : Refused)
  | transport (cause : Node.TransportError)

/-- What is said about a transaction that was not relayed. -/
def BroadcastError.message : BroadcastError → String
  | .refused answer => s!"Broadcast failed: {answer.text}"
  | .transport cause => s!"Broadcast failed: {cause.message}"

/-! ## Postage -/

/-- The sats that go with the minted runes. A truth value in a configuration counts as one sat or
none and is shown as it is. -/
inductive Postage where
  | sats (n : Int)
  | flag (b : Bool)
deriving DecidableEq, Repr

/-- The number of sats. -/
def Postage.value : Postage → Int
  | .sats n => n
  | .flag b => if b then 1 else 0

/-- The postage as a document value. -/
def Postage.toJson : Postage → Json
  | .sats n => .int n
  | .flag b => .bool b

/-! ## All failures -/

/-- A failure of any part. -/
inductive Failure where
  /-- A document of an unexpected shape. -/
  | mismatch (cause : Mismatch)
  | rune (cause : Rune.Error)
  | runestone (cause : Runestone.Error)
  | transaction (cause : Transaction.EncodeError)
  | address (cause : Address.Error)
  | unknownChain (chain : Json)
  | wrongNetwork (cause : Address.WrongNetwork)
  /-- A fee rate that the node cannot be told. -/
  | feeRateTooLarge
  | index (cause : IndexError)
  /-- The index does not know about runes. -/
  | runesNotIndexed
  | notSynced (attempts : Int) (indexHeight : Option Int) (chainHeight : Int)
  | notEtched (rune : SpacedRune)
  | ineligible (refusal : Entry.Refusal) (rune : Option SpacedRune)
  | belowDust (postage : Postage) (dust : Nat)
  | rpc (cause : Node.RpcError)
  | transport (cause : Node.TransportError)
  | wallet (cause : WalletError)
  | funding (cause : FundingError)
  | signing (cause : SigningError)
  | broadcast (cause : BroadcastError)
  /-- The signed transaction does not carry the intended runestone. -/
  | encodingMismatch (expected : Runestone) (actual : Option Artifact) (rawTx : String)

/-- What is said about a failure. -/
def Failure.message : Failure → String
  | .mismatch cause => cause.message
  | .rune cause => cause.message
  | .runestone cause => cause.message
  | .transaction cause => cause.message
  | .address cause => cause.message
  | .unknownChain chain => s!"unknown chain {chain.display}"
  | .wrongNetwork cause => cause.message
  | .feeRateTooLarge => "fee rate too large"
  | .index cause => cause.message
  | .runesNotIndexed => "minting requires an ord server index created with `--index-runes`"
  | .notSynced attempts indexHeight chainHeight =>
    let place := match indexHeight with
      | some height => toString height
      | none => "None"
    s!"ord server failed to synchronize with the node after {attempts} attempts " ++
      s!"(index at {place}, chain at {chainHeight})"
  | .notEtched name => s!"rune {name.text} has not been etched"
  | .ineligible refusal name => refusal.message name
  | .belowDust _ dust => s!"postage below dust limit of {dust}sat"
  | .rpc cause => cause.text
  | .transport cause => cause.message
  | .wallet cause => cause.message
  | .funding cause => cause.message
  | .signing cause => cause.message
  | .broadcast cause => cause.message
  | .encodingMismatch _ _ rawTx =>
    s!"signed transaction does not decipher to the expected runestone; raw transaction: {rawTx}"

/-- A computation that may end in a failure. -/
abbrev Action (m : Type → Type) (α : Type) : Type := ExceptT Failure m α

namespace Action

variable {m : Type → Type} [Monad m] {α : Type}

/-- A result, or a failure with a cause of some kind. -/
def ofExcept {ε : Type} (wrap : ε → Failure) (result : Except ε α) : Action m α :=
  ExceptT.mk (pure (result.mapError wrap))

/-- A conversion of a document. -/
def shape (result : Except Mismatch α) : Action m α :=
  ofExcept .mismatch result

end Action

end Runesmith
