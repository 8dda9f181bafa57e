import Runesmith.Completion
import Runesmith.Mint.Request
import Runesmith.Wallet

/-!
# Minting

A mint goes through stages in a fixed order, and reads the state of the index anew every time. A
failure is told with the stage that could not be reached. Nothing is relayed unless the signed
transaction carries exactly the runestone that was meant.
-/

namespace Runesmith

/-- How far a mint has come. -/
inductive Stage where
  | requested
  | indexChecked
  | eligible
  | encoded
  | skeletonBuilt
  | funded
  | signed
  | broadcast
  | reported
  | failed
deriving DecidableEq, Repr

/-- The name of a stage. -/
def Stage.name : Stage → String
  | .requested => "requested"
  | .indexChecked => "index_checked"
  | .eligible => "eligible"
  | .encoded => "encoded"
  | .skeletonBuilt => "skeleton_built"
  | .funded => "funded"
  | .signed => "signed"
  | .broadcast => "broadcast"
  | .reported => "reported"
  | .failed => "failed"

/-- A failure with the stage that could not be reached. -/
structure Stopped where
  stage : Stage
  cause : Failure

/-- Everything a mint works with. -/
structure Mint (m : Type → Type) where
  index : Index m
  wallet : Wallet m
  node : Completion m
  /-- The postage of requests that name none. -/
  targetPostage : Postage

namespace Mint

/-- A mint that was relayed. -/
structure Result where
  rune : SpacedRune
  pile : Pile
  /-- The id of the transaction, or whatever the node answered. -/
  mint : Json

/-- The result as a document. -/
def Result.toJson (result : Result) : Json :=
  .obj [("rune", .str result.rune.text), ("pile", result.pile.toJson), ("mint", result.mint)]

/-- A mint that is funded and not signed. -/
structure Prepared where
  rune : SpacedRune
  pile : Pile
  transaction : Transaction

/-- The prepared mint as a document. -/
def Prepared.toJson (prepared : Prepared) : Except Transaction.EncodeError Json :=
  prepared.transaction.toHex.map fun hex =>
    .obj [("rune", .str prepared.rune.text), ("pile", prepared.pile.toJson),
      ("unsigned_transaction", .str hex)]

/-- A funded transaction with the runestone that it has to carry. -/
structure Funded where
  runestone : Runestone
  pile : Pile
  transaction : Transaction

section

variable {m : Type → Type} [Monad m]

/-- An action on the way to a stage. -/
def reaching {α : Type} (stage : Stage) (action : Action m α) : ExceptT Stopped m α :=
  ExceptT.adapt (Stopped.mk stage) action

variable (self : Mint m)

/-- The index has to know about runes. -/
def checkIndex : Action m Unit := do
  if !(← self.index.runesIndexed) then throw .runesNotIndexed

/-- The id of a rune that can be minted now, and what a mint of it yields. -/
def eligible (rune : SpacedRune) : Action m (RuneId × Pile) := do
  let height ← self.index.chainHeight
  let some (id, entry) ← self.index.lookup rune | throw (.notEtched rune)
  match entry.mintable height with
  | .ok amount => return (id, entry.pile amount)
  | .error refusal => throw (.ineligible refusal (some rune))

/-- The script of a destination; without one, the wallet receives the runes itself. -/
def destinationScript : Option String → Action m Bytes
  | none => self.wallet.changeScript
  | some text => do
    let address ← Action.ofExcept .address (Address.ofText text)
    let network ← self.wallet.network
    let address ← Action.ofExcept .wrongNetwork (address.requireNetwork network)
    return address.script

/-- The skeleton of a mint. -/
def buildSkeleton (request : MintRequest) (runestoneScript : Bytes) : Action m Transaction := do
  let postage := match request.postage with
    | some sats => Postage.sats sats
    | none => self.targetPostage
  let destination ← self.destinationScript request.destination
  ExceptT.mk (pure (Transaction.skeleton runestoneScript destination postage))

/-- Releases coins after funding failed. That the node or the wallet cannot do it is no reason to
hide why funding failed. -/
def releaseAfterFailure (locked : List Coin) : Action m Unit :=
  tryCatch (self.wallet.release locked) fun
    | .wallet _ => return
    | .rpc _ => return
    | .transport _ => return
    | failure => throw failure

/-- Funds a skeleton while the coins that must not be spent are locked. -/
def fundLocked (skeleton : Transaction) (feeRate : FeeRate) : Action m Transaction := do
  let locked ← self.wallet.lockNonCardinal
  tryCatch (self.node.fund skeleton feeRate) fun failure => do
    self.releaseAfterFailure locked
    throw failure

/-- Everything up to a funded transaction. -/
def fund (request : MintRequest) : ExceptT Stopped m Funded := do
  reaching .indexChecked self.checkIndex
  let (id, pile) ← reaching .eligible (self.eligible request.rune)
  let (runestone, script) ←
    reaching .encoded (Action.ofExcept .runestone (Runestone.encipherMint id))
  let skeleton ← reaching .skeletonBuilt (self.buildSkeleton request script)
  let transaction ← reaching .funded (self.fundLocked skeleton request.feeRate)
  return ⟨runestone, pile, transaction⟩

/-- Relays a signed transaction if it carries the intended runestone. -/
def broadcastChecked (runestone : Runestone) (signed : Transaction) : Action m Json := do
  let artifact := Runestone.decipher signed
  if artifact = some (.runestone runestone) then self.node.broadcast signed
  else
    match signed.toHex with
    | .ok rawTx => throw (.encodingMismatch runestone artifact rawTx)
    | .error cause => throw (.transaction cause)

/-- Mints a rune. -/
def run (request : MintRequest) : ExceptT Stopped m Result := do
  let funded ← self.fund request
  let signed ← reaching .signed (self.node.sign funded.transaction)
  let mint ← reaching .broadcast (self.broadcastChecked funded.runestone signed)
  return ⟨request.rune, funded.pile, mint⟩

/-- Goes as far as a funded transaction, which is neither signed nor relayed. -/
def prepare (request : MintRequest) : ExceptT Stopped m Prepared := do
  let funded ← self.fund request
  return ⟨request.rune, funded.pile, funded.transaction⟩

end

end Mint

end Runesmith
