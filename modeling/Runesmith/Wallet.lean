import Runesmith.Index

/-!
# The wallet

Coins that carry inscriptions or runes must not be spent as fees. Before a transaction is funded,
every such coin is locked, and so is every coin that the index cannot vouch for. If funding fails,
the coins that were locked for it, and no others, are released.
-/

namespace Runesmith

/-- What a mint needs from a wallet. -/
structure Wallet (m : Type → Type) where
  /-- Locks coins that must not be spent and returns those that were not locked before. -/
  lockNonCardinal : Action m (List Coin)
  release : List Coin → Action m Unit
  /-- The script of a fresh address of the wallet. -/
  changeScript : Action m Bytes
  network : Action m Network

/-- Locking and funding on one wallet exclude each other. Wallets of one name share a lock. -/
structure WalletLock where
  name : String
deriving DecidableEq, Repr

/-- A wallet of the node, with an index that knows what its coins carry. -/
structure NodeWallet (m : Type → Type) where
  node : Node
  index : Index m

/-- The network of the node's chain, once it has been asked for. -/
abbrev NetworkMemory := Option Network

namespace NodeWallet

/-- The kind of address that is asked for. -/
def addressKind : Json := .str "bech32m"

/-- The network of the chain that the node is on. -/
def networkOf (info : Json) : Except Failure Network := do
  let chain ← (info.item "chain").mapError .mismatch
  match chain with
  | .str name =>
    match Network.ofChain? name with
    | some network => return network
    | none => throw (.unknownChain chain)
  | _ =>
    if chain.isHashable then throw (.unknownChain chain)
    throw (.mismatch .wrongKind)

/-- A coin of the node's list that can be looked up among others. -/
def coinOf (item : Json) : Except Mismatch Coin := do
  let coin ← Coin.ofJson item
  if coin.txid.isHashable then return coin
  throw .wrongKind

/-- The address in an answer of the node. -/
def addressOf (answer : Json) : Except Failure Address :=
  match answer with
  | .str text => (Address.ofText text).mapError .address
  | .rough text => (Address.ofText text.escaped).mapError .address
  | _ => .error (.mismatch .notAnObject)

section

variable {m : Type → Type} [Monad m] (http : Http.Transport m) (wallet : NodeWallet m)

/-- Those of the listed coins that are neither locked nor cardinal. The index is asked about one
coin after the other. -/
def nonCardinal (locked : List Coin) : List Json → Action m (List Coin)
  | [] => return []
  | item :: rest => do
    let coin ← Action.shape (coinOf item)
    if locked.any coin.same then nonCardinal locked rest
    else
      let info ← wallet.index.coinInfo coin
      let cardinal ← Action.shape (Index.isCardinal info)
      let more ← nonCardinal locked rest
      return if cardinal then more else coin :: more

/-- Asks the node to lock coins. An error of the node becomes one of the wallet. -/
def lock (coins : List Coin) : Action m Bool :=
  tryCatch (wallet.node.lockUnspent http (.bool false) (.arr (coins.map Coin.toJson))) fun
    | .rpc cause => throw (.wallet (.lockRefused cause))
    | failure => throw failure

/-- Locks the coins that must not be spent; none are locked before all have been judged. -/
def lockNonCardinal : Action m (List Coin) := do
  let listed ← wallet.node.listLockUnspent http
  let locked ← Action.shape (listed.elements >>= List.mapM coinOf)
  let unspent ← wallet.node.listUnspent http (.int 0) Node.maxConfirmations
  let coins ← nonCardinal wallet locked (← Action.shape unspent.elements)
  if coins.isEmpty then return []
  if !(← lock http wallet coins) then throw (.wallet .notLocked)
  return coins

/-- Releases coins. -/
def release (coins : List Coin) : Action m Unit := do
  if coins.isEmpty then return
  if !(← wallet.node.lockUnspent http (.bool true) (.arr (coins.map Coin.toJson))) then
    throw (.wallet .notReleased)

/-- The network, which the node is asked for once. -/
def network [MonadStateOf NetworkMemory m] : Action m Network := do
  match ← getThe NetworkMemory with
  | some network => return network
  | none =>
    let info ← wallet.node.getBlockchainInfo http
    let network ← ExceptT.mk (pure (networkOf info))
    set (some network : NetworkMemory)
    return network

/-- The script of a fresh address. -/
def changeScript [MonadStateOf NetworkMemory m] : Action m Bytes := do
  let answer ← wallet.node.getRawChangeAddress http addressKind
  let address ← ExceptT.mk (pure (addressOf answer))
  let network ← network http wallet
  let address ← Action.ofExcept .wrongNetwork (address.requireNetwork network)
  return address.script

/-- The wallet of the node as a wallet. -/
def toWallet [MonadStateOf NetworkMemory m] : Wallet m where
  lockNonCardinal := lockNonCardinal http wallet
  release := release http wallet
  changeScript := changeScript http wallet
  network := network http wallet

end

end NodeWallet

end Runesmith
