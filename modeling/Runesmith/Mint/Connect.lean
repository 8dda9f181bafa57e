import Runesmith.Config
import Runesmith.Mint

/-!
# Minting through a node and an index server

Puts together everything a mint works with: the node, with the wallet of the mint, completes
transactions, the index server tells what runes and coins are.
-/

namespace Runesmith

namespace Mint

variable {m : Type → Type} [Monad m] (http : Http.Transport m)

/-- The node of a configuration, with the wallet of the mint. -/
def nodeOf (context : MintContext) (config : RpcConfig) : Node :=
  config.node.withWallet context.wallet

/-- The index server of a mint. -/
def indexOf (context : MintContext) (config : RpcConfig) : Index m :=
  (IndexServer.ofUrl context.serverUrl (nodeOf context config)).toIndex http

/-- Everything a mint works with. -/
def ofContext [MonadStateOf NetworkMemory m] (context : MintContext) (config : RpcConfig) :
    Mint m where
  index := indexOf http context config
  wallet := (NodeWallet.mk (nodeOf context config) (indexOf http context config)).toWallet http
  node := (nodeOf context config).completion http
  targetPostage := context.targetPostage

/-- The lock under which a mint locks coins and funds. All mints of a process whose wallets have one
name share it. -/
def lockOf (context : MintContext) : WalletLock :=
  ⟨context.wallet.display⟩

/-- Waits until the index has caught up with the chain, unless nobody is to wait. -/
def awaitIndex (context : MintContext) (config : RpcConfig) : Action m Unit := do
  if context.noSync then return
  let pause := http.sleep Index.defaultInterval
  let _ ← (indexOf http context config).waitForSync pause Index.defaultAttempts

end Mint

end Runesmith
