import Runesmith.Json

/-!
# Networks

The chains an address may belong to.
-/

namespace Runesmith

/-- A chain, or a group of chains that addresses do not tell apart. -/
inductive Network where
  | mainnet
  | testnet
  | signet
  | regtest
deriving DecidableEq, Repr

namespace Network

/-- The name of a network. -/
def name : Network → String
  | .mainnet => "bitcoin"
  | .testnet => "testnet"
  | .signet => "signet"
  | .regtest => "regtest"

/-- The network that the node calls by this name. -/
def ofChain? : String → Option Network
  | "main" => some .mainnet
  | "test" => some .testnet
  | "testnet4" => some .testnet
  | "signet" => some .signet
  | "regtest" => some .regtest
  | _ => none

end Network

end Runesmith
