import Runesmith.Json.Shape

/-!
# Coins

An unspent output as the node lists it. The transaction id is whatever the node answered; it is only
compared and sent back.
-/

namespace Runesmith

/-- An output that the wallet may spend. -/
structure Coin where
  txid : Json
  vout : Int

namespace Coin

/-- Whether two coins are the same output. -/
def same (a b : Coin) : Bool :=
  a.txid.same b.txid && a.vout == b.vout

/-- The coin in a list of the node. -/
def ofJson (item : Json) : Except Mismatch Coin := do
  let txid ← item.item "txid"
  let vout ← (← item.item "vout").toInteger
  return ⟨txid, vout⟩

/-- The coin as a document. -/
def toJson (coin : Coin) : Json :=
  .obj [("txid", coin.txid), ("vout", .int coin.vout)]

/-- The transaction id and the position. -/
def text (coin : Coin) : String :=
  s!"{coin.txid.display}:{coin.vout}"

end Coin

end Runesmith
