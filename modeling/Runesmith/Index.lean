import Runesmith.Node

/-!
# The rune index

An index answers whether runes are indexed at all, what is known about a rune, and what a coin
carries. The height of the chain comes from the node, since that is what a mint is judged against.
-/

namespace Runesmith

/-- What a mint needs to know from an index. -/
structure Index (m : Type → Type) where
  runesIndexed : Action m Bool
  chainHeight : Action m Int
  lookup : SpacedRune → Action m (Option (RuneId × Entry))
  /-- The number of blocks in the index, one more than its height. -/
  blockCount : Action m Int
  coinInfo : Coin → Action m Json

namespace Index

/-- Does what the index says about a coin mean that it carries neither inscriptions nor runes? A
coin that is not indexed yet cannot be vouched for. -/
def isCardinal (info : Json) : Except Mismatch Bool := do
  if !(← info.memberOr "indexed" .null).isTruthy then return false
  return !(← info.memberOr "inscriptions" .null).isTruthy
    && !(← info.memberOr "runes" .null).isTruthy

/-! ## Waiting -/

/-- How many times an index is asked by default. -/
def defaultAttempts : Int := 20

/-- The seconds between two questions by default. -/
def defaultInterval : Binary64 := Binary64.ofRatio false 5 100

section

variable {m : Type → Type} [Monad m]

/-- Asks up to `left` more times until the index has more blocks than the height of the chain. -/
def poll (index : Index m) (pause : m Unit) (attempts chainHeight : Int) :
    (last : Option Int) → (left : Nat) → Action m Int
  | last, 0 => throw (.notSynced attempts last chainHeight)
  | _, left + 1 => do
    let count ← index.blockCount
    if chainHeight < count then return count
    (pause : m Unit)
    poll index pause attempts chainHeight (some count) left

/-- Waits until the index has caught up with the chain and returns its number of blocks. -/
def waitForSync (index : Index m) (pause : m Unit) (attempts : Int) : Action m Int := do
  let chainHeight ← index.chainHeight
  poll index pause attempts chainHeight none attempts.toNat

end

end Index

/-! ## An index server -/

/-- An index that is asked over HTTP, with the node for the height of the chain. -/
structure IndexServer where
  url : String
  node : Node

namespace IndexServer

/-- In seconds. -/
def timeout : Nat := 30

/-- A server at a URL; slashes at its end are dropped. -/
def ofUrl (url : String) (node : Node) : IndexServer :=
  ⟨Text.trimEnd (· = '/') url, node⟩

/-- What the answer about a rune says: its id and its entry. Anything unexpected in it, but for an
entry that has no members and numbers without a whole part, is an error of the index. -/
def readRune (rune : SpacedRune) (payload : Json) : Except Failure (RuneId × Entry) :=
  let unexpected : Failure := .index (.unexpectedRune rune)
  let wrap (cause : Mismatch) : Failure := match cause with
    | .notAnObject => .mismatch .notAnObject
    | .tooLarge => .mismatch .tooLarge
    | _ => unexpected
  do
    let id ← (payload.item "id").mapError wrap
    let id ← (RuneId.ofText id.display).mapError fun _ => unexpected
    let entry ← (payload.item "entry").mapError wrap
    let entry ← (Entry.ofJson entry).mapError fun
      | .mismatch cause => wrap cause
      | _ => unexpected
    return (id, entry)

section

variable {m : Type → Type} [Monad m] (http : Http.Transport m) (server : IndexServer)

/-- The reply for a path; the status 404 means that there is nothing. -/
def get (path : String) : Action m (Option Http.Response) := do
  match ← http.get ⟨server.url ++ path, "application/json", timeout⟩ with
  | none => throw (.index (.unreachable server.url))
  | some response =>
    if response.status = 404 then return none
    if !response.isOk then throw (.index (.httpStatus response.status path))
    return some response

/-- The document for a path; null means that there is nothing. -/
def getJson (path : String) : Action m Json := do
  match ← get http server path with
  | none => return .null
  | some response =>
    match response.json? with
    | some value => return value
    | none => throw (.index (.malformedJson path))

/-- Are runes indexed? -/
def runesIndexed : Action m Bool := do
  match ← getJson http server "/status" with
  | .obj members => return ((Json.find? members "rune_index").getD .null).isTruthy
  | _ => throw (.index .statusNotAnObject)

/-- What is known about a rune. -/
def lookup (rune : SpacedRune) : Action m (Option (RuneId × Entry)) := do
  match ← getJson http server s!"/rune/{rune.rune.name}" with
  | .null => return none
  | payload => some <$> ExceptT.mk (pure (readRune rune payload))

/-- The number of blocks in the index. -/
def blockCount : Action m Int := do
  match ← get http server "/blockcount" with
  | none => throw (.index .noBlockCount)
  | some response =>
    match Numeral.integer? (Text.trim response.body) with
    | some count => return count
    | none => throw (.index (.blockCountNotNumeric response.body))

/-- What a coin carries. -/
def coinInfo (coin : Coin) : Action m Json := do
  match ← getJson http server s!"/output/{coin.text}" with
  | .null => throw (.index (.unknownOutput coin.text))
  | .obj members => return .obj members
  | _ => throw (.index (.outputNotAnObject coin.text))

/-- The server as an index. -/
def toIndex : Index m where
  runesIndexed := runesIndexed http server
  chainHeight := server.node.getBlockCount http
  lookup := lookup http server
  blockCount := blockCount http server
  coinInfo := coinInfo http server

end

end IndexServer

end Runesmith
