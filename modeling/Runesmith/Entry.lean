import Runesmith.Json.Shape
import Runesmith.Pile
import Runesmith.Rune

/-!
# Entries of the rune index

What the index knows about an etched rune, and whether the rune can be minted at a height: its terms
have to be there, the height has to lie in every window, and the cap must not be reached. The reason
of a refusal shows whole numbers of any length: a limit that an interpreter sets on this is left
out.
-/

namespace Runesmith

/-- The terms under which anybody may mint a rune, as the index reports them. -/
structure Terms where
  amount : Option Int
  cap : Option Int
  height : Option Int × Option Int
  /-- Heights counted from the block of the etching. -/
  offset : Option Int × Option Int
deriving DecidableEq, Repr

/-- The state of an etched rune. -/
structure Entry where
  block : Int
  spacedRune : SpacedRune
  divisibility : Nat
  etching : String
  mints : Int
  number : Int
  premine : Int
  burned : Int
  symbol : Json
  terms : Option Terms
  timestamp : Int
  turbo : Bool

namespace Entry

/-! ## Reading -/

/-- Why a document is no entry. -/
inductive Error where
  | mismatch (cause : Mismatch)
  | divisibility (value : Int)
  | rune (cause : Rune.Error)
deriving DecidableEq, Repr

/-- What is said about an error. -/
def Error.message : Error → String
  | .mismatch cause => cause.message
  | .divisibility value => s!"divisibility {value} outside 0..=38"
  | .rune cause => cause.message

/-- The most digits behind the point. -/
def maxDivisibility : Nat := 38

/-- The whole number of a value that may be null. -/
def optionalInteger : Json → Except Mismatch (Option Int)
  | .null => .ok none
  | value => value.toInteger.map some

/-- A pair of bounds either of which may be null; an empty value stands for two of them. -/
def optionalPair (value : Json) : Except Mismatch (Option Int × Option Int) := do
  if !value.isTruthy then return (none, none)
  let (start, stop) ← value.pair
  return (← optionalInteger start, ← optionalInteger stop)

/-- Reads terms. -/
def termsOfJson (data : Json) : Except Mismatch Terms := do
  let amount ← optionalInteger (← data.memberOr "amount" .null)
  let cap ← optionalInteger (← data.memberOr "cap" .null)
  let height ← optionalPair (← data.memberOr "height" .null)
  let offset ← optionalPair (← data.memberOr "offset" .null)
  return ⟨amount, cap, height, offset⟩

/-- The whole number of a member, or zero without it. -/
def integerMember (data : Json) (key : String) : Except Mismatch Int := do
  (← data.memberOr key (.int 0)).toInteger

/-- Reads the index's document about a rune. Empty terms are no terms. -/
def ofJson (data : Json) : Except Error Entry := do
  let checked {α : Type} (x : Except Mismatch α) : Except Error α := x.mapError .mismatch
  let terms ← checked (data.memberOr "terms" .null)
  let divisibility ← checked (integerMember data "divisibility")
  if divisibility < 0 ∨ maxDivisibility < divisibility then throw (.divisibility divisibility)
  let block ← checked do (← data.item "block").toInteger
  let name ← checked (data.item "spaced_rune")
  let spacedRune ← (SpacedRune.ofText name.display).mapError .rune
  let etching ← checked (data.memberOr "etching" (.str ""))
  let mints ← checked (integerMember data "mints")
  let number ← checked (integerMember data "number")
  let premine ← checked (integerMember data "premine")
  let burned ← checked (integerMember data "burned")
  let symbol ← checked (data.memberOr "symbol" .null)
  let terms ← if terms.isTruthy then some <$> checked (termsOfJson terms) else pure none
  let timestamp ← checked (integerMember data "timestamp")
  let turbo ← checked (data.memberOr "turbo" (.bool false))
  return {
    block := block
    spacedRune := spacedRune
    divisibility := divisibility.toNat
    etching := etching.display
    mints := mints
    number := number
    premine := premine
    burned := burned
    symbol := symbol
    terms := terms
    timestamp := timestamp
    turbo := turbo.isTruthy }

/-! ## Minting -/

/-- One of two bounds that may be missing: `choose` decides if both are there. -/
def combine (choose : Int → Int → Int) : Option Int → Option Int → Option Int
  | some a, some b => some (choose a b)
  | some a, none => some a
  | none, b => b

/-- The first height at which the rune can be minted, if there is a bound. -/
def start (entry : Entry) : Option Int :=
  entry.terms.bind fun terms =>
    combine max (terms.offset.1.map (entry.block + ·)) terms.height.1

/-- The first height at which the rune cannot be minted any more, if there is a bound. -/
def stop (entry : Entry) : Option Int :=
  entry.terms.bind fun terms =>
    combine min (terms.offset.2.map (entry.block + ·)) terms.height.2

/-- Why a rune cannot be minted. -/
inductive Refusal where
  | notMintable
  | notStarted (start : Int)
  | ended (stop : Int)
  | capReached (cap : Int)
deriving DecidableEq, Repr

/-- The reason without the name of the rune. -/
def Refusal.reason : Refusal → String
  | .notMintable => "not mintable"
  | .notStarted start => s!"not mintable until {start}"
  | .ended stop => s!"mint ended on block {stop}"
  | .capReached cap => s!"limited to {cap} mints"

/-- The reason, behind the name of the rune once that is known. -/
def Refusal.message (refusal : Refusal) : Option SpacedRune → String
  | none => refusal.reason
  | some rune => s!"rune {rune.text} {refusal.reason}"

/-- The amount that one mint yields at a height. -/
def mintable (entry : Entry) (height : Int) : Except Refusal Int :=
  match entry.terms with
  | none => .error .notMintable
  | some terms =>
    match entry.start.filter (height < ·) with
    | some start => .error (.notStarted start)
    | none =>
      match entry.stop.filter (· ≤ height) with
      | some stop => .error (.ended stop)
      | none =>
        let cap := terms.cap.getD 0
        if cap ≤ entry.mints then .error (.capReached cap) else .ok (terms.amount.getD 0)

/-- A pile of the rune. -/
def pile (entry : Entry) (amount : Int) : Pile :=
  ⟨amount, entry.divisibility, entry.symbol⟩

end Entry

end Runesmith
