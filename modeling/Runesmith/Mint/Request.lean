import Runesmith.FeeRate
import Runesmith.Rune

/-!
# Mint requests

What a caller wants: a rune, the fee rate to pay, and perhaps a postage and a destination.
-/

namespace Runesmith

/-- A request for one mint. -/
structure MintRequest where
  feeRate : FeeRate
  rune : SpacedRune
  /-- In sats. -/
  postage : Option Nat
  /-- An address. -/
  destination : Option String
deriving DecidableEq

namespace MintRequest

/-- Why a document is no request. -/
inductive Error where
  | notAnObject (cause : Mismatch)
  | missing (key : String)
  | feeRate (cause : FeeRate.Error)
  | rune (cause : Rune.Error)
  | postage (cause : Amount.Error)
deriving DecidableEq, Repr

/-- What is said about an error. -/
def Error.message : Error → String
  | .notAnObject cause => cause.message
  | .missing key => s!"mint request is missing {Text.quoted key}"
  | .feeRate cause => cause.message
  | .rune cause => cause.message
  | .postage cause => cause.message

/-- A member that a request must have. -/
def required (payload : Json) (key : String) : Except Error Json :=
  (payload.item key).mapError fun
    | .missingKey key => .missing key
    | cause => .notAnObject cause

/-- Reads a request; its postage is in BTC. -/
def ofJson (payload : Json) : Except Error MintRequest := do
  let feeRate ← (FeeRate.parse (← required payload "fee_rate")).mapError .feeRate
  let rune ← (SpacedRune.ofText (← required payload "rune").display).mapError .rune
  let postage ← (payload.memberOr "postage" .null).mapError .notAnObject
  let destination ← (payload.memberOr "destination" .null).mapError .notAnObject
  let postage ← match postage with
    | .null => pure none
    | value => some <$> (Amount.ofBtc value).mapError .postage
  return ⟨feeRate, rune, postage, if destination.isNull then none else some destination.display⟩

end MintRequest

end Runesmith
