import Runesmith.Json
import Runesmith.Number.Decimal
import Runesmith.Text.Case

/-!
# Amounts

Amounts of bitcoin are whole numbers of sats. Typed amounts name their denomination, so that a bare
number is never taken for the wrong one; amounts in documents are in BTC.
-/

namespace Runesmith.Amount

/-- Why an amount was refused. Each error holds the amount as it is shown. -/
inductive Error where
  | missingDenomination (shown : String)
  | unknownDenomination (unit : String) (shown : String)
  | invalid (shown : String)
  | invalidBtc (shown : String)
  | notNonNegative (shown : String)
  | fraction (shown : String)
  /-- The amount cannot be multiplied by its denomination. -/
  | arithmetic (fault : Decimal.Fault)
deriving DecidableEq, Repr

/-- What is said about an error. -/
def Error.message : Error → String
  | .missingDenomination shown =>
    s!"missing denomination in amount {shown} (use e.g. 10000sat or 0.0001btc)"
  | .unknownDenomination unit shown => s!"unknown denomination {Text.quoted unit} in amount {shown}"
  | .invalid shown => s!"invalid amount {shown}"
  | .invalidBtc shown => s!"invalid BTC amount {shown}"
  | .notNonNegative shown => s!"amount {shown} must be a non-negative number"
  | .fraction shown => s!"amount {shown} has sub-satoshi precision"
  | .arithmetic .overflow => "amount too large"
  | .arithmetic .signalling => "amount is not a number"

/-- The sats of one BTC. -/
def satsPerBtc : Nat := 100000000

/-- The sats of one unit of a denomination. -/
def denomination? : String → Option Nat
  | "btc" => some satsPerBtc
  | "cbtc" => some 1000000
  | "mbtc" => some 100000
  | "bit" => some 100
  | "bits" => some 100
  | "sat" => some 1
  | "sats" => some 1
  | _ => none

/-- The whole number of sats that a decimal equals. -/
def wholeSats (shown : String) : Decimal → Except Error Nat
  | .finite x =>
    if x.negative && x.coefficient != 0 then .error (.notNonNegative shown)
    else match Decimal.wholeValue? x with
      | some sats => .ok sats
      | none => .error (.fraction shown)
  | _ => .error (.notNonNegative shown)

/-- A decimal number of units, as sats. -/
def ofUnits (unit : Nat) (shown : String) (x : Decimal) : Except Error Nat := do
  let product ← (x.scale unit).mapError .arithmetic
  wholeSats shown product

/-- Is it one of the letters `a` to `z`? -/
def isUnitLetter (c : Char) : Bool :=
  97 ≤ c.toNat ∧ c.toNat ≤ 122

/-- Reads a number and a denomination, such as `10000sat` or `0.0001 btc`, in any case. -/
def parse (raw : String) : Except Error Nat := do
  let shown := Text.quoted raw
  let text := (Text.lower (Text.trim raw)).toList.reverse
  let unit := String.ofList (text.takeWhile isUnitLetter).reverse
  let number := Text.trim (String.ofList (text.dropWhile isUnitLetter).reverse)
  if unit.isEmpty then throw (.missingDenomination shown)
  let some sats := denomination? unit | throw (.unknownDenomination unit shown)
  let some x := Decimal.parse? number | throw (.invalid shown)
  ofUnits sats shown x

/-- Reads an amount of BTC from a document: a number, or text that holds one. -/
def ofBtc (value : Json) : Except Error Nat := do
  let some x := Decimal.parse? value.display | throw (.invalidBtc value.quoted)
  ofUnits satsPerBtc value.quoted x

/-- An amount with its denomination. -/
def satsText (sats : Json) : String :=
  sats.display ++ "sat"

end Runesmith.Amount
