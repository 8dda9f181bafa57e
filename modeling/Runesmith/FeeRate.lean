import Runesmith.Amount
import Runesmith.Json.Shape

/-!
# Fee rates

A fee rate is a positive number of sats for a virtual byte. The node wants it in BTC for a thousand
virtual bytes, where a fraction of a sat is rounded up.
-/

namespace Runesmith

/-- A finite and positive number of sats for a virtual byte. -/
structure FeeRate where
  satVb : Binary64
  finite : satVb.isFinite = true
  positive : satVb.isPositive = true
deriving DecidableEq

namespace FeeRate

/-- Why a value is no fee rate. -/
inductive Error where
  | invalid (shown : String)
  | notPositive (rate : Binary64)
  | tooLarge
deriving DecidableEq, Repr

/-- What is said about an error. -/
def Error.message : Error → String
  | .invalid shown => s!"invalid fee rate: {shown}"
  | .notPositive rate => s!"fee rate must be a positive number of sat/vB, got {rate.text}"
  | .tooLarge => "fee rate too large"

/-- The fee rate of a double. -/
def ofDouble (rate : Binary64) : Except Error FeeRate :=
  if hf : rate.isFinite = true then
    if hp : rate.isPositive = true then .ok ⟨rate, hf, hp⟩ else .error (.notPositive rate)
  else .error (.notPositive rate)

/-- Reads a fee rate from a document: a number, or text that holds one. -/
def parse (raw : Json) : Except Error FeeRate :=
  match raw.toDouble with
  | .ok rate => ofDouble rate
  | .error .tooLarge => .error .tooLarge
  | .error _ => .error (.invalid raw.display)

/-- At most six significant digits and the unit. -/
def text (rate : FeeRate) : String :=
  rate.satVb.briefText ++ " sat/vB"

/-- The rate in BTC for a thousand virtual bytes, rounded up to a whole sat; none if a thousand
times the rate is more than a double can hold. -/
def btcPerKvb? (rate : FeeRate) : Option Binary64 :=
  (rate.satVb.scale 1000).ceiling?.map fun sats =>
    Binary64.ofRatio (sats < 0) sats.natAbs Amount.satsPerBtc

/-- What the node is told about funding a transaction. -/
structure FundOptions where
  /-- In BTC for a thousand virtual bytes. -/
  feeRate : Binary64
  /-- The output that is to receive the change. -/
  changePosition : Int
  /-- Are the inputs locked against other use? -/
  lockUnspents : Bool
deriving DecidableEq, Repr

/-- The options as a document. -/
def FundOptions.toJson (options : FundOptions) : Json :=
  .obj [("feeRate", .float options.feeRate), ("changePosition", .int options.changePosition),
    ("lockUnspents", .bool options.lockUnspents)]

/-- The options for funding at a rate, if the node can be told that rate. -/
def fundOptions? (rate : FeeRate) (changePosition : Int) (lockUnspents : Bool) :
    Option FundOptions :=
  rate.btcPerKvb?.map fun feeRate => ⟨feeRate, changePosition, lockUnspents⟩

end FeeRate

end Runesmith
