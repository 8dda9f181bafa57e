import Runesmith.Number.Numeral

/-!
# Decimal arithmetic

Decimal numbers with an exact coefficient and power of ten. Reading keeps every digit; a product is
rounded to 28 significant digits, a tie going to the even digit, and may fall outside the range of
exponents on either side.
-/

namespace Runesmith

/-- A decimal number or one of the special values. -/
inductive Decimal where
  | finite (value : Numeral)
  | infinite (negative : Bool)
  /-- Not a number; arithmetic refuses the signalling kind. -/
  | nan (signalling : Bool)
deriving DecidableEq, Repr

namespace Decimal

/-! ## Reading -/

/-- The largest power of ten that the first digit of a number may stand for. -/
def maxReadPower : Int := 999999999999999999

/-- The smallest power of ten that the last digit of a number may stand for. -/
def minReadExponent : Int := -1999999999999999997

/-- Is a number inside the range in which it can be held exactly? -/
def isReadable (x : Numeral) : Bool :=
  minReadExponent ≤ x.exponent
    ∧ x.exponent + Numeral.digitCount x.coefficient - 1 ≤ maxReadPower

/-- Characters of a decimal: blanks around it and underscores anywhere are dropped, digits of any
script count, and a character that cannot stand in a number becomes a question mark. -/
def bare (text : String) : List Char :=
  ((Text.trimBy Text.isBlank text.toList).filter (· ≠ '_')).map fun c =>
    if c.toNat = 0 ∨ c.toNat = 127 then '?' else Numeral.asciiForm c

/-- The name of a special value in lower case, without a sign. -/
def special? (negative : Bool) (name : List Char) : Option Decimal :=
  if name = "inf".toList ∨ name = "infinity".toList then some (.infinite negative)
  else match name with
    | 'n' :: 'a' :: 'n' :: payload =>
      if payload.all Text.isAsciiDigit then some (.nan false) else none
    | 's' :: 'n' :: 'a' :: 'n' :: payload =>
      if payload.all Text.isAsciiDigit then some (.nan true) else none
    | _ => none

/-- Reads a decimal exactly. A number whose digits stand for an absurd power of ten is refused. -/
def parse? (text : String) : Option Decimal :=
  let (negative, rest) := Numeral.splitSign (bare text)
  match Numeral.unsigned? negative rest with
  | some x => if isReadable x then some (.finite x) else none
  | none => special? negative (rest.map Char.toLower)

/-! ## Multiplying -/

/-- A product keeps so many significant digits. -/
def precision : Nat := 28

/-- The largest power of ten that the first digit of a product may stand for. -/
def maxPower : Int := 999999

/-- The smallest power of ten that the last digit of a product may stand for. -/
def minExponent : Int := -1000026

/-- Why a product does not exist. -/
inductive Fault where
  /-- The number is beyond the largest power of ten. -/
  | overflow
  /-- One factor is a signalling special value. -/
  | signalling
deriving DecidableEq, Repr

/-- `coefficient / 10^places`, rounded to the nearest whole number, a tie going to the even one. -/
def dropPlaces (coefficient places : Nat) : Nat :=
  if Numeral.digitCount coefficient < places then 0
  else
    let unit := Nat.pow 10 places
    let quotient := coefficient / unit
    let remainder := coefficient % unit
    if 2 * remainder < unit then quotient
    else if unit < 2 * remainder then quotient + 1
    else quotient + quotient % 2

/-- Rounds a number to the precision and checks the range of its power of ten. -/
def fit (x : Numeral) : Except Fault Numeral :=
  if x.coefficient = 0 then .ok ⟨x.negative, 0, max minExponent (min maxPower x.exponent)⟩
  else
    let power := x.exponent + Numeral.digitCount x.coefficient - 1
    if maxPower < power then .error .overflow
    else
      let least := max minExponent (power - (precision - 1))
      if least ≤ x.exponent then .ok x
      else
        let c := dropPlaces x.coefficient (least - x.exponent).toNat
        let y : Numeral :=
          if c = Nat.pow 10 precision then ⟨x.negative, c / 10, least + 1⟩
          else ⟨x.negative, c, least⟩
        if maxPower < y.exponent + Numeral.digitCount y.coefficient - 1 then .error .overflow
        else .ok y

/-- The product with a positive whole number, rounded. -/
def scale (k : Nat) : Decimal → Except Fault Decimal
  | .finite x => (fit ⟨x.negative, k * x.coefficient, x.exponent⟩).map .finite
  | .infinite negative => .ok (.infinite negative)
  | .nan true => .error .signalling
  | .nan false => .ok (.nan false)

/-! ## Whole numbers -/

/-- The natural number that an unsigned decimal equals, if it has no fraction. -/
def wholeValue? (x : Numeral) : Option Nat :=
  if x.coefficient = 0 then some 0
  else if 0 ≤ x.exponent then some (x.coefficient * Nat.pow 10 x.exponent.toNat)
  else
    let places := (-x.exponent).toNat
    if Numeral.digitCount x.coefficient ≤ places then none
    else
      let unit := Nat.pow 10 places
      if x.coefficient % unit = 0 then some (x.coefficient / unit) else none

end Decimal

end Runesmith
