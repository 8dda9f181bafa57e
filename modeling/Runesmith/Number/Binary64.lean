import Runesmith.Number.Numeral

/-!
# Double-precision numbers

Floating numbers of 64 bits, with exact arithmetic on what they stand for. Every operation computes
an exact rational result and then rounds it once, to the nearest double, a tie going to the even
mantissa. Text is the fewest digits that read back as the same number.
-/

namespace Runesmith

/-- A double: not a number, an infinity, or `±mantissa · 2^exponent`. A finite double is held with
`mantissa < 2^53` and `-1074 ≤ exponent ≤ 971`, and `2^52 ≤ mantissa` unless the exponent is the
least one. -/
inductive Binary64 where
  | nan
  | infinite (negative : Bool)
  | finite (negative : Bool) (mantissa : Nat) (exponent : Int)
deriving DecidableEq, Repr, Inhabited

namespace Binary64

/-- The exponent of the smallest doubles. -/
def minExponent : Int := -1074

/-- The exponent of the largest doubles. -/
def maxExponent : Int := 971

/-- Positive zero. -/
def zero : Binary64 := .finite false 0 minExponent

/-! ## Rounding -/

/-- The whole number nearest to `num / den`; a tie goes to the even one. -/
def roundHalfEven (num den : Nat) : Nat :=
  let quotient := num / den
  let remainder := num % den
  if 2 * remainder < den then quotient
  else if den < 2 * remainder then quotient + 1
  else quotient + quotient % 2

/-- Numerator and denominator of `num / den / 2^e`. -/
def scaleDown (num den : Nat) (e : Int) : Nat × Nat :=
  if 0 ≤ e then (num, den * Nat.pow 2 e.toNat) else (num * Nat.pow 2 (-e).toNat, den)

/-- The exponent at which the mantissa of `num / den` has 53 bits, or the least one. -/
def exponentFor (num den : Nat) : Int :=
  let e : Int := (num.log2 : Int) - den.log2 - 53
  let (n, d) := scaleDown num den e
  max minExponent (if n / d < Nat.pow 2 53 then e else e + 1)

/-- The double nearest to `±num / den`, for a positive `den`. -/
def ofRatio (negative : Bool) (num den : Nat) : Binary64 :=
  if num = 0 then .finite negative 0 minExponent
  else
    let e := exponentFor num den
    let (n, d) := scaleDown num den e
    let m := roundHalfEven n d
    let (m, e) := if m = Nat.pow 2 53 then (Nat.pow 2 52, e + 1) else (m, e)
    if maxExponent < e then .infinite negative else .finite negative m e

/-- The double nearest to a whole number. -/
def ofInt (n : Int) : Binary64 :=
  ofRatio (n < 0) n.natAbs 1

/-- The double nearest to a decimal number. Powers of ten far outside the range of doubles are
settled by the size of the number alone. -/
def ofNumeral (x : Numeral) : Binary64 :=
  if x.coefficient = 0 then .finite x.negative 0 minExponent
  else
    let magnitude := x.exponent + Numeral.digitCount x.coefficient
    if 400 < magnitude then .infinite x.negative
    else if magnitude < -400 then .finite x.negative 0 minExponent
    else if 0 ≤ x.exponent then ofRatio x.negative (x.coefficient * Nat.pow 10 x.exponent.toNat) 1
    else ofRatio x.negative x.coefficient (Nat.pow 10 (-x.exponent).toNat)

/-- The names of the special values, in lower case, without a sign. -/
def special? (negative : Bool) (name : String) : Option Binary64 :=
  if name = "inf" ∨ name = "infinity" then some (.infinite negative)
  else if name = "nan" then some .nan
  else none

/-- Reads a floating number: blanks around it, a sign, digits of any script in groups, a point, a
power of ten, or the name of a special value in any case. -/
def parse? (text : String) : Option Binary64 :=
  (Numeral.ungroup? false (Numeral.bare text)).bind fun cs =>
    let (negative, rest) := Numeral.splitSign cs
    match Numeral.unsigned? negative rest with
    | some x => some (ofNumeral x)
    | none => special? negative (String.ofList (rest.map Char.toLower))

/-! ## Arithmetic -/

/-- Numerator and denominator of the magnitude of a finite double. -/
def magnitude (mantissa : Nat) (exponent : Int) : Nat × Nat :=
  if 0 ≤ exponent then (mantissa * Nat.pow 2 exponent.toNat, 1)
  else (mantissa, Nat.pow 2 (-exponent).toNat)

/-- Is it neither an infinity nor not a number? -/
def isFinite : Binary64 → Bool
  | .finite .. => true
  | _ => false

/-- Is it greater than zero? -/
def isPositive : Binary64 → Bool
  | .nan => false
  | .infinite negative => !negative
  | .finite negative m _ => !negative && m != 0

/-- Is it a zero of either sign? -/
def isZero : Binary64 → Bool
  | .finite _ m _ => m == 0
  | _ => false

/-- The product with a natural number, rounded once. -/
def scale (k : Nat) : Binary64 → Binary64
  | .nan => .nan
  | .infinite negative => if k = 0 then .nan else .infinite negative
  | .finite negative m e =>
    let (num, den) := magnitude m e
    ofRatio negative (k * num) den

/-- The same magnitude with the other sign. -/
def negate : Binary64 → Binary64
  | .nan => .nan
  | .infinite negative => .infinite !negative
  | .finite negative m e => .finite (!negative) m e

/-- The sum, rounded once. Two negative zeros have a negative sum; any other sum that is zero is
positive. -/
def add : Binary64 → Binary64 → Binary64
  | .nan, _ => .nan
  | _, .nan => .nan
  | .infinite s, .infinite s' => if s = s' then .infinite s else .nan
  | .infinite s, _ => .infinite s
  | _, .infinite s => .infinite s
  | .finite s m e, .finite s' m' e' =>
    let (num, den) := magnitude m e
    let (num', den') := magnitude m' e'
    let sum := signed s (num * den') + signed s' (num' * den)
    if sum = 0 then .finite (s && s') 0 minExponent
    else ofRatio (sum < 0) sum.natAbs (den * den')
where
  /-- A whole number with a sign. -/
  signed (negative : Bool) (n : Nat) : Int := if negative then -(n : Int) else n

/-- The least whole number that is not below a finite double. -/
def ceiling? : Binary64 → Option Int
  | .finite negative m e =>
    let (num, den) := magnitude m e
    some (if negative then -((num / den : Nat) : Int) else ((num + den - 1) / den : Nat))
  | _ => none

/-- The whole number left of a finite double when its fraction is cut off. -/
def truncate? : Binary64 → Option Int
  | .finite negative m e =>
    let (num, den) := magnitude m e
    some (if negative then -((num / den : Nat) : Int) else (num / den : Nat))
  | _ => none

/-- Does the double equal this whole number? -/
def isInt (x : Binary64) (n : Int) : Bool :=
  match x with
  | .finite negative m e =>
    let (num, den) := magnitude m e
    (if negative then -(num : Int) else num) = n * den
  | _ => false

/-- Equality of values: the two zeros are equal, and nothing equals what is not a number. -/
def same : Binary64 → Binary64 → Bool
  | .nan, _ => false
  | _, .nan => false
  | .finite s m e, .finite s' m' e' => (m == 0 && m' == 0) || (s == s' && m == m' && e == e')
  | .infinite s, .infinite s' => s == s'
  | _, _ => false

/-! ## Text -/

/-- Decimal digits without trailing zeros, read as `0.d₁d₂… · 10^point`. -/
structure Digits where
  digits : List Char
  point : Int
deriving DecidableEq, Repr

/-- The decimal digits of a natural number. -/
def natDigits (n : Nat) : List Char :=
  Nat.toDigits 10 n

/-- The digits of `coefficient · 10^exponent`. -/
def Digits.ofDecimal (coefficient : Nat) (exponent : Int) : Digits :=
  let all := natDigits coefficient
  ⟨(all.reverse.dropWhile (· = '0')).reverse, exponent + all.length⟩

/-- The position of the decimal point in `num / den`: the least `p` with `num / den < 10^p`. -/
def pointOf (num den : Nat) : Int :=
  let guess : Int := ((num.log2 : Int) - den.log2) * 30103 / 100000
  let below (p : Int) : Bool :=
    if 0 ≤ p then num < den * Nat.pow 10 p.toNat else num * Nat.pow 10 (-p).toNat < den
  if below (guess - 1) then guess - 1
  else if below guess then guess
  else if below (guess + 1) then guess + 1
  else guess + 2

/-- Numerator and denominator of `num / den / 10^e`. -/
def scaleTen (num den : Nat) (e : Int) : Nat × Nat :=
  if 0 ≤ e then (num, den * Nat.pow 10 e.toNat) else (num * Nat.pow 10 (-e).toNat, den)

/-- Of the two neighbours of a magnitude on the grid of `count` significant digits, the nearer one
that reads back as the same double. -/
def onGrid? (mantissa : Nat) (exponent : Int) (count : Nat) : Option Digits :=
  let (num, den) := magnitude mantissa exponent
  let grid := pointOf num den - count
  let (n, d) := scaleTen num den grid
  let low := n / d
  let near := roundHalfEven n d
  let far := if near = low then low + 1 else low
  let readsBack (c : Nat) : Bool := ofNumeral ⟨false, c, grid⟩ = .finite false mantissa exponent
  if readsBack near then some (.ofDecimal near grid)
  else if readsBack far then some (.ofDecimal far grid)
  else none

/-- The fewest digits that read back as the same double, and of those the nearest. -/
def shortest (mantissa : Nat) (exponent : Int) : Digits :=
  if mantissa = 0 then ⟨['0'], 1⟩
  else ((List.range 17).findSome? fun i => onGrid? mantissa exponent (i + 1)).getD ⟨['0'], 1⟩

/-- A magnitude rounded to so many significant digits, a tie going to the even digit. -/
def significant (mantissa : Nat) (exponent : Int) (count : Nat) : Digits :=
  if mantissa = 0 then ⟨['0'], 1⟩
  else
    let (num, den) := magnitude mantissa exponent
    let grid := pointOf num den - count
    let (n, d) := scaleTen num den grid
    .ofDecimal (roundHalfEven n d) grid

/-- How the digits of a number are laid out: positionally, or with a power of ten. -/
structure Layout where
  /-- Positional notation is used for decimal points after this place … -/
  least : Int
  /-- … and up to this one. -/
  most : Int
  /-- Does a whole number in positional notation end in `.0`? -/
  wholeMark : Bool
deriving Repr

/-- Numbers inside values: positional from `0.0001` to below `10^16`, and never without a point. -/
def Layout.plain : Layout := ⟨-4, 16, true⟩

/-- Numbers of six significant digits: positional from `0.0001` to below `10^6`. -/
def Layout.brief : Layout := ⟨-4, 6, false⟩

/-- The power of ten of the scientific form: a sign and at least two digits. -/
def powerText (power : Int) : List Char :=
  let digits := natDigits power.natAbs
  (if power < 0 then '-' else '+') :: (List.replicate (2 - digits.length) '0' ++ digits)

/-- Writes digits in a layout. -/
def Layout.write (layout : Layout) (x : Digits) : List Char :=
  if layout.least < x.point ∧ x.point ≤ layout.most then
    if x.point ≤ 0 then
      '0' :: '.' :: (List.replicate (-x.point).toNat '0' ++ x.digits)
    else
      let p := x.point.toNat
      let whole := x.digits.take p ++ List.replicate (p - x.digits.length) '0'
      match x.digits.drop p with
      | [] => whole ++ if layout.wholeMark then ['.', '0'] else []
      | fraction => whole ++ '.' :: fraction
  else
    let fraction := match x.digits.drop 1 with
      | [] => []
      | rest => '.' :: rest
    x.digits.take 1 ++ fraction ++ 'e' :: powerText (x.point - 1)

/-- Writes a double, its digits chosen by `choose`, in a layout. -/
def textBy (choose : Nat → Int → Digits) (layout : Layout) : Binary64 → String
  | .nan => "nan"
  | .infinite negative => if negative then "-inf" else "inf"
  | .finite negative m e =>
    String.ofList ((if negative then ['-'] else []) ++ layout.write (choose m e))

/-- The shortest text that reads back as the same number. -/
def text : Binary64 → String :=
  textBy shortest .plain

/-- Six significant digits at most. -/
def briefText : Binary64 → String :=
  textBy (significant · · 6) .brief

/-! ## Bits -/

/-- The highest of the 64 bits, which says that a number is negative. -/
def signBit (negative : Bool) : Nat :=
  if negative then Nat.pow 2 63 else 0

/-- The 64 bits of the interchange format: sign, biased exponent, mantissa without its top bit. -/
def toBits : Binary64 → Nat
  | .nan => 0x7FF8000000000000
  | .infinite negative => signBit negative + 0x7FF0000000000000
  | .finite negative m e =>
    let unit := Nat.pow 2 52
    signBit negative + if m < unit then m else (e + 1075).toNat * unit + (m - unit)

end Binary64

end Runesmith
