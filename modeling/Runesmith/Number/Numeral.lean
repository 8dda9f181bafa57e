import Runesmith.Text.Blank
import Runesmith.Text.Digit

/-!
# Numerals

Numbers as people type them: an optional sign, digits of any script, perhaps a point, a fraction and
a power of ten. Whole numbers and floating numbers may group their digits with single underscores.
The value of a numeral is kept exactly, as a whole coefficient and a power of ten.
-/

namespace Runesmith

/-- A decimal number written out: `±coefficient · 10^exponent`. -/
structure Numeral where
  negative : Bool
  coefficient : Nat
  exponent : Int
deriving DecidableEq, Repr

namespace Numeral

/-- The number of decimal digits of `n`; zero has one. -/
def digitCount (n : Nat) : Nat :=
  if n < 10 then 1 else digitCount (n / 10) + 1
termination_by n
decreasing_by omega

/-- The number that a list of decimal digits denotes. -/
def ofDigits (digits : List Char) : Nat :=
  digits.foldl (fun n c => 10 * n + (c.toNat - 48)) 0

/-! ## Preparing text -/

/-- Digits and blanks of any script as ASCII; any other character beyond ASCII cannot stand in a
number, and a question mark takes its place. -/
def asciiForm (c : Char) : Char :=
  if c.toNat < 127 then c
  else match Text.digitValue? c with
    | some d => Text.asciiDigit d
    | none => if Text.isNumeralBlank c then ' ' else '?'

/-- The characters of a number without the blanks around it. -/
def bare (text : String) : List Char :=
  Text.trimBy Text.isNumeralBlank (text.toList.map asciiForm)

/-- Drops underscores that stand between two digits; any other underscore is refused. -/
def ungroup? : (afterDigit : Bool) → List Char → Option (List Char)
  | _, [] => some []
  | afterDigit, '_' :: rest =>
    match rest with
    | next :: _ => if afterDigit && Text.isAsciiDigit next then ungroup? false rest else none
    | [] => none
  | _, c :: rest => (ungroup? (Text.isAsciiDigit c) rest).map (c :: ·)

/-- An optional sign and what follows it. -/
def splitSign : List Char → Bool × List Char
  | '-' :: rest => (true, rest)
  | '+' :: rest => (false, rest)
  | cs => (false, cs)

/-! ## Whole numbers -/

/-- A whole number may have at most so many digits. -/
def maxIntegerDigits : Nat := 4300

/-- Digits only, and at least one. -/
def isDigits (cs : List Char) : Bool :=
  !cs.isEmpty && cs.all Text.isAsciiDigit

/-- An optional sign and digits. -/
def signedInteger? (cs : List Char) : Option Int :=
  let (negative, digits) := splitSign cs
  if isDigits digits && digits.length ≤ maxIntegerDigits then
    some (if negative then -(ofDigits digits : Int) else ofDigits digits)
  else none

/-- Reads a whole number: blanks around it, a sign, digits of any script in groups. -/
def integer? (text : String) : Option Int :=
  (ungroup? false (bare text)).bind signedInteger?

/-! ## Numbers with a fraction -/

/-- The power of ten behind the mark `e` or `E`; no mark stands for the power zero. -/
def power? : List Char → Option Int
  | [] => some 0
  | mark :: rest =>
    if mark = 'e' ∨ mark = 'E' then
      let (negative, digits) := splitSign rest
      if isDigits digits then
        some (if negative then -(ofDigits digits : Int) else ofDigits digits)
      else none
    else none

/-- Digits, perhaps with a point among or beside them, and a power of ten. -/
def unsigned? (negative : Bool) (cs : List Char) : Option Numeral :=
  let whole := cs.takeWhile Text.isAsciiDigit
  let behind := cs.dropWhile Text.isAsciiDigit
  let (fraction, tail) := match behind with
    | '.' :: rest => (rest.takeWhile Text.isAsciiDigit, rest.dropWhile Text.isAsciiDigit)
    | _ => ([], behind)
  if whole.isEmpty && fraction.isEmpty then none
  else (power? tail).map fun power =>
    ⟨negative, ofDigits (whole ++ fraction), power - fraction.length⟩

/-- A sign and an unsigned number. -/
def ofChars? (cs : List Char) : Option Numeral :=
  let (negative, rest) := splitSign cs
  unsigned? negative rest

end Numeral

end Runesmith
