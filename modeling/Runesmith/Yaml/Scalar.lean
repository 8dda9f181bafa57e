import Runesmith.Json

/-!
# Plain scalars

What a plain scalar of a configuration file stands for: null, a truth value, a whole number in one
of five notations, a floating number, or else the text itself.
-/

namespace Runesmith.Yaml

/-! ## Words -/

/-- The words for null. -/
def isNullWord (s : String) : Bool :=
  ["", "~", "null", "Null", "NULL"].contains s

/-- The words for truth values. -/
def boolWord? (s : String) : Option Bool :=
  if ["yes", "Yes", "YES", "true", "True", "TRUE", "on", "On", "ON"].contains s then some true
  else if ["no", "No", "NO", "false", "False", "FALSE", "off", "Off", "OFF"].contains s then
    some false
  else none

/-! ## Whole numbers -/

/-- Digits of a base below or at sixteen, with underscores that mean nothing. -/
def digitsOf? (base : Nat) (cs : List Char) : Option Nat :=
  (cs.filter (· ≠ '_')).foldlM (fun n c =>
    match Bytes.hexValue? c with
    | some d => if d < base then some (base * n + d) else none
    | none => none) 0

/-- Whether the characters begin with a digit from `1` to `9`. -/
def startsPositive (cs : List Char) : Bool :=
  match cs with
  | c :: _ => Text.isAsciiDigit c && c != '0'
  | [] => false

/-- The parts between colons. -/
def splitColons (cs : List Char) : List (List Char) :=
  cs.foldr (fun c parts =>
    match parts with
    | [] => [[c]]
    | part :: rest => if c = ':' then [] :: part :: rest else (c :: part) :: rest) [[]]

/-- A part of a number in base sixty: one digit, or two of which the first is below six. -/
def isSixtieth (cs : List Char) : Bool :=
  match cs with
  | [c] => Text.isAsciiDigit c
  | [c, d] => Text.isAsciiDigit c && Text.isAsciiDigit d && decide (c.toNat < 54)
  | _ => false

/-- A whole number without its sign: binary behind `0b`, hexadecimal behind `0x`, octal behind `0`,
decimal, or parts in base sixty between colons. -/
def natural? (cs : List Char) : Option Nat :=
  match cs with
  | ['0'] => some 0
  | '0' :: 'b' :: rest => if rest.isEmpty then none else digitsOf? 2 rest
  | '0' :: 'x' :: rest => if rest.isEmpty then none else digitsOf? 16 rest
  | '0' :: rest => digitsOf? 8 rest
  | _ =>
    if !startsPositive cs then none
    else match splitColons cs with
      | [whole] => digitsOf? 10 whole
      | whole :: parts =>
        if parts.all isSixtieth then do
          let first ← digitsOf? 10 whole
          parts.foldlM (fun n part => (digitsOf? 10 part).map (60 * n + ·)) first
        else none
      | [] => none

/-- A whole number with an optional sign. -/
def integer? (cs : List Char) : Option Int :=
  let (negative, rest) := Numeral.splitSign cs
  (natural? rest).map fun n => if negative then -(n : Int) else n

/-! ## Floating numbers -/

/-- A power of ten, whose sign has to be written. -/
def hasSignedPower (cs : List Char) : Bool :=
  match cs with
  | [] => true
  | mark :: sign :: digits =>
    (mark = 'e' ∨ mark = 'E') && (sign = '-' ∨ sign = '+') && Numeral.isDigits digits
  | _ => false

/-- Digits and underscores. -/
def isGrouped (cs : List Char) : Bool :=
  cs.all fun c => Text.isAsciiDigit c || c == '_'

/-- Is the first character a digit? -/
def startsDigit (cs : List Char) : Bool :=
  cs.head?.any Text.isAsciiDigit

/-- A point has to be there, with a digit in front of it or behind it. -/
def isFloating (cs : List Char) : Bool :=
  let whole := cs.takeWhile (· ≠ '.')
  match cs.dropWhile (· ≠ '.') with
  | [] => false
  | _ :: rest =>
    let fraction := rest.takeWhile fun c => Text.isAsciiDigit c || c == '_'
    let tail := rest.dropWhile fun c => Text.isAsciiDigit c || c == '_'
    hasSignedPower tail && isGrouped whole
      && (if whole.isEmpty then startsDigit fraction else startsDigit whole)

/-- A floating number without its sign, in base ten. -/
def decimal? (negative : Bool) (cs : List Char) : Option Binary64 :=
  (Numeral.unsigned? negative (cs.filter (· ≠ '_'))).map Binary64.ofNumeral

/-- A floating number without its sign, in base sixty: parts between colons, of which the last one
has a point. The parts are added from the last one to the first, each sum rounded. -/
def sexagesimal? (cs : List Char) : Option Binary64 :=
  let fraction := cs.dropWhile (· ≠ '.')
  match splitColons (cs.takeWhile (· ≠ '.')) with
  | first :: second :: more =>
    let parts := second :: more
    if !fraction.isEmpty && isGrouped (fraction.drop 1) && startsDigit first && isGrouped first
        && parts.all isSixtieth then do
      let last ← decimal? false ((parts.getLastD []) ++ fraction)
      let higher ← (first :: parts.dropLast).mapM (decimal? false)
      return higher.reverse.zipIdx.foldl
        (fun sum (part, i) => sum.add (part.scale (Nat.pow 60 (i + 1)))) last
    else none
  | _ => none

/-- A floating number with an optional sign. -/
def floating? (cs : List Char) : Option Binary64 :=
  let (negative, rest) := Numeral.splitSign cs
  if [".inf", ".Inf", ".INF"].contains (String.ofList rest) then some (.infinite negative)
  else if [".nan", ".NaN", ".NAN"].contains (String.ofList cs) then some .nan
  else if isFloating rest && (rest.head? != some '.' || rest.length == cs.length) then
    decimal? negative rest
  else (sexagesimal? rest).map fun x => if negative then x.negate else x

/-! ## Values -/

/-- The words that are kept for uses other than values. -/
def isReserved (s : String) : Bool :=
  s = "=" ∨ s = "<<"

/-- The value of a plain scalar, unless it is a reserved word. -/
def scalar? (s : String) : Option Json :=
  if isReserved s then none
  else if isNullWord s then some .null
  else match boolWord? s with
    | some b => some (.bool b)
    | none =>
      match integer? s.toList with
      | some n => some (.int n)
      | none =>
        match floating? s.toList with
        | some x => some (.float x)
        | none => some (.str s)

end Runesmith.Yaml
