import Runesmith.Json

/-!
# Reading documents

A reader for the usual text of documents, which also knows the names of the special numbers. A whole
number may have at most 4300 digits; of two members with one key the later value counts. Every step
takes at least one character, so the length of the text bounds the depth of the recursion. Documents
may be nested to any depth: a limit that an interpreter sets on its own recursion is left out.
-/

namespace Runesmith.Json

/-! ## Blanks and words -/

/-- Tab, line feed, carriage return and space. -/
def isSpace (c : Char) : Bool :=
  c = ' ' ∨ c = '\t' ∨ c = '\n' ∨ c = '\r'

/-- What follows the blanks. -/
def skipSpace (cs : List Char) : List Char :=
  cs.dropWhile isSpace

/-- What follows a word. -/
def word? (word : List Char) (cs : List Char) : Option (List Char) :=
  if word.isPrefixOf cs then some (cs.drop word.length) else none

/-! ## Strings -/

/-- The number that the next four hexadecimal digits denote. -/
def hexUnit? : List Char → Option (Nat × List Char)
  | a :: b :: c :: d :: rest => (Text.hexUnit? a b c d).map fun n => (n, rest)
  | _ => none

/-- Is it the first unit of a pair? -/
def isHigh (unit : Nat) : Bool :=
  0xD800 ≤ unit ∧ unit < 0xDC00

/-- Is it the second unit of a pair? -/
def isLow (unit : Nat) : Bool :=
  0xDC00 ≤ unit ∧ unit < 0xE000

/-- The code point a UTF-16 unit starts, with what follows: two escaped surrogates make one
character, a lone one stays what it is. -/
def unitPoint (unit : Nat) (rest : List Char) : Text.Point × List Char :=
  match isHigh unit, rest with
  | true, '\\' :: 'u' :: tail =>
    match hexUnit? tail with
    | some (low, rest') =>
      if isLow low then
        (.char (Char.ofNat (0x10000 + (unit - 0xD800) * 0x400 + (low - 0xDC00))), rest')
      else (.ofNat unit, rest)
    | none => (.ofNat unit, rest)
  | _, _ => (.ofNat unit, rest)

/-- The character that a backslash and a letter stand for. -/
def escape? : Char → Option Char
  | '"' => some '"'
  | '\\' => some '\\'
  | '/' => some '/'
  | 'b' => some (Char.ofNat 8)
  | 'f' => some (Char.ofNat 12)
  | 'n' => some '\n'
  | 'r' => some '\r'
  | 't' => some '\t'
  | _ => none

/-- Reads a string behind its opening quote; `done` holds the code points so far, last first. -/
def stringTail : (fuel : Nat) → (done : List Text.Point) → List Char →
    Option (List Text.Point × List Char)
  | 0, _, _ => none
  | _ + 1, _, [] => none
  | fuel + 1, done, c :: rest =>
    if c = '"' then some (done.reverse, rest)
    else if c = '\\' then
      match rest with
      | [] => none
      | 'u' :: tail =>
        match hexUnit? tail with
        | none => none
        | some (unit, tail') =>
          let (point, rest') := unitPoint unit tail'
          stringTail fuel (point :: done) rest'
      | mark :: tail =>
        match escape? mark with
        | none => none
        | some char => stringTail fuel (.char char :: done) tail
    else if c.toNat < 32 then none
    else stringTail fuel (.char c :: done) rest

/-! ## Numbers -/

/-- Digits without a leading zero, or one zero. -/
def wholeDigits? (cs : List Char) : Option (List Char × List Char) :=
  match cs with
  | '0' :: rest => some (['0'], rest)
  | c :: _ =>
    if Text.isAsciiDigit c then
      some (cs.takeWhile Text.isAsciiDigit, cs.dropWhile Text.isAsciiDigit)
    else none
  | [] => none

/-- A point and at least one digit, if they are next. -/
def fractionDigits (cs : List Char) : List Char × List Char :=
  match cs with
  | '.' :: rest =>
    let digits := rest.takeWhile Text.isAsciiDigit
    if digits.isEmpty then ([], cs) else (digits, rest.dropWhile Text.isAsciiDigit)
  | _ => ([], cs)

/-- A power of ten, if one is next. -/
def powerDigits (cs : List Char) : Option Int × List Char :=
  match cs with
  | mark :: rest =>
    if mark = 'e' ∨ mark = 'E' then
      let (negative, tail) := Numeral.splitSign rest
      let digits := tail.takeWhile Text.isAsciiDigit
      if digits.isEmpty then (none, cs)
      else
        let n := Numeral.ofDigits digits
        (some (if negative then -(n : Int) else n), tail.dropWhile Text.isAsciiDigit)
    else (none, cs)
  | [] => (none, cs)

/-- Reads a number behind its sign. -/
def number? (negative : Bool) (cs : List Char) : Option (Json × List Char) :=
  match wholeDigits? cs with
  | none => none
  | some (digits, rest) =>
    let (fraction, rest) := fractionDigits rest
    let (power, rest) := powerDigits rest
    if fraction.isEmpty && power.isNone then
      if digits.length ≤ Numeral.maxIntegerDigits then
        let n := Numeral.ofDigits digits
        some (int (if negative then -(n : Int) else n), rest)
      else none
    else
      let x : Numeral :=
        ⟨negative, Numeral.ofDigits (digits ++ fraction), power.getD 0 - fraction.length⟩
      some (float (.ofNumeral x), rest)

/-- The words that are values. -/
def wordValue? (cs : List Char) : Option (Json × List Char) :=
  ((word? "null".toList cs).map fun rest => (null, rest))
  <|> ((word? "true".toList cs).map fun rest => (bool true, rest))
  <|> ((word? "false".toList cs).map fun rest => (bool false, rest))
  <|> ((word? "NaN".toList cs).map fun rest => (float .nan, rest))
  <|> ((word? "Infinity".toList cs).map fun rest => (float (.infinite false), rest))
  <|> ((word? "-Infinity".toList cs).map fun rest => (float (.infinite true), rest))

/-! ## Values -/

mutual

/-- Reads the value that starts here. -/
def value? : (fuel : Nat) → List Char → Option (Json × List Char)
  | 0, _ => none
  | fuel + 1, cs =>
    match cs with
    | [] => none
    | '"' :: rest => (stringTail fuel [] rest).map fun (points, rest') => (ofPoints points, rest')
    | '[' :: rest =>
      match skipSpace rest with
      | ']' :: rest' => some (arr [], rest')
      | rest' => items? fuel [] rest'
    | '\x7b' :: rest =>
      match skipSpace rest with
      | '\x7d' :: rest' => some (obj [], rest')
      | rest' => members? fuel [] rest'
    | '-' :: rest => match number? true rest with
      | some found => some found
      | none => wordValue? cs
    | _ => match number? false cs with
      | some found => some found
      | none => wordValue? cs

/-- Reads the items of a list from the next one on; `done` holds those before it, last first. -/
def items? : (fuel : Nat) → (done : List Json) → List Char → Option (Json × List Char)
  | 0, _, _ => none
  | fuel + 1, done, cs =>
    match value? fuel cs with
    | none => none
    | some (x, rest) =>
      match skipSpace rest with
      | ',' :: rest' => items? fuel (x :: done) (skipSpace rest')
      | ']' :: rest' => some (arr (x :: done).reverse, rest')
      | _ => none

/-- Reads the members of an object from the next one on. -/
def members? : (fuel : Nat) → (done : List (String × Json)) → List Char → Option (Json × List Char)
  | 0, _, _ => none
  | fuel + 1, done, cs =>
    match cs with
    | '"' :: rest =>
      match stringTail fuel [] rest with
      | none => none
      | some (points, rest) =>
        let key := Text.keyOf points
        match skipSpace rest with
        | ':' :: rest =>
          match value? fuel (skipSpace rest) with
          | none => none
          | some (x, rest) =>
            match skipSpace rest with
            | ',' :: rest' => members? fuel (insert done key x) (skipSpace rest')
            | '\x7d' :: rest' => some (obj (insert done key x), rest')
            | _ => none
        | _ => none
    | _ => none

end

/-- Reads a whole document; blanks may surround it. -/
def parse? (text : String) : Option Json :=
  let cs := skipSpace text.toList
  match value? (cs.length + 1) cs with
  | some (value, rest) => if (skipSpace rest).isEmpty then some value else none
  | none => none

end Runesmith.Json
