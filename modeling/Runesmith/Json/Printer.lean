import Runesmith.Json

/-!
# Writing documents

The text of a document in three layouts: on one line with a blank behind each mark, on one line
without blanks, and indented. Text beyond ASCII is kept or escaped as UTF-16 units.

Not every document can be written. Whole numbers of more than 4300 digits are not printed, and lone
surrogates that are kept have no bytes in UTF-8.
-/

namespace Runesmith.Json

/-- How a document is laid out. -/
structure Style where
  /-- Are characters beyond printable ASCII escaped? -/
  asciiOnly : Bool
  /-- What divides the items of a list on one line. -/
  comma : String
  /-- What divides a key from its value. -/
  colon : String
  /-- The blanks of one level, when every item has a line of its own. -/
  indent : Option Nat
deriving Repr

/-- One line, a blank behind every mark, ASCII only. -/
def Style.line : Style := ⟨true, ", ", ": ", none⟩

/-- One line without blanks. -/
def Style.compact : Style := ⟨false, ",", ":", none⟩

/-- A line for every item, two blanks a level. -/
def Style.indented : Style := ⟨false, ",", ": ", some 2⟩

/-- The escape of one UTF-16 unit. -/
def unitEscape (n : Nat) : List Char :=
  '\\' :: 'u' :: Text.paddedHex 4 n

/-- How a character is written inside a string. -/
def escapeChar (asciiOnly : Bool) (c : Char) : List Char :=
  if c = '"' ∨ c = '\\' then ['\\', c]
  else if c = '\n' then ['\\', 'n']
  else if c = '\r' then ['\\', 'r']
  else if c = '\t' then ['\\', 't']
  else if c.toNat = 8 then ['\\', 'b']
  else if c.toNat = 12 then ['\\', 'f']
  else if c.toNat < 32 then unitEscape c.toNat
  else if asciiOnly && 127 ≤ c.toNat then
    if c.toNat < 0x10000 then unitEscape c.toNat
    else
      let n := c.toNat - 0x10000
      unitEscape (0xD800 + n / 0x400) ++ unitEscape (0xDC00 + n % 0x400)
  else [c]

/-- How a code point is written inside a string. -/
def escapePoint (asciiOnly : Bool) : Text.Point → List Text.Point
  | .char c => (escapeChar asciiOnly c).map .char
  | .surrogate place =>
    if asciiOnly then (unitEscape (0xD800 + place)).map .char else [.surrogate place]

/-- A string between its quotes. -/
def stringText (asciiOnly : Bool) (points : List Text.Point) : List Text.Point :=
  .char '"' :: points.flatMap (escapePoint asciiOnly) ++ [.char '"']

/-- A floating number; the special values have names. -/
def floatText : Binary64 → String
  | .nan => "NaN"
  | .infinite negative => if negative then "-Infinity" else "Infinity"
  | x => x.text

namespace Style

/-- A key and the mark behind it. -/
def key (style : Style) (name : String) : List Text.Point :=
  stringText style.asciiOnly (Text.pointsOfKey name) ++ Text.points style.colon

/-- The line break and blanks in front of an item at a level. -/
def newline (style : Style) (level : Nat) : List Text.Point :=
  match style.indent with
  | none => []
  | some width => .char '\n' :: List.replicate (width * level) (.char ' ')

/-- What stands in front of an item behind the first one. -/
def divider (style : Style) (level : Nat) : List Text.Point :=
  Text.points style.comma ++ style.newline level

end Style

mutual

/-- The pieces of the text of a value, whose first line is at a level, in front of other pieces. -/
def pieces (style : Style) (level : Nat) : Json → List (List Text.Point) → List (List Text.Point)
  | null, tail => Text.points "null" :: tail
  | bool b, tail => Text.points (if b then "true" else "false") :: tail
  | int n, tail => Text.points (toString n) :: tail
  | float x, tail => Text.points (floatText x) :: tail
  | str s, tail => stringText style.asciiOnly (Text.points s) :: tail
  | rough text, tail => stringText style.asciiOnly text.points :: tail
  | arr [], tail => Text.points "[]" :: tail
  | arr (x :: xs), tail =>
    Text.points "[" :: style.newline (level + 1) :: pieces style (level + 1) x
      (itemPieces style (level + 1) xs (style.newline level :: Text.points "]" :: tail))
  | obj [], tail => Text.points "\x7b\x7d" :: tail
  | obj ((name, x) :: xs), tail =>
    Text.points "\x7b" :: style.newline (level + 1) :: style.key name ::
      pieces style (level + 1) x
        (memberPieces style (level + 1) xs (style.newline level :: Text.points "\x7d" :: tail))

/-- The items behind the first one, each with the mark in front of it. -/
def itemPieces (style : Style) (level : Nat) :
    List Json → List (List Text.Point) → List (List Text.Point)
  | [], tail => tail
  | x :: xs, tail => style.divider level :: pieces style level x (itemPieces style level xs tail)

/-- The members behind the first one, each with the mark in front of it. -/
def memberPieces (style : Style) (level : Nat) :
    List (String × Json) → List (List Text.Point) → List (List Text.Point)
  | [], tail => tail
  | (name, x) :: xs, tail =>
    style.divider level :: style.key name ::
      pieces style level x (memberPieces style level xs tail)

end

/-- The code points of the text of a document. -/
def layout (style : Style) (value : Json) : List Text.Point :=
  (pieces style 0 value []).flatten

/-- The text of a document, with escapes for lone surrogates that the style keeps. -/
def render (style : Style) (value : Json) : String :=
  Text.escaped (layout style value)

/-! ## What can be written -/

/-- The least number that is too long to be printed. -/
def longNumber : Nat := Nat.pow 10 Numeral.maxIntegerDigits

mutual

/-- Does the value hold a whole number that is too long to be printed? -/
def hasLongNumber : Json → Bool
  | int n => longNumber ≤ n.natAbs
  | arr items => itemsLongNumber items
  | obj members => membersLongNumber members
  | _ => false

/-- Does one of the items hold such a number? -/
def itemsLongNumber : List Json → Bool
  | [] => false
  | x :: xs => hasLongNumber x || itemsLongNumber xs

/-- Does one of the members hold such a number? -/
def membersLongNumber : List (String × Json) → Bool
  | [] => false
  | (_, x) :: xs => hasLongNumber x || membersLongNumber xs

end

/-- Why a document cannot be written in UTF-8. -/
inductive Unwritable where
  | tooManyDigits
  /-- Lone surrogates from a position of the text up to another; the first one is named. -/
  | surrogates (first : Text.Point) (start stop : Nat)
deriving DecidableEq, Repr

/-- What is said about a document that cannot be written. -/
def Unwritable.message : Unwritable → String
  | .tooManyDigits =>
    s!"Exceeds the limit ({Numeral.maxIntegerDigits} digits) for integer string conversion; " ++
      "use sys.set_int_max_str_digits() to increase the limit"
  | .surrogates first start stop =>
    let what :=
      if stop = start + 1 then s!"character '{String.ofList first.escape}' in position {start}"
      else s!"characters in position {start}-{stop - 1}"
    s!"'utf-8' codec can't encode {what}: surrogates not allowed"

/-- Text in UTF-8, or the first run of lone surrogates that it has no bytes for. -/
def encodable (points : List Text.Point) : Except Unwritable String :=
  let front := points.takeWhile (!·.isSurrogate)
  let back := points.dropWhile (!·.isSurrogate)
  match back with
  | [] => .ok (String.ofList (Text.chars points))
  | first :: _ =>
    let run := back.takeWhile Text.Point.isSurrogate
    .error (.surrogates first front.length (front.length + run.length))

/-- The text of a document, if it can be written. Numbers are printed before anything is written. -/
def write (style : Style) (value : Json) : Except Unwritable String :=
  if value.hasLongNumber then .error .tooManyDigits else encodable (layout style value)

end Runesmith.Json
