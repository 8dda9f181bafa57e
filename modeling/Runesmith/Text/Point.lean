import Runesmith.Text.Quoted

/-!
# Code points

A document can spell out one half of a surrogate pair without the other. Such a code point is no
character: it is compared, counted and escaped as characters are, but no encoding has bytes for it.
Text with lone surrogates is kept as the list of its code points.
-/

namespace Runesmith.Text

/-- A code point: a character, or a lone surrogate by its place among the surrogates. -/
inductive Point where
  | char (c : Char)
  | surrogate (place : Fin 0x800)
deriving DecidableEq, Repr

namespace Point

/-- The code point of a number. -/
def ofNat (n : Nat) : Point :=
  if h : 0xD800 ≤ n ∧ n < 0xE000 then surrogate ⟨n - 0xD800, by omega⟩ else char (Char.ofNat n)

/-- The character, if the code point is one. -/
def char? : Point → Option Char
  | char c => some c
  | surrogate _ => none

/-- Is the code point a lone surrogate? -/
def isSurrogate : Point → Bool
  | char _ => false
  | surrogate _ => true

/-- The escape of a lone surrogate; a character stands for itself. -/
def escape : Point → List Char
  | char c => [c]
  | surrogate place => '\\' :: 'u' :: paddedHex 4 (0xD800 + place)

/-- How a code point is written between quotes of the given kind. -/
def quoted (quote : Char) : Point → List Char
  | char c => quoteChar quote c
  | surrogate place => (surrogate place).escape

end Point

/-- The code points of text. -/
def points (text : String) : List Point :=
  text.toList.map .char

/-- The characters among code points. -/
def chars (points : List Point) : List Char :=
  points.filterMap Point.char?

/-- Code points as text in which lone surrogates are escaped. -/
def escaped (points : List Point) : String :=
  String.ofList (points.flatMap Point.escape)

/-- Code points between quotes. -/
def quotedPoints (points : List Point) : String :=
  let quote := quoteFor (chars points)
  String.ofList (quote :: points.flatMap (Point.quoted quote) ++ [quote])

/-! ## Rough text -/

/-- Text that holds lone surrogates. -/
structure Rough where
  points : List Point
  lone : points.any Point.isSurrogate = true
deriving DecidableEq, Repr

namespace Rough

/-- The text with its lone surrogates escaped. -/
def escaped (text : Rough) : String :=
  Text.escaped text.points

/-- The text between quotes. -/
def quoted (text : Rough) : String :=
  quotedPoints text.points

/-- The text with a replacement character for every lone surrogate. Words are found in it exactly
where the text itself has them. -/
def marked (text : Rough) : String :=
  String.ofList (text.points.map fun p => p.char?.getD (Char.ofNat 0xFFFD))

end Rough

/-! ## Keys

Keys are ordinary text. In them a lone surrogate is spelled by its escape and a backslash is
doubled, so that different keys have different spellings. -/

/-- How a code point is spelled in a key. -/
def Point.spelled : Point → List Char
  | .char c => if c = '\\' then ['\\', '\\'] else [c]
  | .surrogate place => (Point.surrogate place).escape

/-- The spelling of a key. -/
def keyOf (points : List Point) : String :=
  String.ofList (points.flatMap Point.spelled)

/-- The number that four hexadecimal digits denote. -/
def hexUnit? (a b c d : Char) : Option Nat := do
  let a ← Bytes.hexValue? a
  let b ← Bytes.hexValue? b
  let c ← Bytes.hexValue? c
  let d ← Bytes.hexValue? d
  return ((a * 16 + b) * 16 + c) * 16 + d

/-- The code points that a key spells. -/
def keyPoints : List Char → List Point
  | [] => []
  | '\\' :: '\\' :: rest => .char '\\' :: keyPoints rest
  | '\\' :: 'u' :: a :: b :: c :: d :: rest =>
    match hexUnit? a b c d with
    | some n => .ofNat n :: keyPoints rest
    | none => ['\\', 'u', a, b, c, d].map .char ++ keyPoints rest
  | c :: rest => .char c :: keyPoints rest

/-- The code points of a key. -/
def pointsOfKey (key : String) : List Point :=
  keyPoints key.toList

end Runesmith.Text
