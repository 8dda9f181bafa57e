import Runesmith.Bytes
import Runesmith.Text.Printable

/-!
# Quoted text

How a piece of text is shown inside a message: between single quotes, or between double quotes when
it holds a single quote and no double one. The quote in use and the backslash are escaped, so are
line feed, carriage return and tab, and any other character without a shape of its own is written
by its code point.
-/

namespace Runesmith.Text

/-- The hexadecimal digits of `n`, padded with zeros to `width`. -/
def paddedHex (width n : Nat) : List Char :=
  ((List.range width).map fun i => Bytes.hexDigit (n / Nat.pow 16 i % 16)).reverse

/-- The quote that surrounds a text: the double one only if that saves escaping. -/
def quoteFor (cs : List Char) : Char :=
  if cs.contains '\'' && not (cs.contains '"') then '"' else '\''

/-- How one character is written between quotes of the given kind. -/
def quoteChar (quote c : Char) : List Char :=
  if c = quote ∨ c = '\\' then ['\\', c]
  else if c = '\n' then ['\\', 'n']
  else if c = '\r' then ['\\', 'r']
  else if c = '\t' then ['\\', 't']
  else if isPrintable c then [c]
  else if c.toNat < 0x100 then '\\' :: 'x' :: paddedHex 2 c.toNat
  else if c.toNat < 0x10000 then '\\' :: 'u' :: paddedHex 4 c.toNat
  else '\\' :: 'U' :: paddedHex 8 c.toNat

/-- The text between quotes. -/
def quoted (text : String) : String :=
  let cs := text.toList
  let quote := quoteFor cs
  String.ofList (quote :: cs.flatMap (quoteChar quote) ++ [quote])

end Runesmith.Text
