/-!
# Blanks

The characters that are cut off both ends of typed text. Numbers use a smaller set than other text:
the four information separators are not blanks there.
-/

namespace Runesmith.Text

/-- The information separators `FS`, `GS`, `RS` and `US`. -/
def isInformationSeparator (c : Char) : Bool :=
  0x1C ≤ c.toNat ∧ c.toNat ≤ 0x1F

/-- Blanks around a number: tab to carriage return, the space, and the blanks beyond ASCII. -/
def isNumeralBlank (c : Char) : Bool :=
  let n := c.toNat
  if n < 128 then (9 ≤ n ∧ n ≤ 13) ∨ n = 32
  else n = 0x85 ∨ n = 0xA0 ∨ n = 0x1680 ∨ (0x2000 ≤ n ∧ n ≤ 0x200A) ∨ n = 0x2028 ∨ n = 0x2029
    ∨ n = 0x202F ∨ n = 0x205F ∨ n = 0x3000

/-- Blanks around any other text. -/
def isBlank (c : Char) : Bool :=
  isNumeralBlank c || isInformationSeparator c

/-- The characters without those at either end that satisfy `drop`. -/
def trimBy (drop : Char → Bool) (cs : List Char) : List Char :=
  ((cs.dropWhile drop).reverse.dropWhile drop).reverse

/-- The text without the blanks at either end. -/
def trim (text : String) : String :=
  String.ofList (trimBy isBlank text.toList)

/-- The characters of a text with line feeds for all line ends. -/
def normalizeLineEnds : List Char → List Char
  | '\r' :: '\n' :: rest => '\n' :: normalizeLineEnds rest
  | '\r' :: rest => '\n' :: normalizeLineEnds rest
  | c :: rest => c :: normalizeLineEnds rest
  | [] => []

/-- The text without those trailing characters that satisfy `drop`. -/
def trimEnd (drop : Char → Bool) (text : String) : String :=
  String.ofList (text.toList.reverse.dropWhile drop).reverse

/-- Every blank of Lean's own set is a blank. -/
theorem isBlank_of_isWhitespace {c : Char} (h : c.isWhitespace = true) : isBlank c = true := by
  simp only [Char.isWhitespace, Bool.or_eq_true, decide_eq_true_eq] at h
  rcases h with ((rfl | rfl) | rfl) | rfl <;> decide

end Runesmith.Text
