import Runesmith.Varint
import Runesmith.Number.Numeral

/-!
# Rune names

A rune is named by letters `A` to `Z`, and its number counts the names in order of length and then
alphabetically: `A` is 0, `Z` is 25, `AA` is 26. A name may be shown with spacers between its
letters; they are no part of its number.
-/

namespace Runesmith

/-- A rune, by the number of its name. -/
structure Rune where
  value : Nat
deriving DecidableEq, Repr

/-- Why text names no rune and no place. -/
inductive Rune.Error where
  | emptyName
  | invalidLetter (c : Char) (name : String)
  | tooLarge (name : String)
  | leadingSpacer (text : String)
  | doubleSpacer (text : String)
  | invalidCharacter (c : Char) (text : String)
  | trailingSpacer (text : String)
  | blockOutOfRange (block : Int)
  | txOutOfRange (tx : Int)
  | noSuchPlace (block tx : Int)
  | noColon (text : String)
  | invalidId (text : String)
deriving DecidableEq, Repr

/-- What is said about an error. -/
def Rune.Error.message : Rune.Error → String
  | .emptyName => "rune name must not be empty"
  | .invalidLetter c name => s!"invalid character `{c}` in rune name {name}"
  | .tooLarge name => s!"rune name {name} out of range"
  | .leadingSpacer text => s!"leading spacer in {text}"
  | .doubleSpacer text => s!"double spacer in {text}"
  | .invalidCharacter c text => s!"invalid character `{c}` in {text}"
  | .trailingSpacer text => s!"trailing spacer in {text}"
  | .blockOutOfRange block => s!"rune id block {block} out of range"
  | .txOutOfRange tx => s!"rune id tx {tx} out of range"
  | .noSuchPlace block tx => s!"rune id {block}:{tx} is invalid"
  | .noColon text => s!"rune id {text} must be `BLOCK:TX`"
  | .invalidId text => s!"invalid rune id {text}"

namespace Rune

/-! ## Letters -/

/-- The position of a letter in the alphabet. -/
def letterIndex? (c : Char) : Option Nat :=
  if 65 ≤ c.toNat ∧ c.toNat ≤ 90 then some (c.toNat - 65) else none

/-- The letter at a position in the alphabet. -/
def letter (index : Nat) : Char :=
  Char.ofNat (65 + index)

/-- The name counted by `n - 1`, last letter first; zero counts no name. -/
def lettersReversed (n : Nat) : List Char :=
  if n = 0 then []
  else letter ((n - 1) % 26) :: lettersReversed ((n - 1) / 26)
termination_by n
decreasing_by omega

/-- The name of the last rune. -/
def lastName : String := "BCGDENLQRQWDSLRUGSNLBTMFIJAV"

/-- The letters counted by a number; a negative number counts none. Those of the last rune are not
counted anew. -/
def letters (n : Int) : List Char :=
  if n = maxU128 then lastName.toList else (lettersReversed (n + 1).toNat).reverse

/-- The name of a rune. -/
def name (rune : Rune) : String :=
  String.ofList (letters rune.value)

/-- Reads letters behind those that count `value`, if there were any. -/
def readLetters (name : String) : (value : Option Nat) → List Char → Except Error Nat
  | none, [] => .error .emptyName
  | some value, [] => .ok value
  | value, c :: rest =>
    match letterIndex? c with
    | none => .error (.invalidLetter c name)
    | some index =>
      let next := match value with
        | none => index
        | some v => (v + 1) * 26 + index
      if maxU128 < next then .error (.tooLarge name) else readLetters name (some next) rest

/-- Reads the name of a rune. -/
def ofName (name : String) : Except Error Rune :=
  (readLetters name none name.toList).map Rune.mk

end Rune

/-! ## Spaced names -/

/-- A rune with the places of its spacers: bit `i` stands for a spacer behind letter `i`. -/
structure SpacedRune where
  rune : Rune
  spacers : Nat
deriving DecidableEq, Repr

namespace SpacedRune

/-- The mark that is shown as a spacer. -/
def bullet : Char := '•'

/-- The marks that are read as a spacer. -/
def isSpacer (c : Char) : Bool :=
  c = '.' ∨ c = bullet

/-- Divides text into letters, last first, and spacer bits. -/
def scan (text : String) :
    (letters : List Char) → (spacers : Nat) → List Char → Except Rune.Error (List Char × Nat)
  | letters, spacers, [] => .ok (letters, spacers)
  | letters, spacers, c :: rest =>
    if (Rune.letterIndex? c).isSome then scan text (c :: letters) spacers rest
    else if isSpacer c then
      if letters.isEmpty then .error (.leadingSpacer text)
      else if spacers.testBit (letters.length - 1) then .error (.doubleSpacer text)
      else scan text letters (spacers + Nat.pow 2 (letters.length - 1)) rest
    else .error (.invalidCharacter c text)

/-- The number of binary digits of `n`; zero has none. -/
def bitLength (n : Nat) : Nat :=
  if n = 0 then 0 else n.log2 + 1

/-- Reads a name that may have single spacers between its letters. -/
def ofText (text : String) : Except Rune.Error SpacedRune := do
  let (letters, spacers) ← scan text [] 0 text.toList
  if letters.length ≤ bitLength spacers then throw (.trailingSpacer text)
  let rune ← Rune.ofName (String.ofList letters.reverse)
  return ⟨rune, spacers⟩

/-- Puts a bullet behind letter `index` and those after it where a bit says so; none stands behind
the last letter. -/
def interleave (spacers : Nat) : (index : Nat) → List Char → List Char
  | _, [] => []
  | _, [c] => [c]
  | index, c :: rest =>
    if spacers.testBit index then c :: bullet :: interleave spacers (index + 1) rest
    else c :: interleave spacers (index + 1) rest

/-- The name as it is shown. -/
def text (s : SpacedRune) : String :=
  String.ofList (interleave s.spacers 0 (Rune.letters s.rune.value))

instance : ToString SpacedRune := ⟨text⟩

end SpacedRune

end Runesmith
