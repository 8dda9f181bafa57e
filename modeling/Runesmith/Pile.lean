import Runesmith.Json

/-!
# Piles

An amount of a rune with what is needed to show it: how many digits stand behind the point, and a
symbol.
-/

namespace Runesmith

/-- An amount of a rune. -/
structure Pile where
  amount : Int
  divisibility : Nat
  symbol : Json

namespace Pile

/-- The symbol of runes that have none of their own. -/
def defaultSymbol : String := "¤"

/-- The blank in front of a symbol, at which no line is broken. -/
def noBreakSpace : Char := Char.ofNat 0xA0

/-- The digits of `n` with zeros in front of them up to a width. -/
def padded (width n : Nat) : List Char :=
  let digits := Nat.toDigits 10 n
  List.replicate (width - digits.length) '0' ++ digits

/-- A fraction without its trailing zeros, and the width that is left for it. Every zero that is
dropped takes one place of the width with it. There is an end to this because the fraction is not
zero. -/
def trimmed (width fraction : Nat) (hpos : 0 < fraction) : Nat × Nat :=
  if hlast : fraction % 10 = 0 then trimmed (width - 1) (fraction / 10) (by omega)
  else (width, fraction)
termination_by fraction
decreasing_by omega

/-- The exact decimal of the amount: the whole part, and a fraction if there is one. -/
def number (pile : Pile) : String :=
  let unit : Int := Nat.pow 10 pile.divisibility
  let whole := toString (pile.amount / unit)
  let fraction := (pile.amount % unit).toNat
  if hzero : fraction = 0 then whole
  else
    let (width, digits) := trimmed pile.divisibility fraction (Nat.pos_of_ne_zero hzero)
    whole ++ "." ++ String.ofList (padded width digits)

/-- The symbol that is shown. -/
def shownSymbol (pile : Pile) : String :=
  if pile.symbol.isTruthy then pile.symbol.display else defaultSymbol

/-- The number and the symbol. -/
def text (pile : Pile) : String :=
  pile.number ++ String.ofList [noBreakSpace] ++ pile.shownSymbol

/-- The pile as a document. -/
def toJson (pile : Pile) : Json :=
  .obj [("amount", .int pile.amount), ("divisibility", .int pile.divisibility),
    ("symbol", pile.symbol)]

end Pile

end Runesmith
