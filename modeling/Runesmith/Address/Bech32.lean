import Runesmith.Bytes

/-!
# Bech32

Text of a human-readable part, the letter `1`, and five-bit symbols of which the last six are a
checksum. The checksum is the remainder of a polynomial over the field of 32 elements; its constant
tells the two kinds of the encoding apart. Bytes become symbols by regrouping their bits.
-/

namespace Runesmith.Bech32

/-! ## Symbols -/

/-- The symbols, in order of value. -/
def alphabet : List Char :=
  "qpzry9x8gf2tvdw0s3jn54khce6mua7l".toList

/-- The value of a symbol. -/
def symbolValue? (c : Char) : Option Nat :=
  alphabet.idxOf? c

/-! ## Checksum -/

/-- What each of the five bits that leave the remainder at the top adds to it. -/
def generators : List Nat :=
  [0x3B6A57B2, 0x26508E6D, 0x1EA119FA, 0x3D4233DD, 0x2A1462B3]

/-- The sum of the generators whose bits are set in `top`. -/
def reduction (top : Nat) : Nat :=
  generators.zipIdx.foldl (fun sum g => if top.testBit g.2 then sum ^^^ g.1 else sum) 0

/-- Appends one value to the message behind a remainder. -/
def polymodStep (remainder value : Nat) : Nat :=
  ((remainder % 0x2000000) * 32) ^^^ value ^^^ reduction (remainder / 0x2000000)

/-- The remainder of a message. -/
def polymod (values : List Nat) : Nat :=
  values.foldl polymodStep 1

/-- The human-readable part as values: the high bits of its characters, zero, the low bits. -/
def expand (hrp : String) : List Nat :=
  hrp.toList.map (·.toNat / 32) ++ 0 :: hrp.toList.map (·.toNat % 32)

/-- The constant of the older kind, used by version zero. -/
def constant : Nat := 1

/-- The constant of the newer kind. -/
def constantM : Nat := 0x2BC830A3

/-- The number of symbols in a checksum. -/
def checksumLength : Nat := 6

/-! ## Regrouping bits -/

/-- The groups of `size` bits at the top of the lowest `bits` bits of `acc`, with the number of bits
that are left over. -/
def takeGroups (size acc bits : Nat) : List Nat × Nat :=
  if _h : 0 < size ∧ size ≤ bits then
    let group := acc / Nat.pow 2 (bits - size) % Nat.pow 2 size
    let (more, left) := takeGroups size acc (bits - size)
    (group :: more, left)
  else ([], bits)
termination_by bits
decreasing_by omega

/-- Adds values of `width` bits to the lowest `bits` bits of `acc` and gives out groups of `size`
bits. Returns them with what is left in the accumulator. -/
def regroupFrom (width size : Nat) : (acc bits : Nat) → List Nat → List Nat × Nat × Nat
  | acc, bits, [] => ([], acc, bits)
  | acc, bits, value :: rest =>
    let acc := ((acc * Nat.pow 2 width) ||| value) % Nat.pow 2 (width + size - 1)
    let (groups, bits) := takeGroups size acc (bits + width)
    let (more, last) := regroupFrom width size acc bits rest
    (groups ++ more, last)

/-- Regroups values of `width` bits as values of `size` bits. Left-over bits are padded with zeros
to a last group, or, without padding, must be zeros and fewer than `width`. -/
def regroup (width size : Nat) (pad : Bool) (values : List Nat) : Option (List Nat) :=
  let (groups, acc, bits) := regroupFrom width size 0 0 values
  let last := acc * Nat.pow 2 (size - bits) % Nat.pow 2 size
  if pad then some (if bits = 0 then groups else groups ++ [last])
  else if width ≤ bits ∨ last ≠ 0 then none
  else some groups

end Runesmith.Bech32
