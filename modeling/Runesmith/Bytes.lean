/-!
# Byte strings

Scripts, payloads and hashes are lists of bytes. This module holds their hexadecimal text, the
little-endian numbers inside them, and the one cutting operation every reader needs: take exactly
so many bytes, or say how many there were.
-/

namespace Runesmith

/-- A string of bytes. -/
abbrev Bytes := List UInt8

namespace Bytes

/-! ## Hexadecimal text -/

/-- The lowercase hexadecimal digit of a number below 16. -/
def hexDigit (n : Nat) : Char :=
  if n < 10 then Char.ofNat (48 + n) else Char.ofNat (87 + n)

/-- The value of a hexadecimal digit, in either case. -/
def hexValue? (c : Char) : Option Nat :=
  let n := c.toNat
  if 48 ≤ n ∧ n ≤ 57 then some (n - 48)
  else if 97 ≤ n ∧ n ≤ 102 then some (n - 87)
  else if 65 ≤ n ∧ n ≤ 70 then some (n - 55)
  else none

/-- The two digits of every byte, most significant digit first. -/
def hexDigits (bytes : Bytes) : List Char :=
  bytes.flatMap fun b => [hexDigit (b.toNat / 16), hexDigit (b.toNat % 16)]

/-- Lowercase hexadecimal text. -/
def toHex (bytes : Bytes) : String :=
  String.ofList bytes.hexDigits

/-- Reads pairs of hexadecimal digits; an odd digit out or any other character is refused. -/
def ofHexDigits? : List Char → Option Bytes
  | [] => some []
  | [_] => none
  | high :: low :: rest =>
    match hexValue? high, hexValue? low, ofHexDigits? rest with
    | some h, some l, some bytes => some (UInt8.ofNat (16 * h + l) :: bytes)
    | _, _, _ => none

/-- Reads hexadecimal text in either case. -/
def ofHex? (text : String) : Option Bytes :=
  ofHexDigits? text.toList

/-! ## Little-endian numbers -/

/-- The lowest `width` base-256 digits of `n`, least significant first. -/
def littleEndian : (width : Nat) → (n : Nat) → Bytes
  | 0, _ => []
  | width + 1, n => UInt8.ofNat (n % 256) :: littleEndian width (n / 256)

/-- The number whose base-256 digits are the given bytes, least significant first. -/
def ofLittleEndian : Bytes → Nat
  | [] => 0
  | b :: rest => b.toNat + 256 * ofLittleEndian rest

/-- The lowest `width` base-256 digits of `n`, most significant first. -/
def bigEndian (width n : Nat) : Bytes :=
  (littleEndian width n).reverse

/-- The number whose base-256 digits are the given bytes, most significant first. -/
def ofBigEndian (bytes : Bytes) : Nat :=
  bytes.foldl (fun value b => value * 256 + b.toNat) 0

/-! ## Cutting -/

/-- The first `n` bytes and what follows them; none if there are fewer than `n`. -/
def split? (n : Nat) (bytes : Bytes) : Option (Bytes × Bytes) :=
  let parts := bytes.splitAt n
  if parts.1.length = n then some parts else none

theorem split?_append {n : Nat} {bytes front rest : Bytes}
    (h : split? n bytes = some (front, rest)) : front ++ rest = bytes ∧ front.length = n := by
  simp only [split?, List.splitAt_eq] at h
  split at h
  · rename_i hn
    simp only [Option.some.injEq, Prod.mk.injEq] at h
    obtain ⟨rfl, rfl⟩ := h
    exact ⟨List.take_append_drop n bytes, hn⟩
  · simp at h

theorem split?_length_le {n : Nat} {bytes front rest : Bytes}
    (h : split? n bytes = some (front, rest)) : rest.length ≤ bytes.length := by
  have := congrArg List.length (split?_append h).1
  simp only [List.length_append] at this
  omega

/-- Pieces of `n` bytes, the last one perhaps shorter; no pieces when `n` is zero. -/
def chunks (n : Nat) (bytes : Bytes) : List Bytes :=
  if _h : n = 0 ∨ bytes = [] then []
  else bytes.take n :: chunks n (bytes.drop n)
termination_by bytes.length
decreasing_by
  have : bytes.length ≠ 0 := by simpa using fun hb => _h (Or.inr hb)
  simp only [List.length_drop]
  omega

end Bytes

end Runesmith
