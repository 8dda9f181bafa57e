import Runesmith.Bytes

/-!
# Variable-length integers

The numbers of a runestone payload are unsigned 128-bit integers in base 128: seven bits a byte,
least significant group first, the high bit set on every byte but the last. A number takes at most
nineteen bytes, and the nineteenth has room for two bits only. Shorter numbers may be padded with
empty groups; the reader accepts them.
-/

namespace Runesmith

/-- The largest unsigned 128-bit number. -/
def maxU128 : Nat := 0xFFFFFFFFFFFFFFFFFFFFFFFFFFFFFFFF

/-- The largest unsigned 64-bit number. -/
def maxU64 : Nat := 0xFFFFFFFFFFFFFFFF

/-- The largest unsigned 32-bit number. -/
def maxU32 : Nat := 0xFFFFFFFF

namespace Varint

/-- Why a number has no encoding, or bytes hold no number. -/
inductive Error where
  /-- The number is negative or needs more than 128 bits. -/
  | outOfRange (value : Int)
  /-- Nineteen bytes went by and none of them was the last. -/
  | overlong
  /-- The nineteenth byte carries bits beyond the 128th. -/
  | overflow
  /-- The bytes ended inside a number. -/
  | unterminated
deriving DecidableEq, Repr

/-- What is said about an error. -/
def Error.message : Error → String
  | .outOfRange value => s!"{value} is outside the u128 range"
  | .overlong => "overlong varint"
  | .overflow => "varint overflows u128"
  | .unterminated => "unterminated varint"

/-- The most bytes a number may take. -/
def maxLength : Nat := 19

/-! ## Writing -/

/-- The base-128 groups of a number, each but the last with its high bit set. -/
def groups (n : Nat) : Bytes :=
  if n < 128 then [UInt8.ofNat n]
  else UInt8.ofNat (n % 128 + 128) :: groups (n / 128)
termination_by n
decreasing_by omega

/-- The shortest encoding of a number of at most 128 bits. -/
def encode (value : Int) : Except Error Bytes :=
  if 0 ≤ value ∧ value ≤ maxU128 then .ok (groups value.toNat) else .error (.outOfRange value)

/-- The encodings of several numbers, one after the other. -/
def encodeAll : List Int → Except Error Bytes
  | [] => .ok []
  | value :: rest => do
    let front ← encode value
    let back ← encodeAll rest
    return front ++ back

/-! ## Reading -/

/-- Reads a number that may take at most `room` more bytes; the last of them carries two bits. -/
def decodeWithin : (room : Nat) → Bytes → Except Error (Nat × Bytes)
  | _, [] => .error .unterminated
  | 0, _ :: _ => .error .overlong
  | room + 1, b :: rest =>
    let group := b.toNat % 128
    if room = 0 ∧ 4 ≤ group then .error .overflow
    else if b.toNat < 128 then .ok (group, rest)
    else match decodeWithin room rest with
      | .ok (high, rest') => .ok (group + 128 * high, rest')
      | .error e => .error e

/-- Reads the number at the front of the bytes and returns it with the bytes that follow. -/
def decode (bytes : Bytes) : Except Error (Nat × Bytes) :=
  decodeWithin maxLength bytes

theorem decodeWithin_length {room : Nat} {bytes rest : Bytes} {value : Nat}
    (h : decodeWithin room bytes = .ok (value, rest)) : rest.length < bytes.length := by
  induction bytes generalizing room value rest with
  | nil => simp [decodeWithin] at h
  | cons b tail ih =>
    cases room with
    | zero => simp [decodeWithin] at h
    | succ room =>
      simp only [decodeWithin] at h
      split at h
      · simp at h
      · split at h
        · simp only [Except.ok.injEq, Prod.mk.injEq] at h
          simp [h.2]
        · split at h
          · rename_i high rest' hrec
            simp only [Except.ok.injEq, Prod.mk.injEq] at h
            have := ih hrec
            simp only [List.length_cons, ← h.2]
            omega
          · simp at h

/-- A number that was read took at least one byte. -/
theorem decode_length {bytes rest : Bytes} {value : Nat}
    (h : decode bytes = .ok (value, rest)) : rest.length < bytes.length :=
  decodeWithin_length h

/-- Reads numbers until the bytes end. -/
def decodeAll (bytes : Bytes) : Except Error (List Nat) :=
  if bytes = [] then .ok []
  else match _h : decode bytes with
    | .error e => .error e
    | .ok (value, rest) =>
      match decodeAll rest with
      | .error e => .error e
      | .ok values => .ok (value :: values)
termination_by bytes.length
decreasing_by exact decode_length _h

end Varint

end Runesmith
