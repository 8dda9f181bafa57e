import Runesmith.Bytes

/-!
# Base58Check

Bytes written in base 58 with an alphabet that leaves out look-alikes. A leading zero byte is a
leading `1`. The last four bytes are a checksum: the first four of a hash of those before them. The
hash is a parameter.
-/

namespace Runesmith.Base58

/-- The digits, in order of value. -/
def alphabet : List Char :=
  "123456789ABCDEFGHJKLMNPQRSTUVWXYZabcdefghijkmnopqrstuvwxyz".toList

/-- The value of a digit. -/
def digitValue? (c : Char) : Option Nat :=
  alphabet.idxOf? c

/-- Why text holds no payload. -/
inductive Error where
  | invalidCharacter (c : Char)
  | tooShort
  | checksum
deriving DecidableEq, Repr

/-- What is said about an error. -/
def Error.message : Error → String
  | .invalidCharacter c => s!"invalid Base58 character: {c}"
  | .tooShort => "Base58Check payload too short"
  | .checksum => "Base58Check checksum mismatch"

/-- The number that digits denote behind those that denote `value`. -/
def readDigits : (value : Nat) → List Char → Except Error Nat
  | value, [] => .ok value
  | value, c :: rest =>
    match digitValue? c with
    | some digit => readDigits (58 * value + digit) rest
    | none => .error (.invalidCharacter c)

/-- The base-256 digits of a number, least significant first; zero has none. -/
def bytesReversed (n : Nat) : Bytes :=
  if n = 0 then [] else UInt8.ofNat (n % 256) :: bytesReversed (n / 256)
termination_by n
decreasing_by omega

/-- The bytes that text in base 58 stands for. -/
def decode (text : String) : Except Error Bytes :=
  let cs := text.toList
  (readDigits 0 cs).map fun value =>
    List.replicate (cs.takeWhile (· = '1')).length 0 ++ (bytesReversed value).reverse

/-- The number of bytes in a checksum. -/
def checksumLength : Nat := 4

/-- The checksum of a payload. -/
def checksum (hash : Bytes → Bytes) (payload : Bytes) : Bytes :=
  (hash payload).take checksumLength

/-- The payload of text whose checksum is right. -/
def decodeCheck (hash : Bytes → Bytes) (text : String) : Except Error Bytes := do
  let bytes ← decode text
  if bytes.length < checksumLength + 1 then throw .tooShort
  let payload := bytes.take (bytes.length - checksumLength)
  if checksum hash payload ≠ bytes.drop (bytes.length - checksumLength) then throw .checksum
  return payload

end Runesmith.Base58
