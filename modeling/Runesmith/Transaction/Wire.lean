import Runesmith.Transaction
import Runesmith.Script
import Runesmith.Hash.Sha256

/-!
# The wire format of transactions

Version, inputs, outputs and lock time, each list preceded by its count. A transaction with witness
data has a marker and a flag byte behind the version and the witness stacks in front of the lock
time. The marker is also the count of an empty list of inputs, so a transaction without inputs and
with exactly one output cannot be told from one with witness data.
-/

namespace Runesmith

namespace Transaction

/-! ## Writing -/

/-- Why a transaction has no wire form. -/
inductive EncodeError where
  /-- A transaction id is not hexadecimal. -/
  | txidNotHex
  /-- A transaction id has the wrong number of bytes. -/
  | txidLength (bytes : Nat)
  | outputIndex (vout : Int)
  | sequence (sequence : Int)
  | lockTime (lockTime : Int)
  /-- The version or a value does not fit its field. -/
  | fieldWidth
deriving DecidableEq, Repr

/-- Signed hexadecimal digits of a number. -/
def hexText (n : Int) : String :=
  (if n < 0 then "-" else "") ++ String.ofList (Nat.toDigits 16 n.natAbs)

/-- What is said about an error. -/
def EncodeError.message : EncodeError → String
  | .txidNotHex => "transaction id is not valid hex"
  | .txidLength bytes => s!"COutPoint: hash must be exactly 32 bytes; got {bytes} bytes"
  | .outputIndex n => s!"COutPoint: n must be in range 0x0 to 0xffffffff; got {hexText n}"
  | .sequence n =>
    s!"CTxIn: nSequence must be an integer between 0x0 and 0xffffffff; got {hexText n}"
  | .lockTime n =>
    s!"CTransaction: nLockTime must be in range 0x0 to 0xffffffff; got {hexText n}"
  | .fieldWidth => "number does not fit its field"

/-- Whether a number fits an unsigned field of 32 bits. -/
def fitsU32 (n : Int) : Bool :=
  0 ≤ n ∧ n ≤ 0xFFFFFFFF

/-- A signed number in two's complement, if it fits. -/
def signed? (width : Nat) (n : Int) : Option Bytes :=
  let half : Int := Nat.pow 2 (8 * width - 1)
  if -half ≤ n ∧ n < half then
    some (Bytes.littleEndian width (n.emod (Nat.pow 2 (8 * width))).toNat)
  else none

/-- A count of bytes and the bytes. -/
def sized (bytes : Bytes) : Bytes :=
  CompactSize.encode bytes.length ++ bytes

/-- Everything of an input but its witness. -/
def encodeInput (input : TxIn) : Except EncodeError Bytes :=
  match Bytes.ofHex? input.previous.txid with
  | none => .error .txidNotHex
  | some hash =>
    if hash.length ≠ 32 then .error (.txidLength hash.length)
    else if !fitsU32 input.previous.vout then .error (.outputIndex input.previous.vout)
    else if !fitsU32 input.sequence then .error (.sequence input.sequence)
    else .ok (hash.reverse ++ Bytes.littleEndian 4 input.previous.vout.toNat
      ++ sized input.scriptSig ++ Bytes.littleEndian 4 input.sequence.toNat)

/-- An output. -/
def encodeOutput (output : TxOut) : Except EncodeError Bytes :=
  match signed? 8 output.value with
  | some value => .ok (value ++ sized output.script)
  | none => .error .fieldWidth

/-- The witness stack of an input. -/
def encodeStack (stack : List Bytes) : Bytes :=
  CompactSize.encode stack.length ++ stack.flatMap sized

/-- The wire form. The inputs and the lock time are judged before the version and the values. -/
def encodeWith (withWitness : Bool) (tx : Transaction) : Except EncodeError Bytes := do
  let inputs ← tx.inputs.mapM encodeInput
  if !fitsU32 tx.lockTime then throw (.lockTime tx.lockTime)
  let some version := signed? 4 tx.version | throw .fieldWidth
  let outputs ← tx.outputs.mapM encodeOutput
  return version
    ++ (if withWitness then [0, 1] else [])
    ++ CompactSize.encode tx.inputs.length ++ inputs.flatten
    ++ CompactSize.encode tx.outputs.length ++ outputs.flatten
    ++ (if withWitness then tx.inputs.flatMap fun input => encodeStack input.witness else [])
    ++ Bytes.littleEndian 4 tx.lockTime.toNat

/-- The wire form, with witness data if there is any. -/
def encode (tx : Transaction) : Except EncodeError Bytes :=
  tx.encodeWith tx.hasWitness

/-- The wire form in hexadecimal. -/
def toHex (tx : Transaction) : Except EncodeError String :=
  tx.encode.map Bytes.toHex

/-- The id: the double hash of the wire form without witness data, written backwards. -/
def txid (tx : Transaction) : Except EncodeError String :=
  (tx.encodeWith false).map fun bytes => Bytes.toHex (Sha256.doubleDigest bytes).reverse

/-! ## Reading -/

/-- Why bytes are no transaction. -/
inductive WireError where
  /-- A length is larger than anything that may be read at once. -/
  | tooLong (length : Nat)
  /-- The bytes ended inside a field. -/
  | truncated (wanted got : Nat)
  /-- Something stands behind the transaction. -/
  | trailing
deriving DecidableEq, Repr

/-- What is said about an error. -/
def WireError.message : WireError → String
  | .tooLong length =>
    s!"Asked to read 0x{String.ofList (Nat.toDigits 16 length)} bytes; MAX_SIZE exceeded"
  | .truncated wanted got => s!"Asked to read {wanted} bytes, but only got {got}"
  | .trailing => "Not all bytes consumed during deserialization"

/-- Why text is no transaction. -/
inductive DecodeError where
  | notHex
  | malformed (cause : WireError)
deriving DecidableEq, Repr

/-- What is said about an error. -/
def DecodeError.message : DecodeError → String
  | .notHex => "raw transaction is not valid hex"
  | .malformed cause => s!"malformed transaction: {cause.message}"

/-- The most bytes that may be read at once. -/
def maxRead : Nat := 0x02000000

/-- A reader takes bytes from the front and leaves the rest. -/
abbrev Reader (α : Type) := StateT Bytes (Except WireError) α

namespace Reader

/-- Takes exactly `n` bytes. -/
def take (n : Nat) : Reader Bytes := fun bytes =>
  if maxRead < n then .error (.tooLong n)
  else match Bytes.split? n bytes with
    | some (front, rest) => .ok (front, rest)
    | none => .error (.truncated n bytes.length)

/-- Takes an unsigned number of `width` bytes. -/
def unsigned (width : Nat) : Reader Nat := do
  return Bytes.ofLittleEndian (← take width)

/-- Takes a signed number of `width` bytes in two's complement. -/
def signed (width : Nat) : Reader Int := do
  return Int.bmod (← unsigned width) (Nat.pow 2 (8 * width))

/-- Takes a count; it need not be written in the shortest form. -/
def count : Reader Nat := do
  let head ← unsigned 1
  if head < 0xFD then return head
  else if head = 0xFD then unsigned 2
  else if head = 0xFE then unsigned 4
  else unsigned 8

/-- Takes a count of bytes and the bytes. -/
def sized : Reader Bytes := do
  take (← count)

/-- Takes `n` things, one after the other. -/
def many {α : Type} (item : Reader α) : (n : Nat) → Reader (List α)
  | 0 => return []
  | n + 1 => do
    let x ← item
    let xs ← many item n
    return x :: xs

/-- Takes a count of things and the things. -/
def counted {α : Type} (item : Reader α) : Reader (List α) := do
  many item (← count)

/-- Takes an input; its witness stands elsewhere. -/
def input : Reader TxIn := do
  let hash ← take 32
  let vout ← unsigned 4
  let scriptSig ← sized
  let sequence ← unsigned 4
  return ⟨⟨Bytes.toHex hash.reverse, vout⟩, scriptSig, sequence, []⟩

/-- Takes an output. -/
def output : Reader TxOut := do
  let value ← signed 8
  let script ← sized
  return ⟨value, script⟩

/-- Takes the witness stacks of the inputs. -/
def witnesses (inputs : List TxIn) : Reader (List TxIn) :=
  inputs.mapM fun input => do
    let stack ← counted sized
    return { input with witness := stack }

/-- Takes a transaction. The two bytes behind the version tell the two forms apart. -/
def transaction : Reader Transaction := do
  let version ← signed 4
  let start ← get
  let marker ← unsigned 1
  let flag ← unsigned 1
  if marker = 0 ∧ flag = 1 then
    let inputs ← counted input
    let outputs ← counted output
    let inputs ← witnesses inputs
    let lockTime ← unsigned 4
    return ⟨version, lockTime, inputs, outputs⟩
  else
    set start
    let inputs ← counted input
    let outputs ← counted output
    let lockTime ← unsigned 4
    return ⟨version, lockTime, inputs, outputs⟩

end Reader

/-- Reads a transaction that takes up all the bytes. -/
def decode (bytes : Bytes) : Except WireError Transaction :=
  match Reader.transaction bytes with
  | .error e => .error e
  | .ok (tx, []) => .ok tx
  | .ok (_, _ :: _) => .error .trailing

/-- Reads a transaction from hexadecimal text. -/
def ofHex (text : String) : Except DecodeError Transaction :=
  match Bytes.ofHex? text with
  | none => .error .notHex
  | some bytes => (decode bytes).mapError .malformed

end Transaction

end Runesmith
