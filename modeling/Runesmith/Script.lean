import Runesmith.Bytes

/-!
# Scripts

An output script is a string of bytes read as instructions: pushes of data and bare opcodes. This
module builds pushes and the standard output scripts, walks a script, and computes the smallest
value that is relayed for an output.
-/

namespace Runesmith

/-! ## Compact sizes -/

/-- Why a number cannot be written. -/
inductive RangeError where
  /-- A byte is outside 0 to 255. -/
  | byte
  /-- A number needs more bytes than there are for it. -/
  | width
deriving DecidableEq, Repr

/-- What is said about a byte out of range. -/
def RangeError.message : RangeError → String
  | .byte => "bytes must be in range(0, 256)"
  | .width => "int too big to convert"

namespace CompactSize

/-- A count in one byte, or a marker and two, four or eight bytes. -/
def encode (n : Nat) : Bytes :=
  if n < 253 then [UInt8.ofNat n]
  else if n ≤ 0xFFFF then 0xFD :: Bytes.littleEndian 2 n
  else if n ≤ 0xFFFFFFFF then 0xFE :: Bytes.littleEndian 4 n
  else 0xFF :: Bytes.littleEndian 8 n

/-- The compact size of a number, if it has one. -/
def ofInt (n : Int) : Except RangeError Bytes :=
  if n < 0 then .error .byte
  else if 0xFFFFFFFFFFFFFFFF < n then .error .width
  else .ok (encode n.toNat)

end CompactSize

namespace Script

/-! ## Opcodes -/

def op0 : UInt8 := 0x00
def pushData1 : UInt8 := 0x4C
def pushData2 : UInt8 := 0x4D
def pushData4 : UInt8 := 0x4E
def op1 : UInt8 := 0x51
def op13 : UInt8 := 0x5D
def op16 : UInt8 := 0x60
def opReturn : UInt8 := 0x6A
def opDup : UInt8 := 0x76
def opEqual : UInt8 := 0x87
def opEqualVerify : UInt8 := 0x88
def opHash160 : UInt8 := 0xA9
def opCheckSig : UInt8 := 0xAC

/-- The most bytes that one push may put on the stack. -/
def maxElementSize : Nat := 520

/-! ## Pushes -/

/-- The shortest script that pushes the data. -/
def push (data : Bytes) : Bytes :=
  let n := data.length
  if n < 0x4C then UInt8.ofNat n :: data
  else if n ≤ 0xFF then pushData1 :: UInt8.ofNat n :: data
  else if n ≤ 0xFFFF then pushData2 :: (Bytes.littleEndian 2 n ++ data)
  else pushData4 :: (Bytes.littleEndian 4 n ++ data)

/-- One instruction with the opcode it was written with. -/
inductive Instruction where
  | push (opcode : UInt8) (data : Bytes)
  | bare (opcode : UInt8)
deriving DecidableEq, Repr

/-- The opcode of an instruction. -/
def Instruction.opcode : Instruction → UInt8
  | .push opcode _ => opcode
  | .bare opcode => opcode

/-- The data of a push. -/
def Instruction.data? : Instruction → Option Bytes
  | .push _ data => some data
  | .bare _ => none

/-- Why a script cannot be walked to its end. -/
inductive Error where
  | truncatedLength
  | pastEnd
deriving DecidableEq, Repr

/-- What is said about an error. -/
def Error.message : Error → String
  | .truncatedLength => "truncated push length"
  | .pastEnd => "push past end of script"

/-- The data of a push of `length` bytes, and what follows it. -/
def readPush (opcode : UInt8) (length : Nat) (bytes : Bytes) : Except Error (Instruction × Bytes) :=
  match Bytes.split? length bytes with
  | some (data, rest) => .ok (.push opcode data, rest)
  | none => .error .pastEnd

/-- A push whose length takes `width` bytes, and what follows it. -/
def readSizedPush (opcode : UInt8) (width : Nat) (bytes : Bytes) :
    Except Error (Instruction × Bytes) :=
  match Bytes.split? width bytes with
  | some (size, rest) => readPush opcode (Bytes.ofLittleEndian size) rest
  | none => .error .truncatedLength

/-- The instruction that an opcode starts, and what follows it. -/
def step (opcode : UInt8) (rest : Bytes) : Except Error (Instruction × Bytes) :=
  if opcode < pushData1 then readPush opcode opcode.toNat rest
  else if opcode = pushData1 then readSizedPush opcode 1 rest
  else if opcode = pushData2 then readSizedPush opcode 2 rest
  else if opcode = pushData4 then readSizedPush opcode 4 rest
  else .ok (.bare opcode, rest)

theorem readPush_length {opcode : UInt8} {length : Nat} {bytes rest : Bytes} {i : Instruction}
    (h : readPush opcode length bytes = .ok (i, rest)) : rest.length ≤ bytes.length := by
  unfold readPush at h
  split at h
  · rename_i data rest' hs
    simp only [Except.ok.injEq, Prod.mk.injEq] at h
    exact h.2 ▸ Bytes.split?_length_le hs
  · simp at h

theorem readSizedPush_length {opcode : UInt8} {width : Nat} {bytes rest : Bytes} {i : Instruction}
    (h : readSizedPush opcode width bytes = .ok (i, rest)) : rest.length ≤ bytes.length := by
  unfold readSizedPush at h
  split at h
  · rename_i size rest' hs
    exact Nat.le_trans (readPush_length h) (Bytes.split?_length_le hs)
  · simp at h

/-- An instruction leaves no more than what stood behind its opcode. -/
theorem step_length {opcode : UInt8} {bytes rest : Bytes} {i : Instruction}
    (h : step opcode bytes = .ok (i, rest)) : rest.length ≤ bytes.length := by
  unfold step at h
  split at h
  · exact readPush_length h
  · split at h
    · exact readSizedPush_length h
    · split at h
      · exact readSizedPush_length h
      · split at h
        · exact readSizedPush_length h
        · simp only [Except.ok.injEq, Prod.mk.injEq] at h
          simp [h.2]

/-- The instructions of a script up to its end or to the first that is cut short. -/
def instructions (script : Bytes) : List Instruction × Option Error :=
  match script with
  | [] => ([], none)
  | opcode :: bytes =>
    match _h : step opcode bytes with
    | .error e => ([], some e)
    | .ok (i, rest) =>
      let (more, stop) := instructions rest
      (i :: more, stop)
termination_by script.length
decreasing_by
  have := step_length _h
  simp only [List.length_cons]
  omega

/-! ## Standard scripts -/

/-- Does the script start with `OP_RETURN`? Nobody can spend such an output. -/
def isOpReturn (script : Bytes) : Bool :=
  script.head? = some opReturn

/-- Is the script a version opcode and a single push of 2 to 40 bytes? -/
def isWitnessProgram (script : Bytes) : Bool :=
  match script with
  | version :: size :: _ =>
    4 ≤ script.length && script.length ≤ 42
      && (version = op0 ∨ (op1 ≤ version ∧ version ≤ op16))
      && size.toNat = script.length - 2
  | _ => false

/-- The opcode that pushes a witness version, as a number. -/
def versionOpcode (version : Int) : Int :=
  if version = 0 then 0 else 0x50 + version

/-- The script of a witness program. -/
def witness (version : Nat) (program : Bytes) : Bytes :=
  UInt8.ofNat (versionOpcode version).toNat :: UInt8.ofNat program.length :: program

/-- The script of a witness program of any version and length for which there are bytes. -/
def witness? (version : Int) (program : Bytes) : Except RangeError Bytes :=
  let opcode := versionOpcode version
  if 0 ≤ opcode ∧ opcode < 256 ∧ program.length < 256 then
    .ok (UInt8.ofNat opcode.toNat :: UInt8.ofNat program.length :: program)
  else .error .byte

/-- The script that pays to the hash of a public key. -/
def payToPubkeyHash (hash : Bytes) : Bytes :=
  [opDup, opHash160, 20] ++ hash ++ [opEqualVerify, opCheckSig]

/-- The script that pays to the hash of a script. -/
def payToScriptHash (hash : Bytes) : Bytes :=
  [opHash160, 20] ++ hash ++ [opEqual]

/-! ## Dust -/

/-- The relay fee, in sats for a virtual byte, at which dust is judged. -/
def dustFeeRate : Nat := 3

/-- The bytes of an output: its value, the size of its script and the script. -/
def outputSize (script : Bytes) : Nat :=
  8 + (CompactSize.encode script.length).length + script.length

/-- The bytes of an input that spends such an output; witness data counts a quarter. -/
def spendSize (script : Bytes) : Nat :=
  if isWitnessProgram script then 32 + 4 + 1 + 107 / 4 + 4 else 32 + 4 + 1 + 107 + 4

/-- The least value in sats that is relayed for an output: what it costs to make and to spend it.
An output that nobody can spend is never dust. -/
def dust (script : Bytes) : Nat :=
  if isOpReturn script then 0 else (spendSize script + outputSize script) * dustFeeRate

end Script

end Runesmith
