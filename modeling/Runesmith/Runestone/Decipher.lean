import Runesmith.Runestone.Message

/-!
# Deciphering

The message of a transaction stands in the first output whose script begins with `OP_RETURN` and the
magic number. The data pushed behind them is one string of bytes, the bytes are integers, and the
integers are the message.
-/

namespace Runesmith

namespace Runestone

/-! ## Payloads -/

/-- What the script of a runestone begins with. -/
def header : Bytes := [Script.opReturn, Script.op13]

/-- The data of a list of pushes, one after the other; any other instruction is a flaw. -/
def pushedData : List Script.Instruction → Except Flaw Bytes
  | [] => .ok []
  | .bare _ :: _ => .error .opcode
  | .push _ data :: rest => (pushedData rest).map (data ++ ·)

/-- The payload behind the header of a script. -/
def payloadOf (body : Bytes) : Except Flaw Bytes :=
  match Script.instructions body with
  | (instructions, stop) =>
    match pushedData instructions, stop with
    | .error flaw, _ => .error flaw
    | .ok _, some _ => .error .invalidScript
    | .ok data, none => .ok data

/-- The script of the first output that begins with the header. -/
def script? (tx : Transaction) : Option Bytes :=
  (tx.outputs.map TxOut.script).find? header.isPrefixOf

/-! ## Fields of an etching -/

/-- The most digits behind the point. -/
def maxDivisibility : Nat := 38

/-- Spacers fit behind all letters but the last of the longest name. -/
def maxSpacers : Nat := 0x7FFFFFF

/-- The character of a code point, if it is one. -/
def symbol? (value : Nat) : Option Char :=
  if h : value.isValidChar then some ⟨UInt32.ofNatLT value (by
    rcases h with h | h <;> simp only [UInt32.size] <;> omega), by
      simpa [UInt32.isValidChar] using h⟩
  else none

/-- Takes the terms of an etching. -/
def takeTerms : StateM Fields Etching.Terms := do
  let amount ← Fields.takeOne Tag.amount some
  let cap ← Fields.takeOne Tag.cap some
  let heightStart ← Fields.takeUpTo maxU64 Tag.heightStart
  let heightEnd ← Fields.takeUpTo maxU64 Tag.heightEnd
  let offsetStart ← Fields.takeUpTo maxU64 Tag.offsetStart
  let offsetEnd ← Fields.takeUpTo maxU64 Tag.offsetEnd
  return ⟨amount, cap, (heightStart, heightEnd), (offsetStart, offsetEnd)⟩

/-- Takes an etching, and leaves the flags that it does not know. -/
def takeEtching (flags : Nat) : StateM Fields (Etching × Nat) := do
  let divisibility ← Fields.takeUpTo maxDivisibility Tag.divisibility
  let premine ← Fields.takeOne Tag.premine some
  let rune ← Fields.takeOne Tag.rune fun value => some (Rune.mk value)
  let spacers ← Fields.takeUpTo maxSpacers Tag.spacers
  let symbol ← Fields.takeOne Tag.symbol symbol?
  let (hasTerms, flags) := Flag.take Flag.terms flags
  let terms ← if hasTerms then some <$> takeTerms else pure none
  let (turbo, flags) := Flag.take Flag.turbo flags
  return (⟨divisibility, premine, rune, spacers, symbol, terms, turbo⟩, flags)

/-- Everything that the fields of a message say. -/
structure Header where
  etching : Option Etching
  /-- The flags that are set and mean nothing. -/
  flags : Nat
  mint : Option RuneId
  pointer : Option Nat

/-- Takes the fields of a message in a transaction with so many outputs. -/
def takeHeader (outputs : Nat) : StateM Fields Header := do
  let flags := (← Fields.takeOne Tag.flags some).getD 0
  let (hasEtching, flags) := Flag.take Flag.etching flags
  let (etching, flags) ←
    if hasEtching then do
      let (etching, flags) ← takeEtching flags
      pure (some etching, flags)
    else pure (none, flags)
  let mint ← Fields.takeTwo Tag.mint fun block tx => RuneId.ofInts? block tx
  let pointer ← Fields.takeOne Tag.pointer fun value =>
    if value ≤ maxU32 ∧ value < outputs then some value else none
  return ⟨etching, flags, mint, pointer⟩

/-! ## Judging -/

/-- The first rule that a message breaks: in its form, in its supply, in its flags, in its tags. -/
def flaw? (message : Message) (header : Header) (left : Fields) : Option Flaw :=
  message.flaw
  <|> (if header.etching.any (·.supply.isNone) then some .supplyOverflow else none)
  <|> (if header.flags ≠ 0 then some .unrecognizedFlag else none)
  <|> (if left.hasEvenTag then some .unrecognizedEvenTag else none)

/-- The artifact of a message in a transaction with so many outputs. -/
def ofIntegers (outputs : Nat) (integers : List Nat) : Artifact :=
  let message := Message.ofIntegers outputs integers
  let (header, left) := (takeHeader outputs).run message.fields
  match flaw? message header left with
  | some flaw => .cenotaph ⟨flaw, header.mint, header.etching.bind (·.rune)⟩
  | none => .runestone ⟨message.edicts, header.etching, header.mint, header.pointer.map Int.ofNat⟩

/-- The artifact of a script that begins with the header. -/
def ofScript (outputs : Nat) (script : Bytes) : Artifact :=
  match payloadOf (script.drop header.length) with
  | .error flaw => .cenotaph ⟨flaw, none, none⟩
  | .ok payload =>
    match Varint.decodeAll payload with
    | .error _ => .cenotaph ⟨.varint, none, none⟩
    | .ok integers => ofIntegers outputs integers

/-- The artifact that a transaction carries, if any. -/
def decipher (tx : Transaction) : Option Artifact :=
  (script? tx).map (ofScript tx.outputs.length)

end Runestone

end Runesmith
