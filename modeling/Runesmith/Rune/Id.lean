import Runesmith.Rune

/-!
# Rune ids

A rune is identified by the place of its etching: the height of the block and the position of the
transaction in it. Ids are written into a runestone as differences: inside one block the position
is relative, in a later block it starts anew.
-/

namespace Runesmith

/-- The place of an etching. Block zero holds no etching but the first transaction. -/
structure RuneId where
  block : Nat
  tx : Nat
  block_le : block ≤ maxU64
  tx_le : tx ≤ maxU32
  genesis : block = 0 → tx = 0
deriving DecidableEq, Repr

namespace RuneId

/-- The id from which differences start. -/
def origin : RuneId := ⟨0, 0, by decide, by decide, fun _ => rfl⟩

instance : Inhabited RuneId := ⟨origin⟩

/-- The id of a block height and a position, if there is such a place. -/
def ofInts (block tx : Int) : Except Rune.Error RuneId :=
  if hb : 0 ≤ block ∧ block ≤ maxU64 then
    if ht : 0 ≤ tx ∧ tx ≤ maxU32 then
      if hg : block.toNat = 0 → tx.toNat = 0 then
        .ok ⟨block.toNat, tx.toNat, by omega, by omega, hg⟩
      else .error (.noSuchPlace block tx)
    else .error (.txOutOfRange tx)
  else .error (.blockOutOfRange block)

/-- The id of a block height and a position, or none. -/
def ofInts? (block tx : Int) : Option RuneId :=
  (ofInts block tx).toOption

/-- Reads `BLOCK:TX`. -/
def ofText (text : String) : Except Rune.Error RuneId :=
  let front := text.toList.takeWhile (· ≠ ':')
  match text.toList.dropWhile (· ≠ ':') with
  | [] => .error (.noColon text)
  | _ :: back =>
    match Numeral.integer? (String.ofList front), Numeral.integer? (String.ofList back) with
    | some block, some tx => (ofInts block tx).mapError fun _ => .invalidId text
    | _, _ => .error (.invalidId text)

/-- `BLOCK:TX`. -/
def text (id : RuneId) : String :=
  s!"{id.block}:{id.tx}"

/-! ## Order and differences -/

/-- Ids are ordered by block and then by position. -/
def le (a b : RuneId) : Bool :=
  a.block < b.block ∨ (a.block = b.block ∧ a.tx ≤ b.tx)

/-- Two ids in the wrong order have no difference. -/
inductive Unsorted where
  | unsorted
deriving DecidableEq, Repr

/-- What is said about ids in the wrong order. -/
def Unsorted.message : Unsorted → String
  | .unsorted => "rune ids must be sorted before delta encoding"

/-- The step from one id to a later one. -/
def delta (a b : RuneId) : Except Unsorted (Nat × Nat) :=
  if b.block < a.block then .error .unsorted
  else if b.block = a.block then
    if b.tx < a.tx then .error .unsorted else .ok (0, b.tx - a.tx)
  else .ok (b.block - a.block, b.tx)

/-- The id a step away, if there is such a place. -/
def next? (a : RuneId) (block tx : Int) : Option RuneId :=
  if block = 0 then ofInts? a.block (a.tx + tx) else ofInts? (a.block + block) tx

end RuneId

end Runesmith
