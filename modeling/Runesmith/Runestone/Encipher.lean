import Runesmith.Runestone.Decipher

/-!
# Enciphering

A runestone without an etching is written as tag and value pairs for its mint and its pointer, and a
body of edicts sorted by rune id. The bytes are pushed in pieces that fit on the stack.
-/

namespace Runesmith

namespace Runestone

/-- Why a runestone cannot be written. -/
inductive Error where
  | etching
  | integer (cause : Varint.Error)
  | unsorted
  | tooLarge (size : Nat) (limit : Int)
deriving DecidableEq, Repr

/-- What is said about an error. -/
def Error.message : Error → String
  | .etching => "enciphering etchings is not supported"
  | .integer cause => cause.message
  | .unsorted => RuneId.Unsorted.unsorted.message
  | .tooLarge size limit => s!"runestone greater than maximum OP_RETURN size: {size} > {limit}"

/-- The edicts in the order of their ids; edicts of one id keep their order. -/
def sortEdicts (edicts : List Edict) : List Edict :=
  edicts.mergeSort fun a b => a.id.le b.id

/-- The integers of sorted edicts behind the id `previous`, four for each. -/
def edictIntegers : (previous : RuneId) → List Edict → Except Error (List Int)
  | _, [] => .ok []
  | previous, edict :: rest =>
    match previous.delta edict.id with
    | .error _ => .error .unsorted
    | .ok (block, tx) =>
      (edictIntegers edict.id rest).map fun more =>
        (block : Int) :: (tx : Int) :: edict.amount :: edict.output :: more

/-- The integers of a body; no edicts make no body. -/
def bodyIntegers (edicts : List Edict) : Except Error (List Int) :=
  if edicts.isEmpty then .ok []
  else (edictIntegers .origin (sortEdicts edicts)).map ((Tag.body : Int) :: ·)

/-- The integers of the mint, two pairs of one tag. -/
def mintIntegers : Option RuneId → List Int
  | none => []
  | some id => [(Tag.mint : Int), id.block, Tag.mint, id.tx]

/-- The integers of the pointer. -/
def pointerIntegers : Option Int → List Int
  | none => []
  | some pointer => [(Tag.pointer : Int), pointer]

/-- The payload of a runestone. -/
def payload (r : Runestone) : Except Error Bytes := do
  let body ← bodyIntegers r.edicts
  (Varint.encodeAll (mintIntegers r.mint ++ pointerIntegers r.pointer ++ body)).mapError .integer

/-- The script that carries a payload. -/
def scriptOf (payload : Bytes) : Bytes :=
  header ++ (Bytes.chunks Script.maxElementSize payload).flatMap Script.push

/-- The output script that carries a runestone. -/
def encipher (r : Runestone) : Except Error Bytes :=
  if r.etching.isSome then .error .etching else r.payload.map scriptOf

/-- The largest script that is relayed. -/
def maxScriptSize : Int := 82

/-- The script itself, if it is not too large. -/
def ensureSize (limit : Int) (script : Bytes) : Except Error Bytes :=
  if limit < script.length then .error (.tooLarge script.length limit) else .ok script

/-- The runestone that mints a rune, with its script. -/
def encipherMint (id : RuneId) : Except Error (Runestone × Bytes) := do
  let script ← (ofMint id).encipher
  let script ← ensureSize maxScriptSize script
  return (ofMint id, script)

end Runestone

end Runesmith
