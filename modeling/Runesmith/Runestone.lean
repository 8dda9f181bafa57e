import Runesmith.Rune.Id

/-!
# Runestones

A runestone is the message that a transaction carries about runes: transfers of amounts to outputs,
an etching of a new rune, the mint of an open one, and the output that receives what is left over.
A message that breaks a rule is a cenotaph, which burns instead.
-/

namespace Runesmith

/-- A transfer of an amount of a rune to an output. -/
structure Edict where
  id : RuneId
  amount : Int
  output : Int
deriving DecidableEq, Repr

/-- The terms under which anybody may mint a rune, as etched. -/
structure Etching.Terms where
  amount : Option Nat
  cap : Option Nat
  height : Option Nat × Option Nat
  offset : Option Nat × Option Nat
deriving DecidableEq, Repr

/-- The creation of a rune. -/
structure Etching where
  divisibility : Option Nat
  premine : Option Nat
  rune : Option Rune
  spacers : Option Nat
  symbol : Option Char
  terms : Option Etching.Terms
  turbo : Bool
deriving DecidableEq, Repr

/-- The premine and everything that may ever be minted, if that is at most 128 bits. -/
def Etching.supply (etching : Etching) : Option Nat :=
  let minted := match etching.terms with
    | some terms => terms.cap.getD 0 * terms.amount.getD 0
    | none => 0
  let total := etching.premine.getD 0 + minted
  if total ≤ maxU128 then some total else none

/-- A message that keeps the rules. -/
structure Runestone where
  edicts : List Edict
  etching : Option Etching
  mint : Option RuneId
  pointer : Option Int
deriving DecidableEq, Repr

/-- The runestone that mints a rune and does nothing else. -/
def Runestone.ofMint (id : RuneId) : Runestone :=
  ⟨[], none, some id, none⟩

/-- The rule that a message breaks. -/
inductive Flaw where
  | edictOutput
  | edictRuneId
  | invalidScript
  | opcode
  | supplyOverflow
  | trailingIntegers
  | truncatedField
  | unrecognizedEvenTag
  | unrecognizedFlag
  | varint
deriving DecidableEq, Repr

/-- The name of a flaw. -/
def Flaw.name : Flaw → String
  | .edictOutput => "edict_output"
  | .edictRuneId => "edict_rune_id"
  | .invalidScript => "invalid_script"
  | .opcode => "opcode"
  | .supplyOverflow => "supply_overflow"
  | .trailingIntegers => "trailing_integers"
  | .truncatedField => "truncated_field"
  | .unrecognizedEvenTag => "unrecognized_even_tag"
  | .unrecognizedFlag => "unrecognized_flag"
  | .varint => "varint"

/-- A message that breaks a rule. The mint and the etched name still count. -/
structure Cenotaph where
  flaw : Flaw
  mint : Option RuneId
  etching : Option Rune
deriving DecidableEq, Repr

/-- What a transaction carries. -/
inductive Artifact where
  | runestone (r : Runestone)
  | cenotaph (c : Cenotaph)
deriving DecidableEq, Repr

end Runesmith
