import Runesmith.Runestone
import Runesmith.Transaction
import Runesmith.Script

/-!
# Messages

The integers of a payload are pairs of a tag and a value, up to a tag zero, behind which edicts
follow in groups of four. Values of one tag form a queue; a field takes values from the front of its
queue and leaves them there if it cannot use them.
-/

namespace Runesmith

/-! ## Tags and flags -/

namespace Tag

def body : Nat := 0
def divisibility : Nat := 1
def flags : Nat := 2
def spacers : Nat := 3
def rune : Nat := 4
def symbol : Nat := 5
def premine : Nat := 6
def cap : Nat := 8
def amount : Nat := 10
def heightStart : Nat := 12
def heightEnd : Nat := 14
def offsetStart : Nat := 16
def offsetEnd : Nat := 18
def mint : Nat := 20
def pointer : Nat := 22

end Tag

namespace Flag

def etching : Nat := 0
def terms : Nat := 1
def turbo : Nat := 2

/-- Whether a flag is set, and the flags without it. -/
def take (flag : Nat) (flags : Nat) : Bool × Nat :=
  if flags.testBit flag then (true, flags - Nat.pow 2 flag) else (false, flags)

end Flag

/-! ## Fields -/

/-- Pairs of a tag and a value, in the order of the message. -/
abbrev Fields := List (Nat × Nat)

namespace Fields

/-- The queue of a tag. -/
def values (fields : Fields) (tag : Nat) : List Nat :=
  (fields.filter (·.1 = tag)).map (·.2)

/-- The fields without the first `count` pairs of a tag. -/
def discard (tag : Nat) : (count : Nat) → Fields → Fields
  | 0, fields => fields
  | _, [] => []
  | count + 1, field :: rest =>
    if field.1 = tag then discard tag count rest else field :: discard tag (count + 1) rest

/-- Takes the first `count` values of a tag if there are so many and `parse` accepts them. -/
def take {α : Type} (tag count : Nat) (parse : List Nat → Option α) : StateM Fields (Option α) :=
  fun fields =>
    let front := (fields.values tag).take count
    if front.length < count then (none, fields)
    else match parse front with
      | some x => (some x, discard tag count fields)
      | none => (none, fields)

/-- Takes the first value of a tag if `parse` accepts it. -/
def takeOne {α : Type} (tag : Nat) (parse : Nat → Option α) : StateM Fields (Option α) :=
  take tag 1 fun
    | [value] => parse value
    | _ => none

/-- Takes the first two values of a tag if `parse` accepts them. -/
def takeTwo {α : Type} (tag : Nat) (parse : Nat → Nat → Option α) : StateM Fields (Option α) :=
  take tag 2 fun
    | [first, second] => parse first second
    | _ => none

/-- Takes the first value of a tag if it is at most `limit`. -/
def takeUpTo (limit tag : Nat) : StateM Fields (Option Nat) :=
  takeOne tag fun value => if value ≤ limit then some value else none

/-- Is a pair with an even tag left? -/
def hasEvenTag (fields : Fields) : Bool :=
  fields.any (·.1 % 2 = 0)

end Fields

/-! ## Reading integers -/

/-- What the integers of a payload say, and the first rule that their form breaks. -/
structure Message where
  flaw : Option Flaw
  edicts : List Edict
  fields : Fields
deriving DecidableEq, Repr

namespace Message

/-- The edicts behind the id `current`, up to the first that breaks a rule, in a transaction with so
many outputs. An output number equal to their count stands for all of them. -/
def readEdicts (outputs : Nat) : (current : RuneId) → List Nat → List Edict × Option Flaw
  | _, [] => ([], none)
  | current, block :: tx :: amount :: output :: rest =>
    match current.next? block tx with
    | none => ([], some .edictRuneId)
    | some id =>
      if maxU32 < output ∨ outputs < output then ([], some .edictOutput)
      else
        let (edicts, flaw) := readEdicts outputs id rest
        (⟨id, amount, output⟩ :: edicts, flaw)
  | _, _ => ([], some .trailingIntegers)

/-- Reads pairs of a tag and a value up to the end or the body of edicts. -/
def ofIntegers (outputs : Nat) : List Nat → Message
  | [] => ⟨none, [], []⟩
  | tag :: rest =>
    if tag = Tag.body then
      let (edicts, flaw) := readEdicts outputs .origin rest
      ⟨flaw, edicts, []⟩
    else match rest with
      | [] => ⟨some .truncatedField, [], []⟩
      | value :: rest =>
        let message := ofIntegers outputs rest
        { message with fields := (tag, value) :: message.fields }

end Message

end Runesmith
