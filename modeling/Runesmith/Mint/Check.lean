import Runesmith.Mint

/-!
# Checking a rune

Says whether a rune could be minted now, and why not. A check reads the same as a mint does up to
the point where the rune is found eligible.
-/

namespace Runesmith

/-- What a check found out about a rune. -/
structure Check where
  id : RuneId
  entry : Entry
  height : Int

namespace Check

section

variable {m : Type → Type} [Monad m]

/-- Looks a rune up. -/
def run (index : Index m) (rune : SpacedRune) : Action m Check := do
  if !(← index.runesIndexed) then throw .runesNotIndexed
  let height ← index.chainHeight
  let some (id, entry) ← index.lookup rune | throw (.notEtched rune)
  return ⟨id, entry, height⟩

end

/-- A height that may be missing. -/
def heightJson : Option Int → Json
  | some height => .int height
  | none => .null

/-- The verdict: a pile, or a reason. -/
def verdict (check : Check) : Except Entry.Refusal Pile :=
  (check.entry.mintable check.height).map check.entry.pile

/-- The verdict as members of a document. -/
def verdictMembers (check : Check) : List (String × Json) :=
  match check.verdict with
  | .ok pile => [("mintable", .bool true), ("pile", pile.toJson), ("display", .str pile.text)]
  | .error refusal => [("mintable", .bool false), ("reason", .str refusal.reason)]

/-- What was found out, as a document. -/
def toJson (check : Check) : Json :=
  .obj ([("rune", .str check.entry.spacedRune.text), ("id", .str check.id.text),
    ("height", .int check.height), ("mints", .int check.entry.mints),
    ("start", heightJson check.entry.start), ("end", heightJson check.entry.stop)]
    ++ check.verdictMembers)

end Check

end Runesmith
