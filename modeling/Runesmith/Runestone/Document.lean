import Runesmith.Json
import Runesmith.Runestone

/-!
# Runestones as documents

How runestones and cenotaphs are shown.
-/

namespace Runesmith

/-- A number that may be missing. -/
def Json.ofNat? : Option Nat → Json
  | some n => .int n
  | none => .null

/-- Text that may be missing. -/
def Json.ofText? : Option String → Json
  | some s => .str s
  | none => .null

/-- Terms as a document. -/
def Etching.Terms.toJson (terms : Etching.Terms) : Json :=
  .obj [("amount", .ofNat? terms.amount), ("cap", .ofNat? terms.cap),
    ("height", .arr [.ofNat? terms.height.1, .ofNat? terms.height.2]),
    ("offset", .arr [.ofNat? terms.offset.1, .ofNat? terms.offset.2])]

/-- An etching as a document. -/
def Etching.toJson (etching : Etching) : Json :=
  .obj [("divisibility", .ofNat? etching.divisibility), ("premine", .ofNat? etching.premine),
    ("rune", .ofText? (etching.rune.map Rune.name)), ("spacers", .ofNat? etching.spacers),
    ("symbol", .ofText? (etching.symbol.map fun c => String.ofList [c])),
    ("terms", (etching.terms.map Etching.Terms.toJson).getD .null), ("turbo", .bool etching.turbo)]

/-- An edict as a document. -/
def Edict.toJson (edict : Edict) : Json :=
  .obj [("id", .str edict.id.text), ("amount", .int edict.amount), ("output", .int edict.output)]

/-- A runestone as a document. -/
def Runestone.toJson (r : Runestone) : Json :=
  .obj [("edicts", .arr (r.edicts.map Edict.toJson)),
    ("etching", (r.etching.map Etching.toJson).getD .null),
    ("mint", .ofText? (r.mint.map RuneId.text)),
    ("pointer", (r.pointer.map Json.int).getD .null)]

/-- A cenotaph as a document. -/
def Cenotaph.toJson (c : Cenotaph) : Json :=
  .obj [("cenotaph", .bool true), ("flaw", .str c.flaw.name),
    ("mint", .ofText? (c.mint.map RuneId.text)), ("etching", .ofText? (c.etching.map Rune.name))]

/-- What a transaction carries, as a document. -/
def Artifact.toJson : Artifact → Json
  | .runestone r => r.toJson
  | .cenotaph c => c.toJson

end Runesmith
