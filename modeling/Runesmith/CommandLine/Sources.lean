import Runesmith.CommandLine

/-!
# What a command line reads

The files and the input that a command line needs before it can be followed. Which files these are
may depend on files that are read already: a configuration file may name another file.
-/

namespace Runesmith.CommandLine

/-- What a command overrides, if it uses the node. -/
def Command.connection? : Command → Option Connection
  | .mint _ connection => some connection
  | .prepare _ connection => some connection
  | .check _ connection => some connection
  | .decode _ => none

/-- The files that a command line needs, as far as what has been read of them tells. -/
def filesOf (s : Surroundings) (words : List String) : List String :=
  match parse words with
  | .ok invocation =>
    match invocation.command.connection? with
    | some connection => Config.files s ⟨none, invocation.config⟩ connection.rpc
    | none => []
  | .error _ => []

/-- Does a command line need the standard input? -/
def readsInput (words : List String) : Bool :=
  match parse words with
  | .ok ⟨_, .decode word⟩ => word = "-"
  | _ => false

end Runesmith.CommandLine
