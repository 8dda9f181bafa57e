import Runesmith.Json

/-!
# Files and the environment

What a configuration is read from. A path is shortened before it is used or shown: empty parts and
parts `.` go, and a leading `~` is the home directory.
-/

namespace Runesmith

/-- What is found at a path. -/
inductive FileState where
  | missing
  | directory
  | text (contents : String)
  /-- A file whose contents have been read as a document. -/
  | document (value : Json)

/-- Where a program runs. -/
structure Surroundings where
  /-- Variables with their values. -/
  env : List (String × String)
  /-- The home directory. -/
  home : String
  read : (path : String) → FileState

namespace Surroundings

/-- The value of a variable. -/
def var? (s : Surroundings) (name : String) : Option String :=
  (s.env.find? (·.1 = name)).map (·.2)

end Surroundings

namespace FilePath

/-- The parts of a path between slashes. -/
def parts (path : String) : List String :=
  (path.toList.foldr (fun c parts =>
    match parts with
    | [] => [[c]]
    | part :: rest => if c = '/' then [] :: part :: rest else (c :: part) :: rest) [[]]).map
      String.ofList

/-- The slashes that a path starts from: none, one, or exactly two. -/
def root (path : String) : String :=
  match path.toList with
  | '/' :: '/' :: '/' :: _ => "/"
  | '/' :: '/' :: _ => "//"
  | '/' :: _ => "/"
  | _ => ""

/-- The path without empty parts and parts `.`. -/
def normalize (path : String) : String :=
  let body := "/".intercalate ((parts path).filter fun part => part ≠ "" ∧ part ≠ ".")
  let whole := root path ++ body
  if whole.isEmpty then "." else whole

/-- The path with the home directory for a first part `~`; another user's home is not known. -/
def expand? (home path : String) : Option String :=
  let path := normalize path
  match path.toList with
  | ['~'] => some (normalize home)
  | '~' :: '/' :: rest => some (normalize (home ++ "/" ++ String.ofList rest))
  | '~' :: _ => none
  | _ => some path

end FilePath

end Runesmith
