import Runesmith.Text.Digit
import Runesmith.Text.Quoted

/-!
# Reading command lines

A grammar has switches, some with an argument, and perhaps one positional argument, which may take
everything behind it. A long switch may be shortened while it stays unambiguous, its argument may
follow a `=`, short switches may be joined, and behind `--` nothing is a switch. What the grammar
does not know is collected and left to the caller.
-/

namespace Runesmith.Arguments

/-! ## Grammars -/

/-- Why a command line cannot be used. -/
inductive Stop (ε : Type) where
  /-- It breaks the grammar. -/
  | usage (message : String)
  /-- Help was asked for. -/
  | help
  /-- Something else went wrong while an argument was read. -/
  | fault (cause : ε)

/-- Why an argument cannot be used. -/
inductive Unreadable (ε : Type) where
  | refused (message : String)
  | fault (cause : ε)

/-- What a switch does with what follows it. -/
inductive Action (ε α : Type) where
  | help
  | flag (value : α)
  | argument (read : String → Except (Unreadable ε) α)

/-- A switch with all its names. -/
structure Switch (ε α : Type) where
  names : List String
  action : Action ε α
  required : Bool

/-- The argument that is not behind a switch. -/
inductive Positional where
  | nothing
  /-- Exactly one argument. -/
  | one (name : String)
  /-- An argument and everything behind it, switches too. -/
  | all (name : String)

/-- What may stand on a command line. -/
structure Grammar (ε α : Type) where
  switches : List (Switch ε α)
  positional : Positional

section

variable {ε α : Type}

/-- How a switch is called in messages. -/
def Switch.title (switch : Switch ε α) : String :=
  "/".intercalate switch.names

/-- Does the switch take an argument? -/
def Switch.takesArgument (switch : Switch ε α) : Bool :=
  match switch.action with
  | .argument _ => true
  | _ => false

/-- All names with their switches. -/
def Grammar.names (g : Grammar ε α) : List (String × Switch ε α) :=
  g.switches.flatMap fun switch => switch.names.map fun name => (name, switch)

/-- The switch of a name. -/
def Grammar.find? (g : Grammar ε α) (name : String) : Option (Switch ε α) :=
  (g.names.find? (·.1 = name)).map (·.2)

/-- A message about a switch or a positional argument. -/
def about (title message : String) : Stop ε :=
  .usage s!"argument {title}: {message}"

/-! ## Telling switches from arguments -/

/-- How an argument is divided from the name of its switch: by `=`, or not at all. -/
structure Joined where
  byEquals : Bool
  argument : String

/-- A switch as it was written. -/
structure Written (ε α : Type) where
  switch : Switch ε α
  name : String
  joined : Option Joined

/-- One word of a command line. -/
inductive Token (ε α : Type) where
  | plain (word : String)
  /-- The word `--`. -/
  | dashes
  /-- A switch, or a word that looks like one and is not known. -/
  | switch (word : String) (written : Option (Written ε α))

/-- A word as it stands. -/
def Token.word : Token ε α → String
  | .plain word => word
  | .dashes => "--"
  | .switch word _ => word

/-- Whether the word is a switch. -/
def Token.isSwitch : Token ε α → Bool
  | .switch .. => true
  | _ => false

/-- What stands before and behind the first `=`. -/
def cutEquals (word : String) : String × Option String :=
  let cs := word.toList
  match cs.dropWhile (· ≠ '=') with
  | [] => (word, none)
  | _ :: rest => (String.ofList (cs.takeWhile (· ≠ '=')), some (String.ofList rest))

/-- Does text begin with other text? -/
def beginsWith (front text : String) : Bool :=
  front.toList.isPrefixOf text.toList

/-- The switches that a word may be short for. -/
def Grammar.candidates (g : Grammar ε α) (word : String) : List (Written ε α) :=
  if beginsWith "--" word then
    let (front, argument) := cutEquals word
    (g.names.filter fun entry => beginsWith front entry.1).map fun entry =>
      ⟨entry.2, entry.1, argument.map (Joined.mk true)⟩
  else
    let short := String.ofList (word.toList.take 2)
    g.names.filterMap fun entry =>
      if entry.1 = short then
        some ⟨entry.2, entry.1, some ⟨false, String.ofList (word.toList.drop 2)⟩⟩
      else if beginsWith word entry.1 then some ⟨entry.2, entry.1, none⟩
      else none

/-- Is it a negative number, in digits with at most one point? -/
def isNegativeNumber (word : String) : Bool :=
  match word.toList with
  | '-' :: rest =>
    let whole := rest.takeWhile fun c => (Text.digitValue? c).isSome
    let isDigits (cs : List Char) : Bool :=
      !cs.isEmpty && cs.all fun c => (Text.digitValue? c).isSome
    match rest.dropWhile fun c => (Text.digitValue? c).isSome with
    | [] => isDigits whole
    | '.' :: fraction => isDigits fraction
    | _ => false
  | _ => false

/-- What a word is, when no `--` stands in front of it. -/
def Grammar.classify (g : Grammar ε α) (word : String) : Except (Stop ε) (Token ε α) :=
  if !beginsWith "-" word then .ok (.plain word)
  else match g.find? word with
    | some switch => .ok (.switch word (some ⟨switch, word, none⟩))
    | none =>
      if word = "-" then .ok (.plain word)
      else
        let (front, argument) := cutEquals word
        match g.find? front, argument with
        | some switch, some argument =>
          .ok (.switch word (some ⟨switch, front, some ⟨true, argument⟩⟩))
        | _, _ =>
          match g.candidates word with
          | [written] => .ok (.switch word (some written))
          | [] =>
            if isNegativeNumber word || word.toList.contains ' ' then .ok (.plain word)
            else .ok (.switch word none)
          | several =>
            let names := ", ".intercalate (several.map Written.name)
            .error (.usage s!"ambiguous option: {word} could match {names}")

/-- What the words of a command line are. -/
def Grammar.tokens (g : Grammar ε α) : List String → Except (Stop ε) (List (Token ε α))
  | [] => .ok []
  | word :: rest =>
    if word = "--" then .ok (.dashes :: rest.map .plain)
    else do
      let token ← g.classify word
      let more ← g.tokens rest
      return token :: more

/-! ## Reading -/

/-- What has been read. -/
structure Parsed (α : Type) where
  /-- The values of switches under their first names, last one first. -/
  values : List (String × α)
  /-- The positional arguments. -/
  positional : List String
  /-- Words that the grammar does not know. -/
  unknown : List String

/-- The last value of a switch. -/
def Parsed.value? (parsed : Parsed α) (name : String) : Option α :=
  (parsed.values.find? (·.1 = name)).map (·.2)

/-- Adds a value. -/
def Parsed.set (parsed : Parsed α) (switch : Switch ε α) (value : α) : Parsed α :=
  { parsed with values := (switch.names.headD "", value) :: parsed.values }

/-- Adds words that the grammar does not know. -/
def Parsed.addUnknown (parsed : Parsed α) (words : List String) : Parsed α :=
  { parsed with unknown := parsed.unknown ++ words }

/-- What a switch does with an argument, or without one. -/
def Switch.apply (switch : Switch ε α) (argument : Option String) (parsed : Parsed α) :
    Except (Stop ε) (Parsed α) :=
  match switch.action, argument with
  | .help, _ => .error .help
  | .flag value, _ => .ok (parsed.set switch value)
  | .argument read, some word =>
    match read word with
    | .ok value => .ok (parsed.set switch value)
    | .error (.refused message) => .error (about switch.title message)
    | .error (.fault cause) => .error (.fault cause)
  | .argument _, none => .error (about switch.title "expected one argument")

/-- The message about an argument that a switch does not take. -/
def ignored (switch : Switch ε α) (argument : String) : Stop ε :=
  about switch.title s!"ignored explicit argument {Text.quoted argument}"

/-- Takes joined short switches apart: switches without an argument, perhaps one with an argument at
the end, and perhaps letters that are no switches. -/
def Grammar.unjoin (g : Grammar ε α) :
    (fuel : Nat) → Switch ε α → (name : String) → Joined →
    Except (Stop ε) (List (Switch ε α × Option String) × Option (Switch ε α) × List String)
  | 0, switch, _, joined => .error (ignored switch joined.argument)
  | fuel + 1, switch, name, joined =>
    if switch.takesArgument then .ok ([(switch, some joined.argument)], none, [])
    else match joined.argument.toList with
      | [] => .error (ignored switch joined.argument)
      | c :: rest =>
        if beginsWith "--" name || joined.byEquals || c = '-' then
          .error (ignored switch joined.argument)
        else
          let next := String.ofList ['-', c]
          match g.find? next with
          | none => .ok ([(switch, none)], none, ["-" ++ joined.argument])
          | some switch' =>
            match rest with
            | [] => .ok ([(switch, none)], some switch', [])
            | '=' :: tail => do
              let (done, last, unknown) ←
                g.unjoin fuel switch' next ⟨true, String.ofList tail⟩
              return ((switch, none) :: done, last, unknown)
            | _ => do
              let (done, last, unknown) ←
                g.unjoin fuel switch' next ⟨false, String.ofList rest⟩
              return ((switch, none) :: done, last, unknown)

/-- Applies switches one after the other. -/
def applyAll : List (Switch ε α × Option String) → Parsed α → Except (Stop ε) (Parsed α)
  | [], parsed => .ok parsed
  | (switch, argument) :: rest, parsed => do applyAll rest (← switch.apply argument parsed)

/-- The argument behind a switch that stands alone, and what follows. -/
def followingArgument (switch : Switch ε α) (rest : List (Token ε α)) :
    Except (Stop ε) (Option String × List (Token ε α)) :=
  if !switch.takesArgument then .ok (none, rest)
  else match rest with
    | .plain word :: rest => .ok (some word, rest)
    | _ => .error (about switch.title "expected one argument")

/-- Reads the switch in front. -/
def Grammar.readSwitch (g : Grammar ε α) (written : Written ε α) (rest : List (Token ε α))
    (parsed : Parsed α) : Except (Stop ε) (Parsed α × List (Token ε α)) := do
  match written.joined with
  | none =>
    let (argument, rest) ← followingArgument written.switch rest
    return (← written.switch.apply argument parsed, rest)
  | some joined =>
    let (done, last, unknown) ←
      g.unjoin (joined.argument.length + 1) written.switch written.name joined
    match last with
    | none =>
      return ((← applyAll done (parsed.addUnknown unknown)), rest)
    | some switch =>
      let (argument, rest) ← followingArgument switch rest
      return ((← applyAll (done ++ [(switch, argument)]) parsed), rest)

/-- The positional argument in front, if it is still expected and there: what it consists of and
what follows. -/
def Positional.take? (positional : Positional) (tokens : List (Token ε α)) :
    Option (List String × List (Token ε α)) :=
  let isDashes (token : Token ε α) : Bool := match token with
    | .dashes => true
    | _ => false
  let marks := tokens.takeWhile isDashes
  match positional, tokens.dropWhile isDashes with
  | .one _, .plain word :: rest => some ([word], rest.dropWhile isDashes)
  | .all _, .plain word :: rest => some ((marks ++ .plain word :: rest).map Token.word, [])
  | _, _ => none

/-- Takes the positional argument in front, if it is still expected and there. -/
def takePositional (expected : Positional) (tokens : List (Token ε α)) (parsed : Parsed α) :
    Option (Parsed α × List (Token ε α)) :=
  if !parsed.positional.isEmpty then none
  else (expected.take? tokens).map fun (words, rest) =>
    ({ parsed with positional := words }, rest)

/-- Reads tokens one after the other. Words in front of a switch that are no positional argument are
unknown. -/
def Grammar.read (g : Grammar ε α) :
    (fuel : Nat) → List (Token ε α) → Parsed α → Except (Stop ε) (Parsed α)
  | 0, tokens, parsed => .ok (parsed.addUnknown (tokens.map Token.word))
  | fuel + 1, tokens, parsed =>
    if tokens.any Token.isSwitch then
      match tokens with
      | [] => .ok parsed
      | .switch word none :: rest => g.read fuel rest (parsed.addUnknown [word])
      | .switch _ (some written) :: rest =>
        match g.readSwitch written rest parsed with
        | .ok (parsed, rest) => g.read fuel rest parsed
        | .error stop => .error stop
      | token :: rest =>
        match takePositional g.positional (token :: rest) parsed with
        | some (parsed, rest) => g.read fuel rest parsed
        | none =>
          let words := (token :: rest).takeWhile fun t => !t.isSwitch
          g.read fuel (rest.dropWhile fun t => !t.isSwitch)
            (parsed.addUnknown (words.map Token.word))
    else
      let (parsed, rest) := (takePositional g.positional tokens parsed).getD (parsed, tokens)
      .ok (parsed.addUnknown (rest.map Token.word))

/-- What is required and was not given. -/
def Grammar.missing (g : Grammar ε α) (parsed : Parsed α) : List String :=
  let switches := g.switches.filter fun switch =>
    switch.required && (parsed.value? (switch.names.headD "")).isNone
  let positional := match g.positional with
    | .nothing => []
    | .one name => if parsed.positional.isEmpty then [name] else []
    | .all name => if parsed.positional.isEmpty then [name] else []
  switches.map Switch.title ++ positional

/-- Reads the words of a command line. -/
def Grammar.parse (g : Grammar ε α) (words : List String) : Except (Stop ε) (Parsed α) := do
  let tokens ← g.tokens words
  let parsed ← g.read (tokens.length + 1) tokens ⟨[], [], []⟩
  match g.missing parsed with
  | [] => return parsed
  | names =>
    let listed := ", ".intercalate names
    throw (.usage s!"the following arguments are required: {listed}")

end

end Runesmith.Arguments
