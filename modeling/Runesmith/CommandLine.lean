import Runesmith.CommandLine.Arguments
import Runesmith.Json.Printer
import Runesmith.Mint.Check
import Runesmith.Mint.Connect
import Runesmith.Runestone.Document

/-!
# Commands

Four commands: mint a rune, prepare a mint without signing it, check whether a rune can be minted,
and decode the runestone of a transaction. Results are documents on standard output. A failure that
a user can do something about is reported on standard error; any other aborts.
-/

namespace Runesmith.CommandLine

/-! ## Arguments -/

/-- The value of a switch. -/
inductive Value where
  | set
  | text (s : String)
  | feeRate (rate : FeeRate)
  | rune (rune : SpacedRune)
  | sats (n : Nat)
  | port (n : Int)

/-- Why an argument cannot be read. Amounts that cannot be multiplied abort. -/
abbrev Unreadable := Arguments.Unreadable Decimal.Fault

/-- Reads any text. -/
def readText (word : String) : Except Unreadable Value :=
  .ok (.text word)

/-- Reads a fee rate. -/
def readFeeRate (word : String) : Except Unreadable Value :=
  match FeeRate.parse (.str word) with
  | .ok rate => .ok (.feeRate rate)
  | .error e => .error (.refused e.message)

/-- Reads the name of a rune. -/
def readRune (word : String) : Except Unreadable Value :=
  match SpacedRune.ofText word with
  | .ok name => .ok (.rune name)
  | .error e => .error (.refused e.message)

/-- Reads an amount with its denomination. -/
def readPostage (word : String) : Except Unreadable Value :=
  match Amount.parse word with
  | .ok sats => .ok (.sats sats)
  | .error (.arithmetic fault) => .error (.fault fault)
  | .error e => .error (.refused e.message)

/-- Reads a port. -/
def readPort (word : String) : Except Unreadable Value :=
  match Numeral.integer? word with
  | some n => .ok (.port n)
  | none => .error (.refused s!"invalid int value: {Text.quoted word}")

/-- A switch with an argument. -/
def argument (name : String) (required : Bool) (read : String → Except Unreadable Value) :
    Arguments.Switch Decimal.Fault Value :=
  ⟨[name], .argument read, required⟩

/-- The switch that asks for help. -/
def helpSwitch : Arguments.Switch Decimal.Fault Value :=
  ⟨["-h", "--help"], .help, false⟩

/-- The switches about the node and the index. -/
def connectionSwitches : List (Arguments.Switch Decimal.Fault Value) :=
  [argument "--wallet" false readText,
   argument "--server-url" false readText,
   ⟨["--no-sync"], .flag .set, false⟩,
   argument "--rpc-url" false readText,
   argument "--rpc-host" false readText,
   argument "--rpc-port" false readPort,
   argument "--rpc-user" false readText,
   argument "--rpc-password" false readText,
   argument "--rpc-cookie-file" false readText]

/-- What the commands that mint are told. -/
def mintGrammar : Arguments.Grammar Decimal.Fault Value :=
  ⟨[helpSwitch,
    argument "--fee-rate" true readFeeRate,
    argument "--rune" true readRune,
    argument "--postage" false readPostage,
    argument "--destination" false readText] ++ connectionSwitches, .nothing⟩

/-- What the command that checks a rune is told. -/
def checkGrammar : Arguments.Grammar Decimal.Fault Value :=
  ⟨[helpSwitch, argument "--rune" true readRune] ++ connectionSwitches, .nothing⟩

/-- What the command that decodes a transaction is told. -/
def decodeGrammar : Arguments.Grammar Decimal.Fault Value :=
  ⟨[helpSwitch], .one "raw_tx"⟩

/-- What stands in front of a command. -/
def mainGrammar : Arguments.Grammar Decimal.Fault Value :=
  ⟨[helpSwitch, argument "--config" false readText, ⟨["-v", "--verbose"], .flag .set, false⟩],
    .all "command"⟩

/-- The commands by their names. -/
def grammars : List (String × Arguments.Grammar Decimal.Fault Value) :=
  [("mint", mintGrammar), ("prepare", mintGrammar), ("check", checkGrammar),
    ("decode", decodeGrammar)]

/-! ## Invocations -/

/-- What is overridden about the node and the index. -/
structure Connection where
  rpc : List (String × Json)
  mint : List (String × Json)

/-- What is to be done. -/
inductive Command where
  | mint (request : MintRequest) (connection : Connection)
  | prepare (request : MintRequest) (connection : Connection)
  | check (rune : SpacedRune) (connection : Connection)
  | decode (rawTx : String)

/-- A command and the configuration file it uses. -/
structure Invocation where
  config : Option String
  command : Command

/-- A command line that cannot be followed. -/
abbrev Stop := Arguments.Stop Decimal.Fault

/-- The values of a command. -/
abbrev Values := Arguments.Parsed Value

/-- The text of a switch. -/
def textOf (values : Values) (name : String) : Option String :=
  match values.value? name with
  | some (.text s) => some s
  | _ => none

/-- The text of a switch as a setting. -/
def textSetting (values : Values) (name : String) : Json :=
  .ofText? (textOf values name)

/-- The port of a switch as a setting. -/
def portSetting (values : Values) (name : String) : Json :=
  match values.value? name with
  | some (.port n) => .int n
  | _ => .null

/-- A switch without argument as a setting; without the switch nothing is said. -/
def flagSetting (values : Values) (name : String) : Json :=
  match values.value? name with
  | some _ => .bool true
  | none => .null

/-- What the switches override. -/
def connectionOf (values : Values) : Connection where
  rpc := [("endpoint", textSetting values "--rpc-url"), ("host", textSetting values "--rpc-host"),
    ("port", portSetting values "--rpc-port"), ("user", textSetting values "--rpc-user"),
    ("password", textSetting values "--rpc-password"),
    ("cookie_file", textSetting values "--rpc-cookie-file")]
  mint := [("wallet", textSetting values "--wallet"),
    ("server_url", textSetting values "--server-url"),
    ("no_sync", flagSetting values "--no-sync")]

/-- The rune of a switch. -/
def runeOf (values : Values) : Option SpacedRune :=
  match values.value? "--rune" with
  | some (.rune name) => some name
  | _ => none

/-- The fee rate of a switch. -/
def feeRateOf (values : Values) : Option FeeRate :=
  match values.value? "--fee-rate" with
  | some (.feeRate rate) => some rate
  | _ => none

/-- The postage of a switch. -/
def postageOf (values : Values) : Option Nat :=
  match values.value? "--postage" with
  | some (.sats n) => some n
  | _ => none

/-- The request of the switches. -/
def requestOf (values : Values) : Option MintRequest := do
  let feeRate ← feeRateOf values
  let rune ← runeOf values
  return ⟨feeRate, rune, postageOf values, textOf values "--destination"⟩

/-- The command of a name and its values. -/
def commandOf (name : String) (values : Values) : Option Command :=
  match name with
  | "mint" => (requestOf values).map fun request => .mint request (connectionOf values)
  | "prepare" => (requestOf values).map fun request => .prepare request (connectionOf values)
  | "check" => (runeOf values).map fun rune => .check rune (connectionOf values)
  | "decode" => values.positional.head?.map .decode
  | _ => none

/-- The message about a command that there is not. -/
def invalidChoice (name : String) : Stop :=
  let choices := ", ".intercalate (grammars.map fun entry => Text.quoted entry.1)
  Arguments.about "command" s!"invalid choice: {Text.quoted name} (choose from {choices})"

/-- Reads the words of a command line. -/
def parse (words : List String) : Except Stop Invocation := do
  let main ← mainGrammar.parse words
  let name := main.positional.headD ""
  let some (_, grammar) := grammars.find? (·.1 = name) | throw (invalidChoice name)
  let values ← grammar.parse (main.positional.drop 1)
  match main.unknown ++ values.unknown, commandOf name values with
  | [], some command => return ⟨textOf main "--config", command⟩
  | [], none => throw (.usage s!"the command {name} cannot be read")
  | unknown, _ =>
    let listed := " ".intercalate unknown
    throw (.usage s!"unrecognized arguments: {listed}")

/-! ## Failures -/

/-- Why a command failed. -/
inductive Trouble where
  | config (cause : Config.Error)
  | failure (cause : Failure)
  | stopped (cause : Stopped)
  | decode (cause : Transaction.DecodeError)

/-- What is said about a failed command. -/
def Trouble.message : Trouble → String
  | .config cause => cause.message
  | .failure cause => cause.message
  | .stopped cause => cause.cause.message
  | .decode cause => cause.message

/-- Is it something that a user can do something about? -/
def isReportedFailure : Failure → Bool
  | .mismatch cause => cause.isBadValue
  | .transaction .fieldWidth => false
  | .feeRateTooLarge => false
  | .encodingMismatch .. => false
  | _ => true

/-- Is it a setting that a user can change? -/
def isReportedConfig : Config.Error → Bool
  | .problem _ => true
  | .url _ => true
  | _ => false

/-- Is the failure reported? -/
def Trouble.isReported : Trouble → Bool
  | .config cause => isReportedConfig cause
  | .failure cause => isReportedFailure cause
  | .stopped cause => isReportedFailure cause.cause
  | .decode _ => true

/-! ## Running -/

section

variable {m : Type → Type} [Monad m] (http : Http.Transport m)

/-- A command that may fail. -/
abbrev Run (m : Type → Type) (α : Type) := ExceptT Trouble m α

/-- The settings of a command. -/
def settings (s : Surroundings) (config : Option String) (connection : Connection) :
    Except Trouble (MintContext × RpcConfig) := do
  let paths : Config.Paths := ⟨none, config⟩
  let context ← (Config.mint s paths connection.mint).mapError .config
  let rpc ← (Config.rpc s paths connection.rpc).mapError .config
  return (context, rpc)

/-- What a command writes: a document in some layout. -/
structure Output where
  style : Json.Style
  value : Json

/-- The text of an output and the end of its last line, if it can be written. -/
def Output.text (output : Output) : Except Json.Unwritable String :=
  (output.value.write output.style).map (· ++ "\n")

/-- A document with a line for every item. -/
def document (value : Json) : Output :=
  ⟨.indented, value⟩

/-- Everything a mint works with. -/
def connect [MonadStateOf NetworkMemory m] (s : Surroundings) (config : Option String)
    (connection : Connection) : Run m (Mint m) := do
  let (context, rpc) ← ExceptT.mk (pure (settings s config connection))
  ExceptT.adapt Trouble.failure (Mint.awaitIndex http context rpc)
  return Mint.ofContext http context rpc

/-- What a transaction carries, with its id. -/
def decode (rawTx : String) : Except Trouble Json := do
  let tx ← (Transaction.ofHex (Text.trim rawTx)).mapError .decode
  let txid ← tx.txid.mapError fun cause => .failure (.transaction cause)
  let artifact := ((Runestone.decipher tx).map Artifact.toJson).getD .null
  return .obj [("txid", .str txid), ("runestone", artifact)]

/-- The transaction of a command: given as an argument, or on standard input. -/
def rawTxOf (word stdin : String) : String :=
  if word = "-" then stdin else word

/-- Runs a command and returns what it writes. -/
def runCommand [MonadStateOf NetworkMemory m] (s : Surroundings) (stdin : String)
    (invocation : Invocation) : Run m Output :=
  match invocation.command with
  | .mint request connection => do
    let mint ← connect http s invocation.config connection
    let result ← ExceptT.adapt Trouble.stopped (mint.run request)
    return document result.toJson
  | .prepare request connection => do
    let mint ← connect http s invocation.config connection
    let prepared ← ExceptT.adapt Trouble.stopped (mint.prepare request)
    let value ← ExceptT.mk <| pure <|
      prepared.toJson.mapError fun cause => .failure (.transaction cause)
    return document value
  | .check rune connection => do
    let (context, rpc) ← ExceptT.mk (pure (settings s invocation.config connection))
    ExceptT.adapt Trouble.failure do
      Mint.awaitIndex http context rpc
      let check ← Check.run (Mint.indexOf http context rpc) rune
      return document check.toJson
  | .decode word => do
    let value ← ExceptT.mk (pure (decode (rawTxOf word stdin)))
    return ⟨.compact, value⟩

/-- Runs a command. The path of the configuration file is judged first, even if no setting is
needed. -/
def run [MonadStateOf NetworkMemory m] (s : Surroundings) (stdin : String)
    (invocation : Invocation) : Run m Output := do
  let _ ← ExceptT.mk <| pure <|
    (Config.standingPath s invocation.config).mapError Trouble.config
  runCommand http s stdin invocation

end

/-- How a run ends. -/
inductive Outcome where
  /-- With a code and what was written on the two outputs. -/
  | exit (code : UInt8) (stdout stderr : String)
  /-- With a failure that is not reported. -/
  | abort (trouble : Trouble)
  /-- With an amount that cannot be multiplied. -/
  | abortArithmetic (fault : Decimal.Fault)

/-- How to use the commands. -/
def usage : String :=
  "usage: [-h] [--config CONFIG] [-v] \x7bmint,prepare,check,decode\x7d ...\n"

/-- The message of an error. -/
def errorLine (message : String) : String :=
  s!"error: {message}\n"

/-- The outcome of a command line that cannot be followed. -/
def Outcome.ofStop : Stop → Outcome
  | .usage message => .exit 2 "" (errorLine message)
  | .help => .exit 0 usage ""
  | .fault fault => .abortArithmetic fault

/-- The outcome of a command that comes to its end. An output that cannot be written is reported,
and then nothing of it is written. -/
def Outcome.ofOutput (output : Output) : Outcome :=
  match output.text with
  | .ok stdout => .exit 0 stdout ""
  | .error cause => .exit 1 "" (errorLine cause.message)

/-- The outcome of a command. -/
def Outcome.ofRun : Except Trouble Output → Outcome
  | .ok output => .ofOutput output
  | .error trouble =>
    if trouble.isReported then .exit 1 "" (errorLine trouble.message) else .abort trouble

/-- Follows a command line. -/
def execute {m : Type → Type} [Monad m] [MonadStateOf NetworkMemory m] (http : Http.Transport m)
    (s : Surroundings) (stdin : String) (words : List String) : m Outcome :=
  match parse words with
  | .error stop => pure (.ofStop stop)
  | .ok invocation => Outcome.ofRun <$> (run http s stdin invocation).run

end Runesmith.CommandLine
