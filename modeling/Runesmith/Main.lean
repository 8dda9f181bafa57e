import Runesmith.CommandLine.Sources
import Runesmith.Http.Message
import Std.Async.DNS
import Std.Async.TCP
import Std.Async.Timer

/-!
# The program

Reads the files, the variables and the input that a command line needs, follows it over real
connections, and writes what comes out. Connections are not encrypted: a server behind `https`
counts as one that cannot be reached.
-/

namespace Runesmith.Program

open Std.Async Std.Net

/-! ## The place it runs in -/

/-- What is found at a path. -/
def fileState (path : String) : IO FileState := do
  match ← (IO.FS.readBinFile path).toBaseIO with
  | .ok contents => return .text (Http.textOf contents.toList)
  | .error (.inappropriateType ..) => return .directory
  | .error _ => return .missing

/-- The variables that settings are taken from, as far as they are there. -/
def environment : IO (List (String × String)) :=
  Config.variableNames.filterMapM fun name => do
    return (← IO.getEnv name).map (name, ·)

/-- The same place with some files that have been read. -/
def withFiles (s : Surroundings) (paths : List String) : IO Surroundings := do
  let found ← paths.mapM fun path => return (path, ← fileState path)
  return { s with read := fun path => ((found.find? (·.1 = path)).map (·.2)).getD .missing }

/-- The place with all files that a command line needs. The second look finds those that a file of
the first one names. -/
def surroundings (words : List String) : IO Surroundings := do
  let bare : Surroundings := ⟨← environment, (← IO.getEnv "HOME").getD "/", fun _ => .missing⟩
  let first ← withFiles bare (CommandLine.filesOf bare words)
  withFiles first (CommandLine.filesOf first words)

/-- Everything on a stream. -/
def readAll (stream : IO.FS.Stream) : IO ByteArray := do
  let mut read := ByteArray.empty
  repeat
    let more ← stream.read 65536
    if more.isEmpty then break
    read := read ++ more
  return read

/-! ## Connections -/

/-- An address with a port. -/
def socketAddress (port : UInt16) : IPAddr → SocketAddress
  | .v4 address => .v4 ⟨address, port⟩
  | .v6 address => .v6 ⟨address, port⟩

/-- Everything that is received until the other side closes the connection. -/
def receive (socket : TCP.Socket.Client) : Async ByteArray := do
  let mut received := ByteArray.empty
  repeat
    let some more ← socket.recv? 65536 | break
    received := received ++ more
  return received

/-- Sends bytes to an address and returns what comes back. -/
def exchangeAt (address : SocketAddress) (bytes : ByteArray) : Async ByteArray := do
  let socket ← TCP.Socket.Client.mk
  socket.connect address
  socket.send bytes
  receive socket

/-- What comes back from the first address that answers. -/
def exchangeWith (bytes : ByteArray) : List SocketAddress → Async (Option ByteArray)
  | [] => return none
  | address :: rest => do
    try
      return some (← exchangeAt address bytes)
    catch _ => exchangeWith bytes rest

/-- Sends a request and returns all that comes back. -/
def exchange (request : Http.Request) : Async (Option ByteArray) := do
  let port := request.target.port
  let addresses ← DNS.getAddrInfo request.target.host (toString port)
  let places := (addresses.map (socketAddress (UInt16.ofNat port))).toList.eraseDups
  exchangeWith ⟨request.bytes.toArray⟩ places

/-- Nothing, after so many seconds. -/
def giveUp (seconds : Nat) : Async (Option ByteArray) := do
  Std.Async.sleep (Std.Time.Millisecond.Offset.ofNat (1000 * seconds))
  return none

/-- Sends a request and reads the reply, unless it takes too long. -/
def send (request : Option Http.Request) : IO (Option Http.Response) := do
  let some request := request | return none
  if request.target.encrypted then return none
  match ← (Async.race (exchange request) (giveUp request.timeout)).block.toBaseIO with
  | .ok (some received) => return Http.Response.ofBytes? received.toList
  | _ => return none

/-- An identifier that no other call has. -/
def freshId : IO String := do
  let parts ← (List.replicate 4 ()).mapM fun _ => IO.rand 0 0xFFFFFFFF
  return String.ofList (parts.flatMap (Text.paddedHex 8))

/-- The thousandths in a number of seconds. -/
def milliseconds (seconds : Binary64) : UInt32 :=
  UInt32.ofNat (((seconds.scale 1000).ceiling?).getD 0).toNat

/-- Requests over real connections. -/
def transport : Http.Transport IO where
  get query := send (Http.Request.ofQuery? query)
  post call := do send (Http.Request.ofCall? call (← freshId))
  sleep seconds := IO.sleep (milliseconds seconds)

/-! ## Running -/

/-- Writes the outcome of a command line and returns its code. -/
def finish : CommandLine.Outcome → IO UInt32
  | .exit code stdout stderr => do
    IO.print stdout
    IO.eprint stderr
    return code.toUInt32
  | .abort trouble => do
    IO.eprintln trouble.message
    return 1
  | .abortArithmetic fault => do
    IO.eprintln (Amount.Error.arithmetic fault).message
    return 1

/-- Follows a command line. -/
def run (words : List String) : IO UInt32 := do
  let s ← surroundings words
  let stdin ← if CommandLine.readsInput words then readAll (← IO.getStdin) else pure .empty
  let action : StateT NetworkMemory IO CommandLine.Outcome :=
    CommandLine.execute transport.lift s (Http.textOf stdin.toList) words
  finish (← action.run' none)

end Runesmith.Program

/-- Runs the program. -/
def main (words : List String) : IO UInt32 :=
  Runesmith.Program.run words
