import Runesmith.Address.Base58
import Runesmith.Address.Bech32
import Runesmith.Hash.Sha256
import Runesmith.Network
import Runesmith.Script
import Runesmith.Text.Case

/-!
# Addresses

An address is text for an output script on some networks. Text whose part before the last `1` is a
known prefix is a witness address in Bech32; all other text is read as Base58Check.
-/

namespace Runesmith

/-- A decoded address. -/
structure Address where
  text : String
  script : Bytes
  /-- The networks it belongs to, in the order of their names. -/
  networks : List Network
deriving DecidableEq, Repr

namespace Address

/-- Why text is no address. -/
inductive Error where
  | base58 (cause : Base58.Error)
  | payloadLength (length : Nat) (text : String)
  | unknownVersion (version : UInt8) (text : String)
  | mixedCase (text : String)
  | dataTooShort (text : String)
  | invalidSymbol (text : String)
  | checksum (text : String)
  | missingVersion (text : String)
  | invalidProgram (text : String)
  | invalidVersion (version : Nat) (text : String)
  | versionZeroNeedsBech32 (text : String)
  | versionZeroLength (text : String)
  | needsBech32m (version : Nat) (text : String)
deriving DecidableEq, Repr

/-- What is said about an error. -/
def Error.message : Error → String
  | .base58 cause => cause.message
  | .payloadLength length text => s!"unexpected Base58 payload length {length} for {text}"
  | .unknownVersion version text =>
    s!"unknown address version byte 0x{String.ofList (Text.paddedHex 2 version.toNat)} in {text}"
  | .mixedCase text => s!"mixed case in {text}"
  | .dataTooShort text => s!"bech32 data too short in {text}"
  | .invalidSymbol text => s!"invalid bech32 character in {text}"
  | .checksum text => s!"bech32 checksum mismatch in {text}"
  | .missingVersion text => s!"missing witness version in {text}"
  | .invalidProgram text => s!"invalid witness program in {text}"
  | .invalidVersion version text => s!"invalid witness version {version} in {text}"
  | .versionZeroNeedsBech32 text => s!"witness v0 address {text} must use bech32"
  | .versionZeroLength text => s!"invalid witness v0 program length in {text}"
  | .needsBech32m version text => s!"witness v{version} address {text} must use bech32m"

/-! ## Networks of an address -/

/-- The networks that share the older addresses for testing. -/
def testNetworks : List Network := [.regtest, .signet, .testnet]

/-- The networks of a human-readable part. -/
def prefixNetworks? : String → Option (List Network)
  | "bc" => some [.mainnet]
  | "tb" => some [.signet, .testnet]
  | "bcrt" => some [.regtest]
  | _ => none

/-! ## Base58 addresses -/

/-- Reads an address in Base58Check: a version byte and a hash of 20 bytes. The checksum is made
with `digest`. -/
def ofBase58 (digest : Bytes → Bytes) (text : String) : Except Error Address := do
  let payload ← (Base58.decodeCheck digest text).mapError .base58
  match payload with
  | version :: hash =>
    if hash.length ≠ 20 then throw (.payloadLength payload.length text)
    if version = 0x00 then return ⟨text, Script.payToPubkeyHash hash, [.mainnet]⟩
    if version = 0x6F then return ⟨text, Script.payToPubkeyHash hash, testNetworks⟩
    if version = 0x05 then return ⟨text, Script.payToScriptHash hash, [.mainnet]⟩
    if version = 0xC4 then return ⟨text, Script.payToScriptHash hash, testNetworks⟩
    throw (.unknownVersion version text)
  | [] => throw (.payloadLength 0 text)

/-! ## Witness addresses -/

/-- What stands before and behind the last `1`; without one, everything stands behind. -/
def splitLastOne (cs : List Char) : List Char × List Char :=
  let back := (cs.reverse.takeWhile (· ≠ '1')).reverse
  (cs.take (cs.length - back.length - 1), back)

/-- The version and the program of a witness address. -/
def witnessProgram (text : String) : Except Error (Nat × Bytes) := do
  if Text.isMixedCase text then throw (.mixedCase text)
  let (hrp, symbols) := splitLastOne (Text.lower text).toList
  if symbols.length < Bech32.checksumLength then throw (.dataTooShort text)
  let some values := symbols.mapM Bech32.symbolValue? | throw (.invalidSymbol text)
  let remainder := Bech32.polymod (Bech32.expand (String.ofList hrp) ++ values)
  if remainder ≠ Bech32.constant ∧ remainder ≠ Bech32.constantM then throw (.checksum text)
  match values.take (values.length - Bech32.checksumLength) with
  | [] => throw (.missingVersion text)
  | version :: groups =>
    let some program := Bech32.regroup 5 8 false groups | throw (.invalidProgram text)
    if program.length < 2 ∨ 40 < program.length then throw (.invalidProgram text)
    if 16 < version then throw (.invalidVersion version text)
    if version = 0 then
      if remainder ≠ Bech32.constant then throw (.versionZeroNeedsBech32 text)
      if program.length ≠ 20 ∧ program.length ≠ 32 then throw (.versionZeroLength text)
    else if remainder ≠ Bech32.constantM then throw (.needsBech32m version text)
    return (version, program.map UInt8.ofNat)

/-! ## Addresses -/

/-- Reads an address; the checksum of an older one is made with `digest`. -/
def ofTextWith (digest : Bytes → Bytes) (text : String) : Except Error Address := do
  let text := Text.trim text
  let hrp := Text.lower (String.ofList (splitLastOne text.toList).1)
  match prefixNetworks? hrp with
  | some networks =>
    let (version, program) ← witnessProgram text
    return ⟨text, Script.witness version program, networks⟩
  | none => ofBase58 digest text

/-- Reads an address; blanks may surround it. -/
def ofText (text : String) : Except Error Address :=
  ofTextWith Sha256.doubleDigest text

/-- An address was given for another network. -/
structure WrongNetwork where
  address : String
  network : Network
deriving DecidableEq, Repr

/-- What is said about an address for another network. -/
def WrongNetwork.message (e : WrongNetwork) : String :=
  s!"address {e.address} is not valid for {e.network.name}"

/-- The address itself, if it belongs to a network. -/
def requireNetwork (address : Address) (network : Network) : Except WrongNetwork Address :=
  if address.networks.contains network then .ok address
  else .error ⟨address.text, network⟩

end Address

end Runesmith
