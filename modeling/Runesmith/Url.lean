import Runesmith.Text.Case
import Runesmith.Text.Digit
import Runesmith.Text.Quoted

/-!
# URLs

Takes a URL apart into its scheme, its host, its port and what is asked for there. A host between
brackets has to be an address of version six; characters that turn into punctuation under
compatibility mapping are refused.
-/

namespace Runesmith

/-- The parts of a URL that say where to connect and what to ask for. -/
structure Url where
  scheme : String
  /-- Everything between the two slashes and the path. -/
  authority : String
  /-- The path and the query. -/
  resource : String
deriving DecidableEq, Repr

namespace Url

/-- Why text is no URL, or its port no port. -/
inductive Error where
  | unpairedBracket
  | invalidFutureAddress
  | versionFourInBrackets
  | notAnAddress (host : String)
  | disguisedPunctuation (authority : String)
  | portNotANumber (port : String)
  | portOutOfRange
deriving DecidableEq, Repr

/-- What is said about an error. -/
def Error.message : Error → String
  | .unpairedBracket => "Invalid IPv6 URL"
  | .invalidFutureAddress => "IPvFuture address is invalid"
  | .versionFourInBrackets => "An IPv4 address cannot be in brackets"
  | .notAnAddress host => s!"{Text.quoted host} does not appear to be an IPv4 or IPv6 address"
  | .disguisedPunctuation authority =>
    s!"netloc '{authority}' contains invalid characters under NFKC normalization"
  | .portNotANumber port => s!"Port could not be cast to integer value as {Text.quoted port}"
  | .portOutOfRange => "Port out of range 0-65535"

/-! ## Cutting text -/

/-- What stands before and behind the first of a character; none if it does not occur. -/
def cut (mark : Char) (cs : List Char) : List Char × Option (List Char) :=
  match cs.dropWhile (· ≠ mark) with
  | [] => (cs, none)
  | _ :: rest => (cs.takeWhile (· ≠ mark), some rest)

/-- The parts between the places where a character occurs. -/
def splitAll (mark : Char) (cs : List Char) : List (List Char) :=
  cs.foldr (fun c parts =>
    match parts with
    | [] => [[c]]
    | part :: rest => if c = mark then [] :: part :: rest else (c :: part) :: rest) [[]]

/-- What stands behind the last of a character, or everything. -/
def behindLast (mark : Char) (cs : List Char) : List Char :=
  (cs.reverse.takeWhile (· ≠ mark)).reverse

/-! ## Addresses of hosts -/

/-- A number from 0 to 255 without leading zeros. -/
def isOctet (cs : List Char) : Bool :=
  !cs.isEmpty && cs.all Text.isAsciiDigit && cs.length ≤ 3
    && (cs == ['0'] || cs.head? != some '0')
    && cs.foldl (fun n c => 10 * n + (c.toNat - 48)) 0 ≤ 255

/-- An address of version four: four octets between points. -/
def isVersionFour (cs : List Char) : Bool :=
  let parts := splitAll '.' cs
  parts.length == 4 && parts.all isOctet

/-- One to four hexadecimal digits. -/
def isHextet (cs : List Char) : Bool :=
  !cs.isEmpty && cs.length ≤ 4 && cs.all fun c => (Bytes.hexValue? c).isSome

/-- The parts of an address of version six; one of version four at the end counts as two parts. -/
def hextets? (cs : List Char) : Option (List (List Char)) :=
  let parts := splitAll ':' cs
  let last := parts.getLast?.getD []
  if parts.length < 3 then none
  else if last.contains '.' then
    if isVersionFour last then some (parts.dropLast ++ [['0'], ['0']]) else none
  else some parts

/-- The parts of an address of version six are eight, or fewer with one gap `::` for the others. -/
def areHextets (parts : List (List Char)) : Bool :=
  let n := parts.length
  let inner := (parts.drop 1).dropLast
  let gaps := (inner.filter List.isEmpty).length
  if 9 < n ∨ 1 < gaps then false
  else if gaps = 0 then n == 8 && parts.all isHextet
  else
    let high := 1 + (inner.takeWhile (!·.isEmpty)).length
    let low := n - high - 1
    let openFirst := (parts.headD []).isEmpty
    let openLast := (parts.getLast?.getD []).isEmpty
    let high' := if openFirst then high - 1 else high
    let low' := if openLast then low - 1 else low
    (!openFirst || high' == 0) && (!openLast || low' == 0) && high' + low' ≤ 7
      && (parts.take high').all isHextet && (parts.drop (n - low')).all isHextet

/-- An address of version six, perhaps with a zone behind a percent sign. -/
def isVersionSix (cs : List Char) : Bool :=
  let (address, zone) := cut '%' cs
  !cs.contains '/' && (zone.all fun z => !z.isEmpty && !z.contains '%')
    && (hextets? address).any areHextets

/-- An address of a later version: `v`, hexadecimal digits, a point, and anything. -/
def isFutureAddress (cs : List Char) : Bool :=
  match cs with
  | 'v' :: rest =>
    let (version, behind) := cut '.' rest
    !version.isEmpty && version.all (fun c => (Bytes.hexValue? c).isSome)
      && behind.any fun tail => !tail.isEmpty && !tail.contains '\n'
  | _ => false

/-- Judges a host between brackets. -/
def checkBracketed (host : List Char) : Except Error Unit :=
  if host.head? = some 'v' then
    if isFutureAddress host then .ok () else .error .invalidFutureAddress
  else if isVersionFour host then .error .versionFourInBrackets
  else if isVersionSix host then .ok ()
  else .error (.notAnAddress (String.ofList host))

/-! ## Punctuation in disguise -/

/-- Characters that stand for one of `/ ? # @ :` or contain one. -/
def disguises : List Nat :=
  [0x2047, 0x2048, 0x2049, 0x2100, 0x2101, 0x2105, 0x2106, 0x2A74, 0xFE13, 0xFE16, 0xFE55, 0xFE56,
   0xFE5F, 0xFE6B, 0xFF03, 0xFF0F, 0xFF1A, 0xFF1F, 0xFF20]

/-! ## Parsing -/

/-- May the character stand in a scheme? -/
def isSchemeChar (c : Char) : Bool :=
  c.isAlphanum || c = '+' || c = '-' || c = '.'

/-- The scheme in lower case and what follows its colon. -/
def splitScheme (cs : List Char) : String × List Char :=
  match cut ':' cs with
  | (c :: front, some rest) =>
    if c.isAlpha && (c :: front).all isSchemeChar then
      (String.ofList ((c :: front).map Char.toLower), rest)
    else ("", cs)
  | _ => ("", cs)

/-- Does a character end an authority? -/
def endsAuthority (c : Char) : Bool :=
  c = '/' || c = '?' || c = '#'

/-- The authority behind two slashes, and what follows it. -/
def splitAuthority (cs : List Char) : List Char × List Char :=
  match cs with
  | '/' :: '/' :: rest => rest.span fun c => !endsAuthority c
  | _ => ([], cs)

/-- Judges an authority. -/
def checkAuthority (cs : List Char) : Except Error Unit := do
  if cs.contains '[' != cs.contains ']' then throw .unpairedBracket
  match cut '[' cs with
  | (_, some behind) => checkBracketed (cut ']' behind).1
  | (_, none) => pure ()
  if cs.any fun c => disguises.contains c.toNat then
    throw (.disguisedPunctuation (String.ofList cs))

/-- Takes a URL apart. Blanks and controls in front are dropped, tabs and line ends anywhere. -/
def parse (text : String) : Except Error Url := do
  let cs := (text.toList.dropWhile fun c => c.toNat ≤ 32).filter fun c =>
    c ≠ '\t' ∧ c ≠ '\r' ∧ c ≠ '\n'
  let (scheme, rest) := splitScheme cs
  let (authority, rest) := splitAuthority rest
  checkAuthority authority
  return ⟨scheme, String.ofList authority, String.ofList (cut '#' rest).1⟩

/-- The host and the port, as they are written. -/
def hostAndPort (url : Url) : List Char × List Char :=
  let cs := behindLast '@' url.authority.toList
  match cut '[' cs with
  | (_, some bracketed) =>
    let (host, behind) := cut ']' bracketed
    (host, (cut ':' (behind.getD [])).2.getD [])
  | (_, none) =>
    let (host, port) := cut ':' cs
    (host, port.getD [])

/-- The host in lower case, but for a zone behind a percent sign. -/
def host? (url : Url) : Option String :=
  let (host, _) := url.hostAndPort
  if host.isEmpty then none
  else
    let (name, zone) := cut '%' host
    some (Text.lower (String.ofList name) ++ match zone with
      | some z => "%" ++ String.ofList z
      | none => "")

/-- The port, if there is one. -/
def port? (url : Url) : Except Error (Option Nat) :=
  let (_, port) := url.hostAndPort
  if port.isEmpty then .ok none
  else if port.all Text.isAsciiDigit then
    let n := port.foldl (fun n c => 10 * n + (c.toNat - 48)) 0
    if n ≤ 65535 then .ok (some n) else .error .portOutOfRange
  else .error (.portNotANumber (String.ofList port))

end Url

end Runesmith
