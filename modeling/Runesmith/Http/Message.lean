import Runesmith.Http
import Runesmith.Json.Printer
import Runesmith.Text.Base64
import Runesmith.Text.Blank
import Runesmith.Url

/-!
# Messages

What is sent and received over a connection that carries one request. The other side is asked to
close the connection behind its reply, so a reply ends where the connection does; when it says how
long its body is, a shorter body is no reply.
-/

namespace Runesmith.Http

/-! ## Text and bytes -/

/-- Text as bytes. -/
def bytesOf (text : String) : Bytes :=
  text.toUTF8.toList

/-- Every byte as the character of its number. -/
def latinText (bytes : Bytes) : String :=
  String.ofList (bytes.map fun b => Char.ofNat b.toNat)

/-- Bytes as text; bytes that encode no text are characters of their own. -/
def textOf (bytes : Bytes) : String :=
  (String.fromUTF8? (ByteArray.mk bytes.toArray)).getD (latinText bytes)

/-- Every character as one byte, or the usual encoding if some character does not fit. -/
def latinBytes (text : String) : Bytes :=
  if text.toList.all (·.toNat < 256) then text.toList.map fun c => UInt8.ofNat c.toNat
  else bytesOf text

/-! ## Where to connect -/

/-- The place a request is sent to and what it asks for there. -/
structure Target where
  host : String
  port : Nat
  /-- Has the connection to be encrypted? -/
  encrypted : Bool
  /-- The path and the query, with every byte escaped that cannot stand in a request. -/
  resource : String
deriving DecidableEq, Repr

namespace Target

/-- May a byte stand in a request as it is? -/
def isPlain (b : UInt8) : Bool :=
  (Char.ofNat b.toNat).isAlphanum || (bytesOf "-._~!#$%&'()*+,/:;=?@[]").contains b

/-- A byte in a request. -/
def escape (b : UInt8) : List Char :=
  if isPlain b then [Char.ofNat b.toNat]
  else '%' :: (Bytes.hexDigits [b]).map Char.toUpper

/-- The path and the query of a request; an empty path is the root. -/
def resourceOf (text : String) : String :=
  let escaped := (bytesOf text).flatMap escape
  String.ofList (if escaped.head? = some '/' then escaped else '/' :: escaped)

/-- The port that a scheme stands for. -/
def defaultPort (encrypted : Bool) : Nat :=
  if encrypted then 443 else 80

/-- The target of a URL, if the URL says where to connect. -/
def ofUrl? (text : String) : Option Target := do
  let url ← (Url.parse text).toOption
  let encrypted ← match url.scheme with
    | "http" => some false
    | "https" => some true
    | _ => none
  let host ← url.host?
  let port ← url.port?.toOption
  return ⟨host, port.getD (defaultPort encrypted), encrypted, resourceOf url.resource⟩

/-- The host as the other side is told; an address of version six stands between brackets. -/
def hostLine (target : Target) : String :=
  let host := if target.host.toList.contains ':' then s!"[{target.host}]" else target.host
  if target.port = defaultPort target.encrypted then host else s!"{host}:{target.port}"

end Target

/-! ## Requests -/

/-- A request, ready to be sent. -/
structure Request where
  method : String
  target : Target
  /-- Names and values. -/
  headers : List (String × String)
  body : Bytes
  /-- In seconds. -/
  timeout : Nat

namespace Request

/-- A line of a message with its end. -/
def line (text : String) : String :=
  text ++ "\r\n"

/-- The lines in front of the body. -/
def head (request : Request) : String :=
  let headers := ("Host", request.target.hostLine) :: ("Connection", "close") :: request.headers
  String.join <|
    line s!"{request.method} {request.target.resource} HTTP/1.0" ::
      headers.map (fun header => line s!"{header.1}: {header.2}") ++ [line ""]

/-- Everything that is sent. -/
def bytes (request : Request) : Bytes :=
  bytesOf request.head ++ request.body

/-- The request of a query. -/
def ofQuery? (query : Query) : Option Request := do
  let target ← Target.ofUrl? query.url
  return ⟨"GET", target, [("Accept", query.accept)], [], query.timeout⟩

/-- The header that names the caller. -/
def authorization (user password : Json) : String × String :=
  let digits := Text.base64 (latinBytes s!"{user.display}:{password.display}")
  ("Authorization", s!"Basic {String.ofList digits}")

/-- The request of a call under an identifier. -/
def ofCall? (call : Call) (id : String) : Option Request := do
  let target ← Target.ofUrl? call.url
  let body := bytesOf ((call.body id).render .line)
  return ⟨"POST", target, [authorization call.user call.password,
    ("Content-Type", "application/json"), ("Content-Length", toString body.length)],
    body, call.timeout⟩

end Request

/-! ## Replies -/

namespace Response

/-- The lines in front of the body and the body, if there is an empty line between them. -/
def splitHead? : Bytes → Option (Bytes × Bytes)
  | [] => none
  | 13 :: 10 :: 13 :: 10 :: body => some ([], body)
  | b :: rest => (splitHead? rest).map fun (head, body) => (b :: head, body)

theorem splitHead?_append {bytes head body : Bytes} (h : splitHead? bytes = some (head, body)) :
    head ++ [13, 10, 13, 10] ++ body = bytes := by
  fun_induction splitHead? bytes generalizing head with
  | case1 => simp at h
  | case2 => simp_all
  | case3 b rest _ ih =>
    obtain ⟨⟨head', body'⟩, hrest, heq⟩ := Option.map_eq_some_iff.1 h
    simp only [Prod.mk.injEq] at heq
    obtain ⟨rfl, rfl⟩ := heq
    simpa using ih hrest

/-- The status in the first line. -/
def status? (line : List Char) : Option Nat := do
  let (version, rest) := Url.cut ' ' line
  guard ("HTTP/".toList.isPrefixOf version)
  let digits := (← rest).takeWhile Text.isAsciiDigit
  guard (digits.length = 3)
  return Numeral.ofDigits digits

/-- The length that the lines in front of a body announce. -/
def announced? (lines : List (List Char)) : Option Nat :=
  lines.findSome? fun line =>
    match Url.cut ':' line with
    | (name, some value) =>
      let value := Text.trimBy Text.isBlank value
      if Text.lower (String.ofList name) = "content-length" ∧ value ≠ [] ∧
          value.all Text.isAsciiDigit then
        some (Numeral.ofDigits value)
      else none
    | _ => none

/-- Reads all that came over a connection. -/
def ofBytes? (bytes : Bytes) : Option Response := do
  let (head, body) ← splitHead? bytes
  let lines := (Url.splitAll '\n' (latinText head).toList).map fun line => line.filter (· ≠ '\r')
  let status ← status? (lines.headD [])
  let body ← match announced? lines with
    | some length => (Bytes.split? length body).map (·.1)
    | none => some body
  return ⟨status, textOf body⟩

end Response

end Runesmith.Http
