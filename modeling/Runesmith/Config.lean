import Runesmith.Amount
import Runesmith.Config.Files
import Runesmith.Node
import Runesmith.Url
import Runesmith.Yaml

/-!
# Configuration

How to reach the node, and how to mint. Each setting is taken from the first place that has it: what
the caller overrides, the environment, the configuration file, a default. Variables of the node have
two spellings; an empty value under the first gives way to the second.
-/

namespace Runesmith.Config

/-! ## Errors -/

/-- What is wrong with a setting. -/
inductive Problem where
  | fileNotFound (path : String)
  | invalidYaml (path : String)
  | notAnObject (path : String)
  | sectionNotAMapping (name path : String)
  | invalidEndpoint (url : String)
  | invalidServerUrl (url : String)
  | invalidPort (source shown : String)
  | cookieUnreadable (path cause : String)
  | cookieMalformed (path : String)
  | noCredentials
  | invalidPostage (cause : Amount.Error)
deriving DecidableEq, Repr

/-- What is said about a problem. -/
def Problem.message : Problem → String
  | .fileNotFound path => s!"Config file not found: {path}"
  | .invalidYaml path => s!"Invalid YAML in config file {path}"
  | .notAnObject path =>
    s!"Expected {path} to contain a YAML object with 'rpc'/'mint' sections"
  | .sectionNotAMapping name path => s!"Expected '{name}' to be a mapping in {path}"
  | .invalidEndpoint url => s!"Invalid RPC endpoint URL: {url}"
  | .invalidServerUrl url => s!"Invalid ord server URL: {url}"
  | .invalidPort source shown => s!"Invalid port in {source}: {shown}"
  | .cookieUnreadable path cause => s!"Unable to read RPC cookie file {path}: {cause}"
  | .cookieMalformed path => s!"Malformed RPC cookie file {path}"
  | .noCredentials =>
    "RPC credentials must be provided via BITCOIN_RPC_* environment variables, a cookie file, " ++
    "or a config file"
  | .invalidPostage cause => s!"Invalid default postage: {cause.message}"

/-- Why there is no configuration. -/
inductive Error where
  | problem (cause : Problem)
  | url (cause : Url.Error)
  | mismatch (cause : Mismatch)
  /-- The product of the default postage and its denomination does not exist. -/
  | arithmetic (fault : Decimal.Fault)
  | isDirectory (path : String)
  /-- The home directory of another user is not known. -/
  | unknownHome
deriving DecidableEq, Repr

/-- The words of the system for a path that is a directory. -/
def directoryText (path : String) : String :=
  s!"[Errno 21] Is a directory: {Text.quoted path}"

/-- The words of the system for a path at which there is nothing. -/
def missingText (path : String) : String :=
  s!"[Errno 2] No such file or directory: {Text.quoted path}"

/-- What is said about an error. -/
def Error.message : Error → String
  | .problem cause => cause.message
  | .url cause => cause.message
  | .mismatch cause => cause.message
  | .arithmetic fault => (Amount.Error.arithmetic fault).message
  | .isDirectory path => directoryText path
  | .unknownHome => "Could not determine home directory."

/-- A failed setting. -/
def fail {α : Type} (problem : Problem) : Except Error α :=
  .error (.problem problem)

/-! ## Files -/

/-- Paths given by the caller. Without any, the file in the home directory is read if it exists. -/
structure Paths where
  /-- The path for this configuration only. -/
  given : Option String
  /-- The path for all configurations; an empty one counts as none. -/
  standing : Option String
deriving Repr

/-- The name of the default file in the home directory. -/
def defaultFile : String := ".runemint.yaml"

/-- The path with its home directory filled in. -/
def expand (s : Surroundings) (path : String) : Except Error String :=
  match FilePath.expand? s.home path with
  | some path => .ok path
  | none => .error .unknownHome

/-- The path for all configurations, if there is one. -/
def standingPath (s : Surroundings) (standing : Option String) : Except Error (Option String) :=
  match standing.filter (!·.isEmpty) with
  | some path => (expand s path).map some
  | none => .ok none

/-- The path of the file and whether it has to be there. -/
def resolve (s : Surroundings) (paths : Paths) : Except Error (String × Bool) := do
  let standing ← standingPath s paths.standing
  match paths.given, standing with
  | some path, _ => return (← expand s path, true)
  | none, some path => return (path, true)
  | none, none => return (FilePath.normalize (s.home ++ "/" ++ defaultFile), false)

/-- The members of a document that stands for a file; an empty document has none. -/
def fileMembers (path : String) (document : Json) : Except Error (List (String × Json)) :=
  if !document.isTruthy then .ok []
  else match document with
    | .obj members => .ok members
    | _ => fail (.notAnObject path)

/-- The members of the file at a path. -/
def load (s : Surroundings) (path : String) (required : Bool) :
    Except Error (List (String × Json)) :=
  match s.read path with
  | .missing => if required then fail (.fileNotFound path) else .ok []
  | .directory => .error (.isDirectory path)
  | .document value => fileMembers path value
  | .text contents =>
    match Yaml.parse? contents with
    | some value => fileMembers path value
    | none => fail (.invalidYaml path)

/-- The members of a section of a file. -/
def sectionOf (file : List (String × Json)) (name path : String) :
    Except Error (List (String × Json)) :=
  let value := (Json.find? file name).getD .null
  if !value.isTruthy then .ok []
  else match value with
    | .obj members => .ok members
    | _ => fail (.sectionNotAMapping name path)

/-! ## Settings -/

/-- The first value that is not null. -/
def first : List Json → Json
  | [] => .null
  | .null :: rest => first rest
  | value :: _ => value

/-- The first value that is there. -/
def firstSome {α : Type} : List (Option α) → Option α
  | [] => none
  | some x :: _ => some x
  | none :: rest => firstSome rest

/-- A member, or null. -/
def setting (members : List (String × Json)) (key : String) : Json :=
  (Json.find? members key).getD .null

/-- A variable of the environment as a setting. -/
def ofVar (value : Option String) : Json :=
  match value with
  | some text => .str text
  | none => .null

/-- A variable of the node under the first of its two spellings that is not empty. -/
def nodeVar (s : Surroundings) (suffix : String) : Json :=
  match s.var? ("BITCOIN_RPC_" ++ suffix) with
  | some text => if text.isEmpty then second else .str text
  | none => second
where
  /-- The variable under its second spelling. -/
  second : Json := ofVar (s.var? ("RUNEMINT_RPC_" ++ suffix))

/-- The truth value that a setting spells out, if it does. -/
def truth? : Json → Option Bool
  | .bool b => some b
  | .str text =>
    let word := Text.lower (Text.trim text)
    if ["1", "true", "yes", "y", "on"].contains word then some true
    else if ["0", "false", "no", "n", "off"].contains word then some false
    else none
  | _ => none

/-- The port in a setting, if it is not null. -/
def port? (source : String) (raw : Json) : Except Error (Option Int) :=
  if raw.isNull then .ok none
  else match raw.toInteger with
    | .ok port => .ok (some port)
    | .error .tooLarge => .error (.mismatch .tooLarge)
    | .error _ => fail (.invalidPort source raw.display)

/-- Takes a URL apart. Any other value than text is refused, unless it is empty: then it counts as
empty text. -/
def urlOf (raw : Json) : Except Error Url :=
  match raw with
  | .str text => (Url.parse text).mapError .url
  | .rough text => (Url.parse text.escaped).mapError .url
  | _ => if raw.isTruthy then .error (.mismatch .notAnObject) else (Url.parse "").mapError .url

/-- What an endpoint says: host, port, and whether to use encryption. -/
structure Endpoint where
  host : Option String
  port : Option Nat
  useHttps : Option Bool
deriving DecidableEq, Repr

/-- Reads an endpoint; an empty setting says nothing. -/
def endpoint (raw : Json) : Except Error Endpoint := do
  if !raw.isTruthy then return ⟨none, none, none⟩
  let url ← urlOf raw
  if url.scheme.isEmpty && url.host?.isNone then fail (.invalidEndpoint raw.display)
  let port ← (url.port?).mapError .url
  return ⟨url.host?, port, if url.scheme.isEmpty then none else some (url.scheme == "https")⟩

/-- User and password in a cookie file, divided by a colon. -/
def splitCookie (path contents : String) : Except Error (Json × Json) :=
  let cs := (Text.trim (String.ofList (Text.normalizeLineEnds contents.toList))).toList
  match Url.cut ':' cs with
  | (user, some password) => .ok (.str (String.ofList user), .str (String.ofList password))
  | (_, none) => fail (.cookieMalformed path)

/-- User and password from the cookie file that a setting names; an empty setting names none. -/
def cookie (s : Surroundings) (raw : Json) : Except Error (Json × Json) := do
  if !raw.isTruthy then return (.null, .null)
  let .str path := raw | throw (.mismatch .wrongKind)
  let path ← expand s path
  match s.read path with
  | .missing => fail (.cookieUnreadable path (missingText path))
  | .directory => fail (.cookieUnreadable path (directoryText path))
  | .text contents => splitCookie path contents
  | .document _ => fail (.cookieMalformed path)

end Config

/-! ## The node -/

/-- How to reach the node. User, password, host and wallet are whatever the settings hold. -/
structure RpcConfig where
  user : Json
  password : Json
  host : Json
  port : Json
  useHttps : Bool
  wallet : Json

namespace RpcConfig

/-- The host of a node that no setting names. -/
def defaultHost : Json := .str "127.0.0.1"

/-- The port of a node that no setting names. -/
def defaultPort : Int := 8332

/-- The address of the node. -/
def baseUrl (config : RpcConfig) : String :=
  let scheme := if config.useHttps then "https" else "http"
  s!"{scheme}://{config.host.display}:{config.port.display}"

/-- The node at that address. -/
def node (config : RpcConfig) : Node :=
  ⟨config.baseUrl, config.user, config.password, config.wallet⟩

end RpcConfig

namespace Config

/-- A setting of the node: overridden, in the environment, or in the file. -/
def nodeSetting (s : Surroundings) (overrides file : List (String × Json)) (key suffix : String) :
    Json :=
  first [setting overrides key, nodeVar s suffix, setting file key]

/-- The setting that names the cookie file. -/
def cookieSetting (s : Surroundings) (overrides file : List (String × Json)) : Json :=
  nodeSetting s overrides file "cookie_file" "COOKIE_FILE"

/-- User and password: from the settings, or else from a cookie file. Both have to be there. -/
def credentials (s : Surroundings) (overrides file : List (String × Json)) :
    Except Error (Json × Json) := do
  let isWhole (user password : Json) : Bool := user.isTruthy && password.isTruthy
  let user := nodeSetting s overrides file "user" "USER"
  let password := nodeSetting s overrides file "password" "PASSWORD"
  if isWhole user password then return (user, password)
  let (user, password) ← cookie s (cookieSetting s overrides file)
  if isWhole user password then return (user, password)
  fail .noCredentials

/-- How to reach the node. -/
def rpc (s : Surroundings) (paths : Paths) (overrides : List (String × Json)) :
    Except Error RpcConfig := do
  let (path, required) ← resolve s paths
  let file ← sectionOf (← load s path required) "rpc" path
  let endpoint ← endpoint (nodeSetting s overrides file "endpoint" "ENDPOINT")
  let (user, password) ← credentials s overrides file
  let endpointHost : Json := match endpoint.host with
    | some host => .str host
    | none => .null
  let host := first [setting overrides "host", endpointHost, nodeVar s "HOST",
    setting file "host", RpcConfig.defaultHost]
  let port₁ ← port? "overrides" (setting overrides "port")
  let port₂ : Option Int := endpoint.port.map Int.ofNat
  let port₃ ← port? "environment" (nodeVar s "PORT")
  let port₄ ← port? s!"{path} rpc.port" (setting file "port")
  let port := (firstSome [port₁, port₂, port₃, port₄]).getD RpcConfig.defaultPort
  let useHttps := (firstSome [truth? (setting overrides "use_https"), endpoint.useHttps,
    truth? (nodeVar s "USE_HTTPS"), truth? (setting file "use_https")]).getD false
  let wallet := nodeSetting s overrides file "wallet" "WALLET"
  return ⟨user, password, host, .int port, useHttps, wallet⟩

end Config

/-! ## Minting -/

/-- What a mint works with: a wallet, an index server, whether to wait for the index, and the
postage of requests that name none. -/
structure MintContext where
  wallet : Json
  noSync : Bool
  serverUrl : String
  targetPostage : Postage

namespace MintContext

/-- The wallet that no setting names. -/
def defaultWallet : Json := .str "ord"

/-- The index server that no setting names. -/
def defaultServerUrl : Json := .str "http://127.0.0.1:80"

/-- The postage that no setting names. -/
def defaultPostage : Postage := .sats 10000

end MintContext

namespace Config

/-- The postage in a setting: whole sats, or an amount with its denomination. -/
def postage (raw : Json) : Except Error Postage :=
  match raw with
  | .null => .ok MintContext.defaultPostage
  | .int sats => .ok (.sats sats)
  | .bool b => .ok (.flag b)
  | _ =>
    match Amount.parse raw.display with
    | .ok sats => .ok (.sats sats)
    | .error (.arithmetic fault) => .error (.arithmetic fault)
    | .error cause => fail (.invalidPostage cause)

/-- What a mint works with. -/
def mint (s : Surroundings) (paths : Paths) (overrides : List (String × Json)) :
    Except Error MintContext := do
  let (path, required) ← resolve s paths
  let file ← sectionOf (← load s path required) "mint" path
  let wallet := first [setting overrides "wallet", ofVar (s.var? "RUNEMINT_WALLET"),
    setting file "wallet", MintContext.defaultWallet]
  let serverUrl := first [setting overrides "server_url", ofVar (s.var? "RUNEMINT_SERVER_URL"),
    setting file "server_url", MintContext.defaultServerUrl]
  let url ← urlOf serverUrl
  if (url.scheme ≠ "http" ∧ url.scheme ≠ "https") ∨ url.host?.isNone then
    fail (.invalidServerUrl serverUrl.display)
  let noSync := (firstSome [truth? (setting overrides "no_sync"),
    truth? (ofVar (s.var? "RUNEMINT_NO_SYNC")), truth? (setting file "no_sync")]).getD false
  let postage ← postage <|
    first [setting overrides "postage", ofVar (s.var? "RUNEMINT_POSTAGE"), setting file "postage"]
  return ⟨.str wallet.display, noSync, Text.trimEnd (· = '/') serverUrl.display, postage⟩

/-! ## What is read -/

/-- The variables of the environment that settings are taken from. -/
def variableNames : List String :=
  (["ENDPOINT", "HOST", "PORT", "USER", "PASSWORD", "COOKIE_FILE", "USE_HTTPS", "WALLET"].flatMap
    fun suffix => ["BITCOIN_RPC_" ++ suffix, "RUNEMINT_RPC_" ++ suffix]) ++
  ["RUNEMINT_WALLET", "RUNEMINT_SERVER_URL", "RUNEMINT_NO_SYNC", "RUNEMINT_POSTAGE"]

/-- The cookie file that the settings name, if they name one. -/
def cookieFile (s : Surroundings) (paths : Paths) (overrides : List (String × Json)) :
    Except Error String := do
  let (path, required) ← resolve s paths
  let file ← sectionOf (← load s path required) "rpc" path
  let .str cookie := cookieSetting s overrides file | throw (.mismatch .wrongKind)
  expand s cookie

/-- The files that settings are taken from, as far as what has been read of them tells: the
configuration file, and the cookie file that it may name. -/
def files (s : Surroundings) (paths : Paths) (overrides : List (String × Json)) : List String :=
  ((resolve s paths).map (·.1)).toOption.toList ++ (cookieFile s paths overrides).toOption.toList

end Config

end Runesmith
