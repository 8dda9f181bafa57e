import Runesmith.Config
import Runesmith.Proofs.Results

/-!
# Layers of the configuration

How to reach the node is told in layers: what the caller overrides, the environment, the file. What
a higher layer sets should not depend on a lower one. The host, the port and the scheme do in one
way: the endpoint of a file goes before what the environment names.

* `Says` and `HasSection` name the endpoint that counts and the section of a file;
* `Resolves` says how the settings come about from the section of a file, and every configuration
  comes about so (`resolves_of_rpc`);
* `Kept` says what two files can make of one setting that is set above them;
* `rpc_of_two_files`: what is left of the layers when only the file is exchanged.
-/

namespace Runesmith.Config

/-! ## The first value -/

/-- The value of a setting, unless it is null. -/
def present : Json → Option Json
  | .null => none
  | value => some value

/-- Behind all settings stands the default. -/
theorem first_append_default (values : List Json) {default : Json} (h : default ≠ .null) :
    first (values ++ [default]) = (firstSome (values.map present)).getD default := by
  -- Nulls are passed over on both sides; the first value that is none ends the search.
  induction values with
  | nil => cases default <;> first | exact absurd rfl h | rfl
  | cons value rest ih =>
    cases value with
    | null => exact ih
    | _ => rfl

/-- A value is not null as soon as one above it is there, and then it is that one. -/
theorem first_of_upper {upper lower : List Json} (h : first upper ≠ .null) :
    first (upper ++ lower) = first upper := by
  induction upper with
  | nil => exact absurd rfl h
  | cons value rest ih =>
    cases value with
    | null => exact ih h
    | _ => rfl

/-! ## What the environment says -/

theorem nodeVar_congr {s t : Surroundings} (h : t.env = s.env) (suffix : String) :
    nodeVar t suffix = nodeVar s suffix := by
  unfold nodeVar nodeVar.second Surroundings.var?
  rw [h]

/-! ## How settings come about -/

/-- The file at a path has a section about the node. -/
def HasSection (s : Surroundings) (paths : Paths) (path : String) (file : List (String × Json)) :
    Prop :=
  ∃ required members, resolve s paths = .ok (path, required)
    ∧ load s path required = .ok members ∧ sectionOf members "rpc" path = .ok file

/-- The host of an endpoint as a setting. -/
def hostOf (said : Endpoint) : Json :=
  match said.host with
  | some host => .str host
  | none => .null

/-- How the settings come about from the section of a file and from what its endpoint, or one above
it, says. -/
structure Resolves (s : Surroundings) (overrides file : List (String × Json)) (path : String)
    (said : Endpoint) (config : RpcConfig) : Prop where
  endpoint : endpoint (nodeSetting s overrides file "endpoint" "ENDPOINT") = .ok said
  credentials : credentials s overrides file = .ok (config.user, config.password)
  host : config.host = first [setting overrides "host", hostOf said, nodeVar s "HOST",
    setting file "host", RpcConfig.defaultHost]
  port : ∃ overridden named own, port? "overrides" (setting overrides "port") = .ok overridden
    ∧ port? "environment" (nodeVar s "PORT") = .ok named
    ∧ port? s!"{path} rpc.port" (setting file "port") = .ok own
    ∧ config.port = .int ((firstSome [overridden, said.port.map Int.ofNat, named, own]).getD
      RpcConfig.defaultPort)
  useHttps : config.useHttps = (firstSome [truth? (setting overrides "use_https"), said.useHttps,
    truth? (nodeVar s "USE_HTTPS"), truth? (setting file "use_https")]).getD false
  wallet : config.wallet = nodeSetting s overrides file "wallet" "WALLET"

theorem resolves_of_rpc {s : Surroundings} {paths : Paths} {overrides : List (String × Json)}
    {config : RpcConfig} (h : rpc s paths overrides = .ok config) :
    ∃ path file said, HasSection s paths path file
      ∧ Resolves s overrides file path said config := by
  unfold rpc at h
  obtain ⟨⟨path, required⟩, hpath, h⟩ := exists_ok_of_bind h
  obtain ⟨members, hload, h⟩ := exists_ok_of_bind h
  obtain ⟨file, hfile, h⟩ := exists_ok_of_bind h
  obtain ⟨said, hsaid, h⟩ := exists_ok_of_bind h
  obtain ⟨⟨user, password⟩, hcredentials, h⟩ := exists_ok_of_bind h
  obtain ⟨overridden, hoverridden, h⟩ := exists_ok_of_bind h
  obtain ⟨named, hnamed, h⟩ := exists_ok_of_bind h
  obtain ⟨own, hown, h⟩ := exists_ok_of_bind h
  cases h
  exact ⟨path, file, said, ⟨required, members, hpath, hload, hfile⟩, {
    endpoint := hsaid
    credentials := hcredentials
    host := rfl
    port := ⟨overridden, named, own, hoverridden, hnamed, hown, rfl⟩
    useHttps := rfl
    wallet := rfl }⟩

/-! ## Files exchanged -/

section

variable {α : Type}

/-- What becomes of a setting that is set above the file when another file takes its place. What is
overridden stays. What the environment names stays as long as the endpoint says the same about it;
what the endpoint says comes before it. -/
structure Kept (overridden named own other : Option α) (x y : α) : Prop where
  of_overridden : overridden ≠ none → x = y
  of_named : named ≠ none → own = other → x = y
  exchanged : overridden = none → ∀ v, named = some v → x = own.getD v ∧ y = other.getD v

theorem kept_of_firstSome (overridden named own other lower lower' : Option α) (default : α) :
    Kept overridden named own other
      ((firstSome [overridden, own, named, lower]).getD default)
      ((firstSome [overridden, other, named, lower']).getD default) where
  of_overridden := by
    intro h
    obtain ⟨v, rfl⟩ := Option.ne_none_iff_exists'.1 h
    rfl
  of_named := by
    rintro h rfl
    obtain ⟨v, rfl⟩ := Option.ne_none_iff_exists'.1 h
    cases overridden <;> cases own <;> rfl
  exchanged := by
    rintro rfl v rfl
    exact ⟨by cases own <;> rfl, by cases other <;> rfl⟩

end

/-- What the endpoint says, be it one that is set above the file or the endpoint of the file. -/
def Says (s : Surroundings) (paths : Paths) (overrides : List (String × Json)) (said : Endpoint) :
    Prop :=
  ∃ path file, HasSection s paths path file
    ∧ endpoint (nodeSetting s overrides file "endpoint" "ENDPOINT") = .ok said

/-- The port in a setting, if there is one. -/
def portIn (raw : Json) : Option Int :=
  raw.toInteger.toOption

theorem portIn_of_port? {source : String} {raw : Json} {port : Option Int}
    (h : port? source raw = .ok port) : portIn raw = port := by
  unfold port? at h
  unfold portIn
  cases raw with
  | null =>
    cases h
    rfl
  | _ =>
    rw [if_neg (by exact Bool.false_ne_true)] at h
    split at h
    case h_1 port hport =>
      cases h
      rw [hport]
      rfl
    all_goals cases h

theorem present_hostOf (said : Endpoint) : present (hostOf said) = said.host.map .str := by
  unfold hostOf
  cases said.host <;> rfl

theorem host_of_resolves {s : Surroundings} {overrides file : List (String × Json)} {path : String}
    {said : Endpoint} {config : RpcConfig} (h : Resolves s overrides file path said config) :
    config.host = (firstSome [present (setting overrides "host"), said.host.map .str,
      present (nodeVar s "HOST"), present (setting file "host")]).getD RpcConfig.defaultHost := by
  rw [h.host, ← present_hostOf]
  exact first_append_default [_, _, _, _] nofun

theorem port_of_resolves {s : Surroundings} {overrides file : List (String × Json)} {path : String}
    {said : Endpoint} {config : RpcConfig} (h : Resolves s overrides file path said config) :
    config.port = .int ((firstSome [portIn (setting overrides "port"), said.port.map Int.ofNat,
      portIn (nodeVar s "PORT"), portIn (setting file "port")]).getD RpcConfig.defaultPort) := by
  obtain ⟨overridden, named, own, hoverridden, hnamed, hown, hport⟩ := h.port
  rw [hport, portIn_of_port? hoverridden, portIn_of_port? hnamed, portIn_of_port? hown]

/-- A setting with no way past the environment. -/
theorem nodeSetting_of_upper {s : Surroundings} {overrides : List (String × Json)}
    (file : List (String × Json)) {key suffix : String}
    (h : first [setting overrides key, nodeVar s suffix] ≠ .null) :
    nodeSetting s overrides file key suffix = first [setting overrides key, nodeVar s suffix] :=
  first_of_upper h

theorem ne_null_of_isTruthy {value : Json} (h : value.isTruthy = true) : value ≠ .null := by
  rintro rfl
  cases h

/-- A user and a password that are set above the file are those of the configuration. -/
theorem credentials_of_upper {s : Surroundings} {overrides : List (String × Json)}
    (file : List (String × Json))
    (huser : (first [setting overrides "user", nodeVar s "USER"]).isTruthy = true)
    (hpassword : (first [setting overrides "password", nodeVar s "PASSWORD"]).isTruthy = true) :
    credentials s overrides file = .ok (first [setting overrides "user", nodeVar s "USER"],
      first [setting overrides "password", nodeVar s "PASSWORD"]) := by
  unfold credentials
  dsimp only
  rw [nodeSetting_of_upper file (ne_null_of_isTruthy huser),
    nodeSetting_of_upper file (ne_null_of_isTruthy hpassword),
    if_pos (Bool.and_eq_true_iff.2 ⟨huser, hpassword⟩)]
  rfl

/-- Two configurations with the same overrides and the same environment, from any two files. The
wallet, and the user with the password, are the same as soon as they are set above the file. The
host, the port and the scheme are those of the environment unless the endpoint says otherwise, and
it is the endpoint of the file when none is set above. -/
theorem rpc_of_two_files {s t : Surroundings} {paths paths' : Paths}
    {overrides : List (String × Json)} {c d : RpcConfig} (henv : t.env = s.env)
    (hc : rpc s paths overrides = .ok c) (hd : rpc t paths' overrides = .ok d) :
    ∃ own other, Says s paths overrides own ∧ Says t paths' overrides other
      ∧ (first [setting overrides "endpoint", nodeVar s "ENDPOINT"] ≠ .null → own = other)
      ∧ Kept (present (setting overrides "host")) (present (nodeVar s "HOST"))
          (own.host.map .str) (other.host.map .str) c.host d.host
      ∧ (∃ port port', c.port = .int port ∧ d.port = .int port'
        ∧ Kept (portIn (setting overrides "port")) (portIn (nodeVar s "PORT"))
            (own.port.map Int.ofNat) (other.port.map Int.ofNat) port port')
      ∧ Kept (truth? (setting overrides "use_https")) (truth? (nodeVar s "USE_HTTPS"))
          own.useHttps other.useHttps c.useHttps d.useHttps
      ∧ (first [setting overrides "wallet", nodeVar s "WALLET"] ≠ .null → c.wallet = d.wallet)
      ∧ ((first [setting overrides "user", nodeVar s "USER"]).isTruthy = true →
          (first [setting overrides "password", nodeVar s "PASSWORD"]).isTruthy = true →
          c.user = d.user ∧ c.password = d.password) := by
  -- The environment is the same, so that what is set above the file is the same on both sides.
  have hvar : ∀ suffix, nodeVar t suffix = nodeVar s suffix := nodeVar_congr henv
  obtain ⟨path, file, own, hfile, h⟩ := resolves_of_rpc hc
  obtain ⟨path', file', other, hfile', h'⟩ := resolves_of_rpc hd
  refine ⟨own, other, ⟨path, file, hfile, h.endpoint⟩, ⟨path', file', hfile', h'.endpoint⟩,
    ?endpoint, ?host, ?port, ?useHttps, ?wallet, ?credentials⟩
  case endpoint =>
    intro hupper
    have hown := h.endpoint
    have hother := h'.endpoint
    rw [nodeSetting_of_upper _ hupper] at hown
    rw [nodeSetting_of_upper _ (by rwa [hvar]), hvar, hown] at hother
    exact Except.ok.inj hother
  case host =>
    rw [host_of_resolves h, host_of_resolves h', hvar]
    exact kept_of_firstSome ..
  case port =>
    refine ⟨_, _, port_of_resolves h, port_of_resolves h', ?_⟩
    rw [hvar]
    exact kept_of_firstSome ..
  case useHttps =>
    rw [h.useHttps, h'.useHttps, hvar]
    exact kept_of_firstSome ..
  case wallet =>
    intro hupper
    rw [h.wallet, h'.wallet, nodeSetting_of_upper _ hupper,
      nodeSetting_of_upper _ (by rwa [hvar]), hvar]
  case credentials =>
    intro huser hpassword
    have hc := h.credentials
    have hd := h'.credentials
    rw [credentials_of_upper _ huser hpassword] at hc
    rw [credentials_of_upper _ (by rwa [hvar]) (by rwa [hvar]), hvar, hvar] at hd
    exact Prod.mk.inj (Except.ok.inj (hc.symm.trans hd))

/-- An environment that names everything, and a file. -/
def namedHost (file : Json) : Surroundings where
  env := [("BITCOIN_RPC_HOST", "named"), ("BITCOIN_RPC_PORT", "3333"),
    ("BITCOIN_RPC_USE_HTTPS", "1"), ("BITCOIN_RPC_USER", "eu"), ("BITCOIN_RPC_PASSWORD", "ep")]
  home := "/home"
  read _ := .document file

/-- A file with an endpoint. -/
def endpointFile : Json :=
  .obj [("rpc", .obj [("endpoint", .str "http://filed:2222")])]

/-- What the environment names. -/
def namedConfig : RpcConfig :=
  ⟨.str "eu", .str "ep", .str "named", .int 3333, true, .null⟩

/-- What becomes of it with the endpoint of the file. -/
def filedConfig : RpcConfig :=
  ⟨.str "eu", .str "ep", .str "filed", .int 2222, false, .null⟩

theorem rpc_namedHost : rpc (namedHost .null) ⟨none, none⟩ [] = .ok namedConfig := by rfl

theorem rpc_namedHost_endpointFile :
    rpc (namedHost endpointFile) ⟨none, none⟩ [] = .ok filedConfig := by rfl

/-- The endpoint of a file sends the wallet, with the same credentials, to another node than the one
that the environment names. -/
theorem rpc_past_environment :
    rpc (namedHost .null) ⟨none, none⟩ [] = .ok namedConfig
      ∧ rpc (namedHost endpointFile) ⟨none, none⟩ [] = .ok filedConfig
      ∧ (∃ own other, Says (namedHost .null) ⟨none, none⟩ [] own
        ∧ Says (namedHost endpointFile) ⟨none, none⟩ [] other
        ∧ Kept none (some (Json.str "named")) (own.host.map .str) (other.host.map .str)
            (.str "named") (.str "filed"))
      ∧ namedConfig.baseUrl = "https://named:3333" ∧ filedConfig.baseUrl = "http://filed:2222"
      ∧ namedConfig.user = filedConfig.user ∧ namedConfig.password = filedConfig.password := by
  have henv : (namedHost endpointFile).env = (namedHost .null).env := rfl
  obtain ⟨own, other, hown, hother, -, hhost, -, -, -, hcredentials⟩ :=
    rpc_of_two_files henv rpc_namedHost rpc_namedHost_endpointFile
  exact ⟨rpc_namedHost, rpc_namedHost_endpointFile, ⟨own, other, hown, hother, hhost⟩, rfl, rfl,
    hcredentials rfl rfl⟩

end Runesmith.Config
