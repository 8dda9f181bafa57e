import Runesmith.Proofs.Config.Blank

/-!
# Environments that may be respelled

Whether the two spellings of an environment come to the same depends on its empty variables. If no
variable that counts is empty, they come to the same with every file and all overrides. If one is,
there are a file and overrides with which they do not, a pair of them for each variable.

* `not_isBlank_of_errors`, `settled_covering`: what tells an empty text from no variable at all;
* `holdsValues_of_interchangeable`: so none is empty in an environment that may be respelled;
* `respelling_idle_and_iff`: what is left of the two spellings being the same.
-/

namespace Runesmith.Config

/-! ## Environments that may be respelled -/

/-- Under both spellings the settings are the same, or the same is wrong with them, whatever the
files, the paths and the overrides are. -/
def Interchangeable (env : List (String × String)) : Prop :=
  ∀ s : Surroundings, s.env = env → ∀ paths overrides,
    rpc (respell s) paths overrides = rpc s paths overrides

/-- No variable that counts is empty. Whether `USE_HTTPS` is empty or missing is the same, and a
host and a wallet do not count if the port of the environment cannot be read. -/
structure HoldsValues (s : Surroundings) : Prop where
  always : ∀ suffix ∈ ["ENDPOINT", "USER", "PASSWORD", "COOKIE_FILE", "PORT"], ¬IsBlank s suffix
  behindPort : ReadsPort s → ∀ suffix ∈ ["HOST", "WALLET"], ¬IsBlank s suffix

theorem HoldsValues.congr {s t : Surroundings} (hvalues : HoldsValues s) (h : t.env = s.env) :
    HoldsValues t := by
  have hblank : ∀ suffix, IsBlank t suffix ↔ IsBlank s suffix := by
    intro suffix
    rw [IsBlank, IsBlank, Surroundings.var?, Surroundings.var?, h]
  have hreads : ReadsPort t ↔ ReadsPort s := by
    rw [ReadsPort, ReadsPort, nodeVar_congr h]
  constructor
  · intro suffix hsuffix
    rw [hblank]
    exact hvalues.always suffix hsuffix
  · intro hport suffix hsuffix
    rw [hblank]
    exact hvalues.behindPort (hreads.1 hport) suffix hsuffix

/-- Surroundings in which every file is the same document, with a section about the node. -/
def sectionOnly (env : List (String × String)) (file : List (String × Json)) : Surroundings where
  env := env
  home := "/home"
  read _ := .document (.obj [("rpc", .obj file)])

theorem exists_nodeSection (env : List (String × String)) (file : List (String × Json)) :
    ∃ path, nodeSection (sectionOnly env file) ⟨none, none⟩ = .ok (path, file) := by
  refine ⟨FilePath.normalize ("/home" ++ "/" ++ defaultFile), ?_⟩
  cases file <;> rfl

/-- Overrides that leave the host and the wallet alone, and cannot be refused. -/
def covering : List (String × Json) :=
  [("endpoint", .str ""), ("user", .str "u"), ("password", .str "p")]

/-- A section with a host and a wallet. -/
def hostAndWallet : List (String × Json) :=
  [("host", .str "h"), ("wallet", .str "w")]

/-- Under these overrides, the host and the wallet are those of the environment or of the section,
once the port of the environment is read. -/
theorem settled_covering {s : Surroundings} (hreads : ReadsPort s) (path : String) :
    ∃ config, settled s covering path hostAndWallet = .ok config
      ∧ config.host = first [nodeVar s "HOST", .str "h", RpcConfig.defaultHost]
      ∧ config.wallet = first [nodeVar s "WALLET", .str "w"] := by
  rcases hreads with ⟨port, hport⟩
  have hsaid : endpoint (nodeSetting s covering hostAndWallet "endpoint" "ENDPOINT") =
      .ok ⟨none, none, none⟩ := rfl
  rw [settled, hsaid]
  change ∃ config, settledBehind s covering path _ _ = _ ∧ _
  unfold settledBehind
  rw [hport]
  exact ⟨_, rfl, rfl, rfl⟩

section

variable {s : Surroundings} (h : UsesFirst s.env) (hsame : Interchangeable s.env)

include hsame

theorem exists_settled_eq (overrides file : List (String × Json)) :
    ∃ path, settled (respell (sectionOnly s.env file)) overrides path file =
      settled (sectionOnly s.env file) overrides path file := by
  rcases exists_nodeSection s.env file with ⟨path, hfile⟩
  have hrespelled :
      nodeSection (respell (sectionOnly s.env file)) ⟨none, none⟩ = .ok (path, file) := hfile
  have hrpc := hsame (sectionOnly s.env file) rfl ⟨none, none⟩ overrides
  rw [rpc_eq, rpc_eq, hfile, hrespelled] at hrpc
  exact ⟨path, hrpc⟩

include h

/-- A variable is not empty if, with some overrides and some section, something else is wrong
without it than with an empty text. -/
theorem not_isBlank_of_errors {suffix : String} (overrides file : List (String × Json))
    {e e' : Error} (hne : e ≠ e')
    (hnull : ∀ t path, nodeVar t suffix = .null → settled t overrides path file = .error e)
    (hempty : ∀ t path, nodeVar t suffix = .str "" → settled t overrides path file = .error e') :
    ¬IsBlank s suffix := by
  intro hblank
  rcases exists_settled_eq hsame overrides file with ⟨path, heq⟩
  have hbefore := hnull (sectionOnly s.env file) path (nodeVar_of_blank h suffix hblank)
  have hbehind := hempty (respell (sectionOnly s.env file)) path
    (nodeVar_respell_of_blank h suffix hblank)
  rw [hbefore, hbehind] at heq
  exact hne (Except.error.inj heq).symm

/-- It would hide an endpoint of the file that cannot be read. -/
theorem not_isBlank_endpoint : ¬IsBlank s "ENDPOINT" := by
  have hne : Error.problem (.invalidEndpoint "x") ≠ .problem .noCredentials := nofun
  apply not_isBlank_of_errors h hsame [("user", .str ""), ("cookie_file", .str "")]
    [("endpoint", .str "x")] hne
  all_goals
    intro t path hvar
    rw [settled, nodeSetting, hvar]
    rfl

/-- It would hide a user of the file. -/
theorem not_isBlank_user : ¬IsBlank s "USER" := by
  have hne : Error.problem (.invalidPort "overrides" "x") ≠ .problem .noCredentials := nofun
  apply not_isBlank_of_errors h hsame [("endpoint", .str ""), ("password", .str "p"),
    ("cookie_file", .str ""), ("port", .str "x")] [("user", .str "u")] hne
  all_goals
    intro t path hvar
    unfold settled settledBehind credentials nodeSetting
    rw [hvar]
    rfl

/-- It would hide a password of the file. -/
theorem not_isBlank_password : ¬IsBlank s "PASSWORD" := by
  have hne : Error.problem (.invalidPort "overrides" "x") ≠ .problem .noCredentials := nofun
  apply not_isBlank_of_errors h hsame [("endpoint", .str ""), ("user", .str "u"),
    ("cookie_file", .str ""), ("port", .str "x")] [("password", .str "p")] hne
  all_goals
    intro t path hvar
    unfold settled settledBehind credentials nodeSetting
    rw [hvar]
    rfl

/-- It would hide a cookie file that the file names. -/
theorem not_isBlank_cookieFile : ¬IsBlank s "COOKIE_FILE" := by
  have hne : Error.unknownHome ≠ .problem .noCredentials := nofun
  apply not_isBlank_of_errors h hsame [("endpoint", .str ""), ("user", .str "")]
    [("cookie_file", .str "~x")] hne
  all_goals
    intro t path hvar
    unfold settled settledBehind credentials cookieSetting nodeSetting
    rw [hvar]
    rfl

/-- An empty text is no port. -/
theorem not_isBlank_port : ¬IsBlank s "PORT" := by
  intro hblank
  rcases exists_settled_eq hsame covering hostAndWallet with ⟨path, heq⟩
  have hnull : nodeVar (sectionOnly s.env hostAndWallet) "PORT" = .null :=
    nodeVar_of_blank h _ hblank
  have hempty : nodeVar (respell (sectionOnly s.env hostAndWallet)) "PORT" = .str "" :=
    nodeVar_respell_of_blank h _ hblank
  have hreads : ReadsPort (sectionOnly s.env hostAndWallet) := by
    rw [ReadsPort, hnull]
    exact ⟨none, rfl⟩
  rcases settled_covering hreads path with ⟨config, hconfig, -⟩
  have hrefused : settled (respell (sectionOnly s.env hostAndWallet)) covering path hostAndWallet =
      .error (.problem (.invalidPort "environment" "")) := by
    unfold settled settledBehind
    rw [hempty]
    rfl
  rw [hconfig, hrefused] at heq
  cases heq

/-- Where the port is read, host and wallet go before those of a section in the same way. -/
theorem host_and_wallet_of_interchangeable (hreads : ReadsPort s) :
    first [nodeVar (respell s) "HOST", .str "h", RpcConfig.defaultHost] =
        first [nodeVar s "HOST", .str "h", RpcConfig.defaultHost]
      ∧ first [nodeVar (respell s) "WALLET", .str "w"] =
        first [nodeVar s "WALLET", .str "w"] := by
  rcases exists_settled_eq hsame covering hostAndWallet with ⟨path, heq⟩
  have hrespelled : ReadsPort (respell s) := by
    rw [ReadsPort, nodeVar_respell h _ (not_isBlank_port h hsame)]
    exact hreads
  -- Only the variables matter to both, and these are the same in all surroundings.
  have hold : ReadsPort (sectionOnly s.env hostAndWallet) := hreads
  have hnew : ReadsPort (respell (sectionOnly s.env hostAndWallet)) := hrespelled
  rcases settled_covering hold path with ⟨config, hconfig, hhost, hwallet⟩
  rcases settled_covering hnew path with ⟨other, hother, hhost_new, hwallet_new⟩
  rw [hconfig, hother] at heq
  cases heq
  exact ⟨hhost_new.symm.trans hhost, hwallet_new.symm.trans hwallet⟩

end

/-- A variable that goes before a text in the same way under both spellings is not empty. -/
theorem not_isBlank_of_first {s : Surroundings} (h : UsesFirst s.env) {suffix text : String}
    (htext : "" ≠ text) {rest : List Json}
    (hfirst : first (nodeVar (respell s) suffix :: .str text :: rest) =
      first (nodeVar s suffix :: .str text :: rest)) : ¬IsBlank s suffix := by
  intro hblank
  rw [nodeVar_of_blank h suffix hblank, nodeVar_respell_of_blank h suffix hblank] at hfirst
  exact htext (Json.str.inj hfirst)

theorem idle_of_holdsValues {s : Surroundings} (hvalues : HoldsValues s)
    (overrides file : List (String × Json)) : Idle s overrides file where
  endpoint hblank := absurd hblank (hvalues.always _ (by simp))
  user hblank := absurd hblank (hvalues.always _ (by simp))
  password hblank := absurd hblank (hvalues.always _ (by simp))
  cookie hblank := absurd hblank (hvalues.always _ (by simp))
  port := hvalues.always _ (by simp)
  host hreads hblank := absurd hblank (hvalues.behindPort hreads _ (by simp))
  wallet hreads hblank := absurd hblank (hvalues.behindPort hreads _ (by simp))

theorem holdsValues_of_interchangeable {s : Surroundings} (h : UsesFirst s.env)
    (hsame : Interchangeable s.env) : HoldsValues s where
  always := by
    intro suffix hsuffix
    simp only [List.mem_cons, List.not_mem_nil, or_false] at hsuffix
    rcases hsuffix with rfl | rfl | rfl | rfl | rfl
    · exact not_isBlank_endpoint h hsame
    · exact not_isBlank_user h hsame
    · exact not_isBlank_password h hsame
    · exact not_isBlank_cookieFile h hsame
    · exact not_isBlank_port h hsame
  behindPort := by
    intro hreads suffix hsuffix
    simp only [List.mem_cons, List.not_mem_nil, or_false] at hsuffix
    rcases host_and_wallet_of_interchangeable h hsame hreads with ⟨hhost, hwallet⟩
    rcases hsuffix with rfl | rfl
    · exact not_isBlank_of_first h (by decide) hhost
    · exact not_isBlank_of_first h (by decide) hwallet

/-- The two spellings of an environment that uses the first one. The settings, or what is wrong with
them, are the same as with every variable respelled, as long as the empty variables hide nothing:
they are overridden, or the file says nothing there either. For all files and all overrides they are
the same exactly if no variable that counts is empty. -/
theorem respelling_idle_and_iff {s : Surroundings} (h : UsesFirst s.env) :
    (∀ paths overrides,
      (∀ path file, HasSection s paths path file → Idle s overrides file) →
        rpc (respell s) paths overrides = rpc s paths overrides)
    ∧ (Interchangeable s.env ↔ HoldsValues s) := by
  constructor
  · intro paths overrides hidle
    apply rpc_respell_of_settled
    intro path file hfile
    exact settled_respell_of_idle h (hidle path file hfile) path
  · constructor
    · exact holdsValues_of_interchangeable h
    · intro hvalues t ht paths overrides
      have hfirst : UsesFirst t.env := by
        rwa [ht]
      apply rpc_respell_of_settled
      intro path file _
      have hidle : Idle t overrides file := idle_of_holdsValues (hvalues.congr ht) overrides file
      exact settled_respell_of_idle hfirst hidle path

/-- An environment with a port, and a host that is empty. -/
def blankHost : Surroundings where
  env := [("BITCOIN_RPC_HOST", ""), ("BITCOIN_RPC_PORT", "18443")]
  home := "/home"
  read _ := .document (.obj [("rpc", .obj [("user", .str "fu"), ("password", .str "fp"),
    ("host", .str "filehost")])])

/-- What is resolved for a host. -/
def hostConfig (host : String) : RpcConfig :=
  ⟨.str "fu", .str "fp", .str host, .int 18443, false, .null⟩

theorem usesFirst_blankHost : UsesFirst blankHost.env := by
  intro v hv suffix
  simp only [blankHost, List.mem_cons, List.not_mem_nil, or_false] at hv
  rcases hv with rfl | rfl
  · exact firstSpelling_ne_secondSpelling "HOST" suffix
  · exact firstSpelling_ne_secondSpelling "PORT" suffix

/-- Under the first spelling the host of the file counts, under the second one there is none. A host
that is overridden is the same under both. -/
theorem rpc_blankHost :
    UsesFirst blankHost.env
      ∧ rpc blankHost ⟨none, none⟩ [] = .ok (hostConfig "filehost")
      ∧ rpc (respell blankHost) ⟨none, none⟩ [] = .ok (hostConfig "")
      ∧ (hostConfig "filehost").baseUrl = "http://filehost:18443"
      ∧ (hostConfig "").baseUrl = "http://:18443"
      ∧ ¬Interchangeable blankHost.env
      ∧ rpc (respell blankHost) ⟨none, none⟩ [("host", .str "given")] =
        rpc blankHost ⟨none, none⟩ [("host", .str "given")] := by
  rcases respelling_idle_and_iff usesFirst_blankHost with ⟨hidle, hiff⟩
  refine ⟨usesFirst_blankHost, rfl, ?second, rfl, rfl, ?differs, ?overridden⟩
  case second => rfl
  case differs =>
    intro hsame
    have hreads : ReadsPort blankHost := ⟨some 18443, rfl⟩
    exact (hiff.1 hsame).behindPort hreads "HOST" (by simp) rfl
  case overridden =>
    have hfull : ∀ suffix ∈ ["ENDPOINT", "USER", "PASSWORD", "COOKIE_FILE", "PORT", "WALLET"],
        ¬IsBlank blankHost suffix := by
      unfold IsBlank
      decide
    apply hidle
    intro path file _
    exact {
      endpoint hblank := absurd hblank (hfull _ (by simp))
      user hblank := absurd hblank (hfull _ (by simp))
      password hblank := absurd hblank (hfull _ (by simp))
      cookie hblank := absurd hblank (hfull _ (by simp))
      port := hfull _ (by simp)
      host _ _ := .inl nofun
      wallet _ hblank := absurd hblank (hfull _ (by simp)) }

end Runesmith.Config
