import Runesmith.Proofs.Config.Spelling

/-!
# Empty variables that hide nothing

Under the second spelling an empty variable hides what the file says. This makes no difference where
the setting is overridden, or is empty in the file as well.

* `settled`: the settings, as they come about from the section of the file (`rpc_eq`);
* `CountAlike`: different empty values of a setting that count as the same one;
* `settled_respell_of_idle`: if the empty variables hide nothing (`Idle`), the settings, or what is
  wrong with them, are the same under both spellings.
-/

namespace Runesmith.Config

/-! ## From the section on -/

/-- The settings, once the section of the file is found and the endpoint is read. -/
def settledBehind (s : Surroundings) (overrides : List (String × Json)) (path : String)
    (file : List (String × Json)) (said : Endpoint) : Except Error RpcConfig := do
  let (user, password) ← credentials s overrides file
  let overridden ← port? "overrides" (setting overrides "port")
  let named ← port? "environment" (nodeVar s "PORT")
  let own ← port? s!"{path} rpc.port" (setting file "port")
  return {
    user
    password
    host := first [setting overrides "host", hostOf said, nodeVar s "HOST", setting file "host",
      RpcConfig.defaultHost]
    port := .int ((firstSome [overridden, said.port.map Int.ofNat, named, own]).getD
      RpcConfig.defaultPort)
    useHttps := (firstSome [truth? (setting overrides "use_https"), said.useHttps,
      truth? (nodeVar s "USE_HTTPS"), truth? (setting file "use_https")]).getD false
    wallet := nodeSetting s overrides file "wallet" "WALLET" }

/-- The settings, once the section of the file is found. -/
def settled (s : Surroundings) (overrides : List (String × Json)) (path : String)
    (file : List (String × Json)) : Except Error RpcConfig :=
  endpoint (nodeSetting s overrides file "endpoint" "ENDPOINT") >>=
    settledBehind s overrides path file

/-- The section of the file about the node, with the path of the file. -/
def nodeSection (s : Surroundings) (paths : Paths) :
    Except Error (String × List (String × Json)) := do
  let (path, required) ← resolve s paths
  let file ← sectionOf (← load s path required) "rpc" path
  return (path, file)

theorem hasSection_of_nodeSection {s : Surroundings} {paths : Paths} {path : String}
    {file : List (String × Json)} (h : nodeSection s paths = .ok (path, file)) :
    HasSection s paths path file := by
  unfold nodeSection at h
  obtain ⟨⟨path, required⟩, hpath, h⟩ := exists_ok_of_bind h
  obtain ⟨members, hload, h⟩ := exists_ok_of_bind h
  obtain ⟨file, hfile, h⟩ := exists_ok_of_bind h
  cases h
  exact ⟨required, members, hpath, hload, hfile⟩

theorem rpc_eq (s : Surroundings) (paths : Paths) (overrides : List (String × Json)) :
    rpc s paths overrides =
      nodeSection s paths >>= fun found => settled s overrides found.1 found.2 := by
  unfold rpc nodeSection
  rw [bind_assoc]
  congr 1
  funext found
  rcases found with ⟨path, required⟩
  dsimp only
  rw [bind_assoc]
  congr 1
  funext members
  rw [bind_assoc]
  rfl

/-- The section of the file does not depend on the spelling, so that only what follows has to be the
same. -/
theorem rpc_respell_of_settled {s : Surroundings} {paths : Paths}
    {overrides : List (String × Json)}
    (h : ∀ path file, HasSection s paths path file →
      settled (respell s) overrides path file = settled s overrides path file) :
    rpc (respell s) paths overrides = rpc s paths overrides := by
  have hsame : nodeSection (respell s) paths = nodeSection s paths := rfl
  rw [rpc_eq, rpc_eq, hsame]
  cases hsection : nodeSection s paths with
  | error e => rfl
  | ok found => exact h found.1 found.2 (hasSection_of_nodeSection hsection)

/-! ## What an empty variable hides -/

/-- Two settings count as the same one: they are, or both are empty. -/
def CountAlike (x y : Json) : Prop :=
  x = y ∨ (x.isTruthy = false ∧ y.isTruthy = false)

theorem CountAlike.isTruthy_eq {x y : Json} (h : CountAlike x y) : x.isTruthy = y.isTruthy := by
  rcases h with rfl | ⟨hx, hy⟩
  · rfl
  · rw [hx, hy]

theorem CountAlike.eq_of_isTruthy {x y : Json} (h : CountAlike x y) (hx : x.isTruthy = true) :
    x = y := by
  rcases h with rfl | ⟨hempty, -⟩
  · rfl
  · rw [hx] at hempty
    cases hempty

theorem endpoint_of_empty {raw : Json} (h : raw.isTruthy = false) :
    endpoint raw = .ok ⟨none, none, none⟩ := by
  unfold endpoint
  rw [h]
  rfl

theorem endpoint_congr {x y : Json} (h : CountAlike x y) : endpoint x = endpoint y := by
  rcases h with rfl | ⟨hx, hy⟩
  · rfl
  · rw [endpoint_of_empty hx, endpoint_of_empty hy]

theorem cookie_of_empty (s : Surroundings) {raw : Json} (h : raw.isTruthy = false) :
    cookie s raw = .ok (.null, .null) := by
  unfold cookie
  rw [h]
  rfl

theorem cookie_congr (s : Surroundings) {x y : Json} (h : CountAlike x y) :
    cookie s x = cookie s y := by
  rcases h with rfl | ⟨hx, hy⟩
  · rfl
  · rw [cookie_of_empty s hx, cookie_of_empty s hy]

/-- Credentials are taken from a cookie file as soon as one of them is empty, whatever empty value
it has. -/
theorem credentials_congr {s t : Surroundings} {overrides file : List (String × Json)}
    (huser : CountAlike (nodeSetting t overrides file "user" "USER")
      (nodeSetting s overrides file "user" "USER"))
    (hpassword : CountAlike (nodeSetting t overrides file "password" "PASSWORD")
      (nodeSetting s overrides file "password" "PASSWORD"))
    (hcookie : cookie t (cookieSetting t overrides file) =
      cookie s (cookieSetting s overrides file)) :
    credentials t overrides file = credentials s overrides file := by
  have hwhole : ((nodeSetting t overrides file "user" "USER").isTruthy
        && (nodeSetting t overrides file "password" "PASSWORD").isTruthy) =
      ((nodeSetting s overrides file "user" "USER").isTruthy
        && (nodeSetting s overrides file "password" "PASSWORD").isTruthy) := by
    rw [huser.isTruthy_eq, hpassword.isTruthy_eq]
  unfold credentials
  dsimp only
  by_cases hset : ((nodeSetting t overrides file "user" "USER").isTruthy
      && (nodeSetting t overrides file "password" "PASSWORD").isTruthy) = true
  · rcases Bool.and_eq_true_iff.1 hset with ⟨huser_set, hpassword_set⟩
    rw [if_pos hset, if_pos (hwhole.symm.trans hset), huser.eq_of_isTruthy huser_set,
      hpassword.eq_of_isTruthy hpassword_set]
  · rw [if_neg hset, if_neg (by rwa [← hwhole]), hcookie]

/-- An empty variable hides nothing of the file: the setting is overridden, or empty there, too. -/
def HidesNothing (overrides file : List (String × Json)) (key : String) : Prop :=
  setting overrides key ≠ .null ∨ (setting file key).isTruthy = false

/-- The port of the environment, if there is one, is a number. -/
def ReadsPort (s : Surroundings) : Prop :=
  ∃ port, port? "environment" (nodeVar s "PORT") = .ok port

/-- The empty variables make no difference to what is resolved from the section of a file. -/
structure Idle (s : Surroundings) (overrides file : List (String × Json)) : Prop where
  endpoint : IsBlank s "ENDPOINT" → HidesNothing overrides file "endpoint"
  user : IsBlank s "USER" → HidesNothing overrides file "user"
  password : IsBlank s "PASSWORD" → HidesNothing overrides file "password"
  cookie : IsBlank s "COOKIE_FILE" → HidesNothing overrides file "cookie_file"
  /-- An empty text is no port, even where another port goes before it. -/
  port : ¬IsBlank s "PORT"
  host : ReadsPort s → IsBlank s "HOST" → setting overrides "host" ≠ .null ∨
    ∃ said host, Config.endpoint (nodeSetting s overrides file "endpoint" "ENDPOINT") = .ok said
      ∧ said.host = some host
  wallet : ReadsPort s → IsBlank s "WALLET" → setting overrides "wallet" ≠ .null

theorem first_ne_null_of_head {x : Json} (hx : x ≠ .null) (rest : List Json) :
    first (x :: rest) ≠ .null := by
  cases x with
  | null => exact absurd rfl hx
  | _ => exact nofun

section

variable {s : Surroundings} (h : UsesFirst s.env) {overrides file : List (String × Json)}

include h

theorem nodeSetting_respell {key suffix : String}
    (hover : IsBlank s suffix → setting overrides key ≠ .null) :
    nodeSetting (respell s) overrides file key suffix =
      nodeSetting s overrides file key suffix := by
  by_cases hblank : IsBlank s suffix
  · have hset : first [setting overrides key] ≠ .null := first_ne_null_of_head (hover hblank) []
    exact (first_of_upper hset).trans (first_of_upper hset).symm
  · rw [nodeSetting, nodeSetting, nodeVar_respell h suffix hblank]

theorem countAlike_nodeSetting {key suffix : String}
    (hidle : IsBlank s suffix → HidesNothing overrides file key) :
    CountAlike (nodeSetting (respell s) overrides file key suffix)
      (nodeSetting s overrides file key suffix) := by
  by_cases hover : IsBlank s suffix → setting overrides key ≠ .null
  · exact .inl (nodeSetting_respell h hover)
  · rw [Classical.not_imp, not_not] at hover
    rcases hover with ⟨hblank, hnull⟩
    have hempty := (hidle hblank).resolve_left (not_not.2 hnull)
    -- Nothing is above the file: the empty text on the one side, what the file says on the other.
    right
    rw [nodeSetting, nodeSetting, hnull, nodeVar_of_blank h suffix hblank,
      nodeVar_respell_of_blank h suffix hblank]
    constructor
    · rfl
    · cases hfile : setting file key <;> rw [hfile] at hempty <;> exact hempty

/-- A host that is overridden, or that the endpoint names, leaves none to the environment. -/
theorem host_respell (said : Endpoint)
    (hidle : IsBlank s "HOST" → setting overrides "host" ≠ .null ∨ said.host ≠ none) :
    first [setting overrides "host", hostOf said, nodeVar (respell s) "HOST", setting file "host",
        RpcConfig.defaultHost] =
      first [setting overrides "host", hostOf said, nodeVar s "HOST", setting file "host",
        RpcConfig.defaultHost] := by
  by_cases hblank : IsBlank s "HOST"
  · have hset : first [setting overrides "host", hostOf said] ≠ .null := by
      rcases hidle hblank with hover | hhost
      · exact first_ne_null_of_head hover _
      · rcases Option.ne_none_iff_exists'.1 hhost with ⟨host, hhost⟩
        rw [hostOf, hhost]
        cases setting overrides "host" <;> exact nofun
    exact (first_of_upper hset).trans (first_of_upper hset).symm
  · rw [nodeVar_respell h _ hblank]

theorem settled_respell_of_idle (hidle : Idle s overrides file) (path : String) :
    settled (respell s) overrides path file = settled s overrides path file := by
  have hcredentials : credentials (respell s) overrides file = credentials s overrides file := by
    apply credentials_congr
    · exact countAlike_nodeSetting h hidle.user
    · exact countAlike_nodeSetting h hidle.password
    · exact cookie_congr s (countAlike_nodeSetting h hidle.cookie)
  have hhttps : truth? (nodeVar (respell s) "USE_HTTPS") = truth? (nodeVar s "USE_HTTPS") := by
    by_cases hblank : IsBlank s "USE_HTTPS"
    · rw [nodeVar_of_blank h _ hblank, nodeVar_respell_of_blank h _ hblank]
      rfl
    · rw [nodeVar_respell h _ hblank]
  rw [settled, settled, endpoint_congr (countAlike_nodeSetting h hidle.endpoint)]
  cases hsaid : endpoint (nodeSetting s overrides file "endpoint" "ENDPOINT") with
  | error e => rfl
  | ok said =>
    change settledBehind (respell s) overrides path file said =
      settledBehind s overrides path file said
    unfold settledBehind
    rw [hcredentials, hhttps, nodeVar_respell h _ hidle.port]
    -- The host and the wallet come to count only if the port of the environment can be read.
    cases hport : port? "environment" (nodeVar s "PORT") with
    | error e => rfl
    | ok named =>
      have hreads : ReadsPort s := ⟨named, hport⟩
      have hhost : IsBlank s "HOST" → setting overrides "host" ≠ .null ∨ said.host ≠ none := by
        intro hblank
        rcases hidle.host hreads hblank with hover | ⟨other, host, hother, hnamed⟩
        · exact .inl hover
        · right
          rw [hsaid] at hother
          cases hother
          rw [hnamed]
          exact nofun
      rw [host_respell h said hhost, nodeSetting_respell h (hidle.wallet hreads)]

end

end Runesmith.Config
