import Runesmith.Proofs.Observation

/-!
# Calls of the node

A procedure of the node is called by one request over the connection, and what it results in is read
off the reply. Few things can go wrong about a reply (`reports_reading`), and only a garbled one has
the wrong shape (`reading_eq_mismatch_iff`).
-/

namespace Runesmith.Node

/-- What a reply, or none, means to the caller. -/
def reading : Option Http.Response → Except Failure Json
  | none => .error (.transport .unreachable)
  | some response => resultOf response

/-- The request that calls a procedure. -/
def request (node : Node) (method : String) (params : Json) : Http.Call :=
  ⟨node.url, method, if params.isTruthy then params else .arr [], node.user, node.password, timeout⟩

/-- One request, and what its reply means. -/
def Posts (node : Node) (method : String) (params : Json) : Trace Failure Json := fun made result =>
  ∃ reply, made = [⟨.post (node.request method params), reply⟩] ∧ result = reading reply

/-- One request, and what the surroundings reply behind some history. -/
def Answers (around : Behaviour) (node : Node) (method : String) (params : Json) :
    Trace Failure Json := fun made result =>
  ∃ history, made = [⟨.post (node.request method params),
      around history (.post (node.request method params))⟩]
    ∧ result = reading (around history (.post (node.request method params)))

/-- What a result that was mapped was before. -/
theorem ok_of_map {α β : Type} {outcome : Except Failure α} {f : α → β} {y : β}
    (h : .ok y = outcome.map f) : ∃ x, outcome = .ok x ∧ f x = y := by
  cases outcome with
  | error e => cases h
  | ok x => exact ⟨x, rfl, (Except.ok.inj h).symm⟩

theorem error_of_map {α β : Type} {outcome : Except Failure α} {f : α → β} {e : Failure}
    (h : .error e = outcome.map f) : outcome = .error e := by
  cases outcome with
  | error cause =>
    cases h
    rfl
  | ok x => cases h

/-! ## What can go wrong about a reply -/

/-- A failure of the connection, of the shape of a document, or of the node itself. -/
inductive IsReported : Failure → Prop where
  | transport (cause : TransportError) : IsReported (.transport cause)
  | mismatch (cause : Mismatch) : IsReported (.mismatch cause)
  | rpc (cause : RpcError) : IsReported (.rpc cause)

/-- Nothing else goes wrong. -/
def Reports {α : Type} (outcome : Except Failure α) : Prop :=
  ∀ e, outcome = .error e → IsReported e

theorem Reports.ok {α : Type} (x : α) : Reports (.ok x) := by
  intro e h
  cases h

theorem Reports.error {α : Type} {e : Failure} (h : IsReported e) :
    Reports (.error e : Except Failure α) := by
  intro e' he
  cases he
  exact h

theorem Reports.mapError {ε α : Type} (outcome : Except ε α) {wrap : ε → Failure}
    (h : ∀ e, IsReported (wrap e)) : Reports (outcome.mapError wrap) := by
  cases outcome with
  | error e => exact .error (h e)
  | ok x => exact .ok x

theorem Reports.bind {α β : Type} {outcome : Except Failure α} {next : α → Except Failure β}
    (h : Reports outcome) (hnext : ∀ x, Reports (next x)) : Reports (outcome >>= next) := by
  cases outcome with
  | error e => exact .error (h e rfl)
  | ok x => exact hnext x

theorem reports_resultOf (response : Http.Response) : Reports (resultOf response) := by
  have hstatus : Reports ((checkStatus response).mapError Failure.transport) :=
    .mapError _ IsReported.transport
  unfold resultOf
  split
  case h_1 => exact hstatus.bind fun _ => .error (.transport _)
  case h_2 members _ =>
    dsimp only
    split
    case isTrue =>
      have hcause : Reports ((errorOf ((Json.find? members "error").getD .null)).mapError
        Failure.mismatch) := .mapError _ IsReported.mismatch
      refine hcause.bind fun cause => Reports.bind (.error (.rpc cause)) fun _ => ?_
      exact hstatus.bind fun _ => .ok _
    case isFalse => exact hstatus.bind fun _ => .ok _
  case h_3 => exact .error (.transport _)

/-- Whatever is replied, nothing else goes wrong about a reply. -/
theorem reports_reading (reply : Option Http.Response) : Reports (reading reply) := by
  cases reply with
  | none => exact .error (.transport _)
  | some response => exact reports_resultOf response

/-! ## Garbled replies -/

/-- Does an error count as one without being an object? An empty value is no error. -/
def isGarbledError : Json → Bool
  | .obj _ => false
  | error => error.isTruthy

/-- Does a body report such an error? -/
def isGarbledBody : Option Json → Bool
  | some (.obj members) => isGarbledError ((Json.find? members "error").getD .null)
  | _ => false

/-- Does a reply? -/
def isGarbled (reply : Option Http.Response) : Bool :=
  isGarbledBody (reply.bind Http.Response.json?)

/-- The code of an error can be looked up exactly if the error is an object. -/
theorem errorOf_eq_error_iff {error : Json} {cause : Mismatch} :
    errorOf error = .error cause ↔ cause = .notAnObject ∧ ∀ members, error ≠ .obj members := by
  cases error with
  | obj members =>
    constructor
    · intro h
      cases h
    · rintro ⟨-, h⟩
      exact absurd rfl (h members)
  | _ =>
    constructor
    · intro h
      cases h
      exact ⟨rfl, nofun⟩
    · rintro ⟨rfl, -⟩
      rfl

theorem isGarbledError_iff {error : Json} :
    isGarbledError error = true ↔ error.isTruthy = true ∧ ∀ members, error ≠ .obj members := by
  cases error with
  | obj members => exact iff_of_false nofun fun h => h.2 members rfl
  | _ => exact ⟨fun h => ⟨h, nofun⟩, And.left⟩

/-- The status of a reply is never a mismatch. -/
theorem checkStatus_bind_ne_mismatch {response : Http.Response} {rest : Except Failure Json}
    {cause : Mismatch} (h : rest ≠ .error (.mismatch cause)) :
    ((checkStatus response).mapError Failure.transport >>= fun _ => rest) ≠
      .error (.mismatch cause) := by
  cases checkStatus response with
  | error e => exact nofun
  | ok _ => exact h

/-- Nothing but a garbled reply is a mismatch. -/
theorem reading_eq_mismatch_iff {reply : Option Http.Response} {cause : Mismatch} :
    reading reply = .error (.mismatch cause) ↔ cause = .notAnObject ∧ isGarbled reply = true := by
  cases reply with
  | none => exact iff_of_false nofun nofun
  | some response =>
    show resultOf response = _ ↔ _ ∧ isGarbledBody response.json? = true
    unfold resultOf
    rcases response.json? with _ | body
    · exact iff_of_false (checkStatus_bind_ne_mismatch nofun) nofun
    cases body with
    | obj members =>
      dsimp only [isGarbledBody]
      generalize (Json.find? members "error").getD .null = error
      rw [isGarbledError_iff]
      by_cases htruthy : error.isTruthy = true
      · rw [if_pos htruthy, and_iff_right htruthy, ← errorOf_eq_error_iff]
        cases errorOf error with
        | error e => exact ⟨fun h => by cases h; rfl, fun h => by cases h; rfl⟩
        | ok cause => exact iff_of_false nofun nofun
      · rw [if_neg htruthy]
        exact iff_of_false (checkStatus_bind_ne_mismatch nofun) fun h => htruthy h.2.1
    | _ => exact iff_of_false nofun nofun

/-! ## Calls -/

variable (around : Behaviour) (node : Node)

theorem leads_answers (method : String) (params : Json) :
    Leads (node.call around.transport method params) (Answers around node method params) := by
  unfold call
  refine .asked fun history => ?_
  split
  case h_1 hreply => exact .throw ⟨history, rfl, (congrArg reading hreply).symm⟩
  case h_2 response hreply => exact .result ⟨history, rfl, (congrArg reading hreply).symm⟩

theorem leads_call (method : String) (params : Json) :
    Leads (node.call around.transport method params) (Posts node method params) := by
  refine (leads_answers around node method params).mono ?_
  rintro made result ⟨history, hmade, hresult⟩
  exact ⟨_, hmade, hresult⟩

theorem leads_lockUnspent (unlock outputs : Json) :
    Leads (node.lockUnspent around.transport unlock outputs) fun made result =>
      ∃ outcome, Posts node "lockunspent" (.arr [unlock, outputs]) made outcome
        ∧ result = outcome.map Json.isTruthy := by
  refine (leads_call around node _ _).andThen ?_ fun answer => .pure ?_
  · intro made e hposts
    exact ⟨_, hposts, rfl⟩
  · intro made hposts
    rw [List.append_nil]
    exact ⟨_, hposts, rfl⟩

end Runesmith.Node
