import Runesmith.Index
import Runesmith.Proofs.Entry.Reading
import Runesmith.Proofs.Mint.Spendable

/-!
# What the index server answers about a rune

A lookup asks for one document, and what becomes of it depends on the reply alone: nothing is known
about the rune, or its id and its entry are read, or the index is to blame. One kind of reply gets
in the way, a document whose entry escapes the reader.

* `leads_lookup`: a lookup makes one request, and `found` says what it makes of the reply;
* `judged_found`: nothing is known if the reply `SaysNothing`, and a rune is known if it `Tells` of
  it; else what is told is an error of the index, unless the reply `Baffles` the lookup;
* `judged_lookup` puts this together.
-/

namespace Runesmith.IndexServer

/-! ## What a reply is taken for -/

/-- An error of the index. -/
inductive IsIndex : Failure → Prop where
  | intro (cause : IndexError) : IsIndex (.index cause)

/-- The reply says that nothing is known. -/
def SaysNothing : Option Http.Response → Prop
  | none => False
  | some response =>
    response.status = 404 ∨ response.isOk = true ∧ response.json? = some .null

/-- The document has an id that can be read, and an entry that escapes the reader. -/
inductive BadEntry (payload : Json) : Failure → Prop where
  | intro {name data : Json} {id : RuneId} {cause : Mismatch} (hname : payload.item "id" = .ok name)
      (hid : RuneId.ofText name.display = .ok id) (hdata : payload.item "entry" = .ok data)
      (h : Entry.Escapes data (.mismatch cause)) : BadEntry payload (.mismatch cause)

/-- The document has an id that can be read, and an entry all of whose parts can be read. -/
inductive HoldsRune (payload : Json) (id : RuneId) : Prop where
  | intro {name data : Json} (hname : payload.item "id" = .ok name)
      (hid : RuneId.ofText name.display = .ok id) (hdata : payload.item "entry" = .ok data)
      (hparts : ∀ part ∈ Entry.parts data, part.check = .ok ())

/-- The reply brings a document. -/
inductive Brings : Option Http.Response → Json → Prop where
  | intro {response : Http.Response} {payload : Json} (hstatus : response.status ≠ 404)
      (hok : response.isOk = true) (hjson : response.json? = some payload)
      (hnull : payload ≠ .null) : Brings (some response) payload

/-- The reply brings a document about the rune with the id. -/
def Tells (reply : Option Http.Response) (id : RuneId) : Prop :=
  ∃ payload, Brings reply payload ∧ HoldsRune payload id

/-- The reply brings a document whose entry escapes. -/
def Baffles (reply : Option Http.Response) (e : Failure) : Prop :=
  ∃ payload, Brings reply payload ∧ BadEntry payload e

/-- What a mismatch in a document about a rune is told as. -/
def blame (rune : SpacedRune) : Mismatch → Failure
  | .notAnObject => .mismatch .notAnObject
  | .tooLarge => .mismatch .tooLarge
  | _ => .index (.unexpectedRune rune)

/-- What an error in an entry is told as. -/
def blameEntry (rune : SpacedRune) : Entry.Error → Failure
  | .mismatch cause => blame rune cause
  | _ => .index (.unexpectedRune rune)

/-- What a lookup makes of a reply. -/
def found (server : IndexServer) (rune : SpacedRune) :
    Option Http.Response → Except Failure (Option (RuneId × Entry))
  | none => .error (.index (.unreachable server.url))
  | some response =>
    if response.status = 404 then .ok none
    else if response.isOk then
      match response.json? with
      | none => .error (.index (.malformedJson s!"/rune/{rune.rune.name}"))
      | some .null => .ok none
      | some payload => some <$> readRune rune payload
    else .error (.index (.httpStatus response.status s!"/rune/{rune.rune.name}"))

/-! ## The document -/

section

variable {rune : SpacedRune} {payload : Json}

theorem isIndex_blame (cause : Mismatch) : IsIndex (blame rune cause) ↔ Entry.Told cause := by
  cases cause with
  | notAnObject => exact iff_of_false nofun fun h => h.1 rfl
  | tooLarge => exact iff_of_false nofun fun h => h.2 rfl
  | _ => exact iff_of_true (.intro _) ⟨nofun, nofun⟩

theorem isIndex_blameEntry (e : Entry.Error) :
    IsIndex (blameEntry rune e) ↔ Entry.IsRefusal e := by
  cases e with
  | mismatch cause => exact isIndex_blame cause
  | _ => exact iff_of_true (.intro _) trivial

theorem readRune_eq : readRune rune payload = (do
    let name ← (payload.item "id").mapError (blame rune)
    let id ← (RuneId.ofText name.display).mapError fun _ => .index (.unexpectedRune rune)
    let data ← (payload.item "entry").mapError (blame rune)
    let entry ← (Entry.ofJson data).mapError (blameEntry rune)
    return (id, entry)) := by
  unfold readRune
  rfl

theorem settles_item (key : String) :
    Settles IsIndex (fun _ => False) ((payload.item key).mapError (blame rune)) := by
  have hitem : Settles Entry.Told (fun _ => False) (payload.item key) := by
    refine .of_refusal fun cause h => ?_
    unfold Json.item at h
    split at h
    · split at h
      · cases h
      · cases h
        exact ⟨nofun, nofun⟩
    · cases h
      exact ⟨nofun, nofun⟩
  refine (hitem.mapError isIndex_blame).iff fun e => iff_of_false ?_ id
  rintro ⟨_, hnever, -⟩
  exact hnever

theorem settles_id (text : String) : Settles IsIndex (fun _ => False)
    ((RuneId.ofText text).mapError fun _ => .index (.unexpectedRune rune)) := by
  refine .of_refusal fun e h => ?_
  obtain ⟨_, -, rfl⟩ := error_of_mapError h
  exact .intro _

/-- What escapes from an entry is told as it is. -/
theorem blameEntry_of_escapes {data : Json} {e : Entry.Error} (h : Entry.Escapes data e) :
    ∃ cause, e = .mismatch cause ∧ blameEntry rune e = .mismatch cause := by
  obtain ⟨_, _, _, -, -, hpart⟩ := h
  cases hpart <;> exact ⟨_, rfl, rfl⟩

theorem settles_readRune : Settles IsIndex (BadEntry payload) (readRune rune payload) := by
  rw [readRune_eq]
  refine (Settles.bind (settles_item "id") fun name _ => Settles.bind (settles_id name.display)
    fun runeId _ => Settles.bind (settles_item "entry") fun data _ =>
    ((Entry.settles_ofJson data).mapError isIndex_blameEntry).andThen
      fun entry => .ok fun _ => id).iff fun e => ?_
  simp only [false_or, mapError_eq_ok_iff]
  constructor
  · rintro ⟨name, hname, id, hid, data, hdata, _, h, rfl⟩
    obtain ⟨cause, rfl, hblame⟩ := blameEntry_of_escapes h
    rw [hblame]
    exact .intro hname hid hdata h
  · rintro ⟨hname, hid, hdata, h⟩
    obtain ⟨cause, hcause, hblame⟩ := blameEntry_of_escapes h
    cases hcause
    exact ⟨_, hname, _, hid, _, hdata, _, h, hblame.symm⟩

theorem readRune_eq_ok_iff {id : RuneId} {entry : Entry} :
    readRune rune payload = .ok (id, entry) ↔ ∃ name data, payload.item "id" = .ok name
      ∧ RuneId.ofText name.display = .ok id ∧ payload.item "entry" = .ok data
      ∧ Entry.ofJson data = .ok entry := by
  rw [readRune_eq]
  constructor
  · intro h
    obtain ⟨name, hname, h⟩ := exists_ok_of_bind h
    obtain ⟨id', hid, h⟩ := exists_ok_of_bind h
    obtain ⟨data, hdata, h⟩ := exists_ok_of_bind h
    obtain ⟨entry', hentry, h⟩ := exists_ok_of_bind h
    cases h
    exact ⟨name, data, mapError_eq_ok_iff.1 hname, mapError_eq_ok_iff.1 hid,
      mapError_eq_ok_iff.1 hdata, mapError_eq_ok_iff.1 hentry⟩
  · rintro ⟨name, data, hname, hid, hdata, hentry⟩
    simp only [bind, Except.bind, hname, hid, hdata, hentry, Except.mapError]
    rfl

/-- What is read of an entry has a divisibility in range. -/
theorem divisibility_of_readRune {id : RuneId} {entry : Entry}
    (h : readRune rune payload = .ok (id, entry)) : entry.divisibility ≤ Entry.maxDivisibility := by
  obtain ⟨_, data, -, -, -, hentry⟩ := readRune_eq_ok_iff.1 h
  exact (Entry.runs_ofJson data).yields entry hentry

theorem exists_readRune_iff {id : RuneId} :
    (∃ entry, readRune rune payload = .ok (id, entry)) ↔ HoldsRune payload id := by
  simp only [readRune_eq_ok_iff]
  constructor
  · rintro ⟨entry, name, data, hname, hid, hdata, hentry⟩
    exact .intro hname hid hdata (Entry.exists_ofJson_iff.1 ⟨entry, hentry⟩)
  · rintro ⟨hname, hid, hdata, hparts⟩
    obtain ⟨entry, hentry⟩ := Entry.exists_ofJson_iff.2 hparts
    exact ⟨entry, _, _, hname, hid, hdata, hentry⟩

end

/-! ## The reply -/

/-- What holds of the outcome of a lookup, by its reply. -/
structure Judged (reply : Option Http.Response)
    (result : Except Failure (Option (RuneId × Entry))) : Prop where
  nothing : result = .ok none ↔ SaysNothing reply
  known : ∀ id, (∃ entry, result = .ok (some (id, entry))) ↔ Tells reply id
  valid : ∀ id entry, result = .ok (some (id, entry)) →
    entry.divisibility ≤ Entry.maxDivisibility
  settles : Settles IsIndex (Baffles reply) result

section

variable {server : IndexServer} {rune : SpacedRune} {reply : Option Http.Response}
  {payload : Json}

theorem Brings.unique {payload' : Json} (h : Brings reply payload) (h' : Brings reply payload') :
    payload = payload' := by
  obtain ⟨-, -, hjson, -⟩ := h
  obtain ⟨-, -, hjson', -⟩ := h'
  exact Option.some.inj (hjson.symm.trans hjson')

theorem Brings.not_saysNothing (h : Brings reply payload) : ¬ SaysNothing reply := by
  obtain ⟨hstatus, -, hjson, hnull⟩ := h
  rintro (hnone | ⟨-, hjson'⟩)
  · exact hstatus hnone
  · exact hnull (Option.some.inj (hjson.symm.trans hjson'))

/-- Without a document nothing is known, and nothing baffles. -/
theorem judged_of_not_brings {result : Except Failure (Option (RuneId × Entry))}
    (hbrings : ∀ payload, ¬ Brings reply payload) (hnothing : result = .ok none ↔ SaysNothing reply)
    (hresult : result = .ok none ∨ ∃ cause, result = .error (.index cause)) :
    Judged reply result := by
  have htells (id : RuneId) : ¬ Tells reply id := fun ⟨payload, h, _⟩ => hbrings payload h
  have hbaffles (e : Failure) : ¬ Baffles reply e := fun ⟨payload, h, _⟩ => hbrings payload h
  have hunknown (id : RuneId) (entry : Entry) : result ≠ .ok (some (id, entry)) := by
    rcases hresult with rfl | ⟨cause, rfl⟩ <;> exact fun h => nomatch h
  refine ⟨hnothing, fun id => iff_of_false ?_ (htells id), fun id entry h => ?_, ?_⟩
  · rintro ⟨entry, h⟩
    exact hunknown id entry h
  · exact absurd h (hunknown id entry)
  · rcases hresult with rfl | ⟨cause, rfl⟩
    · exact .ok hbaffles
    · exact .refused (.intro cause) hbaffles

/-- An error of the index is told of a reply that says neither that nothing is known nor brings a
document. -/
theorem judged_error (cause : IndexError) (hnothing : ¬ SaysNothing reply)
    (hbrings : ∀ payload, ¬ Brings reply payload) : Judged reply (.error (.index cause)) :=
  judged_of_not_brings hbrings (iff_of_false nofun hnothing) (.inr ⟨cause, rfl⟩)

theorem judged_nothing (hnothing : SaysNothing reply) : Judged reply (.ok none) :=
  judged_of_not_brings (fun _ h => h.not_saysNothing hnothing) (iff_of_true rfl hnothing) (.inl rfl)

theorem map_some_eq_ok_iff {α : Type} {result : Except Failure α} {x : α} :
    some <$> result = .ok (some x) ↔ result = .ok x := by
  cases result with
  | error e => exact iff_of_false nofun nofun
  | ok y => exact ⟨fun h => by cases h; rfl, fun h => by cases h; rfl⟩

/-- A document is read as it is, if the reply brings one. -/
theorem judged_readRune (h : Brings reply payload) :
    Judged reply (some <$> readRune rune payload) where
  nothing := by
    refine iff_of_false ?_ h.not_saysNothing
    cases readRune rune payload <;> exact nofun
  known id := by
    simp only [map_some_eq_ok_iff, exists_readRune_iff]
    constructor
    · exact fun hholds => ⟨payload, h, hholds⟩
    · rintro ⟨payload', hbrings, hholds⟩
      rwa [h.unique hbrings]
  valid id entry hread := divisibility_of_readRune (map_some_eq_ok_iff.1 hread)
  settles := by
    refine settles_readRune.map.iff fun e => ?_
    constructor
    · exact fun hbad => ⟨payload, h, hbad⟩
    · rintro ⟨payload', hbrings, hbad⟩
      rwa [h.unique hbrings]

theorem judged_found (reply : Option Http.Response) : Judged reply (found server rune reply) := by
  cases reply with
  | none => exact judged_error _ id nofun
  | some response =>
    rw [found]
    by_cases hstatus : response.status = 404
    · rw [if_pos hstatus]
      exact judged_nothing (.inl hstatus)
    rw [if_neg hstatus]
    by_cases hok : response.isOk = true
    · rw [if_pos hok]
      cases hjson : response.json? with
      | none =>
        refine judged_error _ ?_ ?_
        · rintro (h | ⟨-, h⟩)
          · exact hstatus h
          · rw [hjson] at h
            cases h
        · rintro payload ⟨-, -, hjson', -⟩
          rw [hjson] at hjson'
          cases hjson'
      | some payload =>
        by_cases hnull : payload = .null
        · rw [hnull] at hjson ⊢
          exact judged_nothing (.inr ⟨hok, hjson⟩)
        · have hread : Judged (some response) (some <$> readRune rune payload) :=
            judged_readRune (.intro hstatus hok hjson hnull)
          cases payload with
          | null => exact absurd rfl hnull
          | _ => exact hread
    · rw [if_neg hok]
      refine judged_error _ ?_ ?_
      · rintro (h | ⟨h, -⟩)
        · exact hstatus h
        · exact hok h
      · rintro payload ⟨-, hok', -⟩
        exact hok hok'

end

/-! ## The lookup -/

/-- The request for the document about a rune. -/
def query (server : IndexServer) (rune : SpacedRune) : Http.Query :=
  ⟨server.url ++ s!"/rune/{rune.rune.name}", "application/json", timeout⟩

variable (around : Behaviour) (server : IndexServer) (rune : SpacedRune)

/-- A result that is known is mapped without a call. -/
theorem map_given {α β : Type} {f : α → β} (result : Except Failure α) :
    f <$> (ExceptT.mk (pure result) : Action Observed α) = ExceptT.mk (pure (f <$> result)) := by
  cases result <;> rfl

/-- A lookup is one request and what is made of its reply. -/
theorem lookup_eq : lookup around.transport server rune = (do
    let reply ← around.transport.get (server.query rune)
    ExceptT.mk (pure (found server rune reply))) := by
  unfold lookup getJson get
  simp only [bind_assoc]
  congr 1
  funext reply
  cases reply with
  | none => rfl
  | some response =>
    rw [found]
    by_cases hstatus : response.status = 404
    · simp only [if_pos hstatus]
      rfl
    · simp only [if_neg hstatus]
      cases hok : response.isOk with
      | false => rfl
      | true =>
        simp only [Bool.not_true, if_neg Bool.false_ne_true, if_true, pure_bind]
        cases response.json? with
        | none => rfl
        | some payload =>
          cases payload with
          | null => rfl
          | _ =>
            rw [pure_bind]
            exact map_given (readRune rune _)

theorem leads_lookup : Leads (lookup around.transport server rune) fun made result =>
    ∃ reply, made = [⟨.get (server.query rune), reply⟩] ∧ result = found server rune reply := by
  rw [lookup_eq]
  exact .asked fun history => .result ⟨_, rfl, rfl⟩

/-- A lookup makes one request, and its reply alone decides: nothing is known exactly if the reply
says so, a rune is known exactly if the reply tells about it, what is known is valid, and any other
outcome is an error of the index, unless the entry in the reply escapes the reader. -/
theorem judged_lookup (world : World) :
    ∃ reply, made (lookup around.transport server rune) world
        = [⟨.get (server.query rune), reply⟩]
      ∧ Judged reply (lookup around.transport server rune world).1 := by
  obtain ⟨-, reply, hmade, hresult⟩ := (leads_lookup around server rune).made world
  refine ⟨reply, hmade, ?_⟩
  rw [hresult]
  exact judged_found reply

/-! ## Two documents that escape -/

/-- The index has one document about every rune, whose entry is the text. -/
def entryAnswers (entry : String) (history : History) : (call : Call) → call.Answer
  | .get _ => some ⟨200, "\x7b\"id\":\"840000:1\",\"entry\":" ++ entry ++ "\x7d"⟩
  | call => Mint.localAnswers history call

def localServer : IndexServer :=
  ⟨"http://127.0.0.1:80", Mint.localNode⟩

/-- The mismatch that a result ends with. -/
def mismatch? {α : Type} : Except Failure α → Option Mismatch
  | .error (.mismatch cause) => some cause
  | _ => none

theorem Judged.baffles {reply : Option Http.Response} {cause : Mismatch}
    {result : Except Failure (Option (RuneId × Entry))} (h : Judged reply result)
    (hresult : mismatch? result = some cause) : Baffles reply (.mismatch cause) := by
  unfold mismatch? at hresult
  split at hresult
  · cases hresult
    exact (settles_iff.1 h.settles _).2 ⟨rfl, nofun⟩
  · cases hresult

/-- An entry that is a list, and one whose block is an infinity, baffle the lookup. -/
theorem lookup_baffled :
    (∃ reply, made (lookup (Behaviour.transport (entryAnswers "[]")) localServer
          Mint.openRequest.rune) ⟨[], none⟩
        = [⟨.get (localServer.query Mint.openRequest.rune), reply⟩]
      ∧ Baffles reply (.mismatch .notAnObject))
    ∧ ∃ reply, made (lookup (Behaviour.transport
          (entryAnswers "\x7b\"block\":Infinity\x7d")) localServer
          Mint.openRequest.rune) ⟨[], none⟩
        = [⟨.get (localServer.query Mint.openRequest.rune), reply⟩]
      ∧ Baffles reply (.mismatch .tooLarge) := by
  constructor
  · obtain ⟨reply, hmade, hjudged⟩ := judged_lookup (entryAnswers "[]") localServer
      Mint.openRequest.rune ⟨[], none⟩
    exact ⟨reply, hmade, hjudged.baffles (by decide +kernel)⟩
  · obtain ⟨reply, hmade, hjudged⟩ := judged_lookup (entryAnswers "\x7b\"block\":Infinity\x7d")
      localServer Mint.openRequest.rune ⟨[], none⟩
    exact ⟨reply, hmade, hjudged.baffles (by decide +kernel)⟩

end Runesmith.IndexServer
