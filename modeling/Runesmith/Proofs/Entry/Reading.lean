import Runesmith.Entry
import Runesmith.Proofs.Results

/-!
# Reading entries

The index's document about a rune is read part by part, and the first part that cannot be read
decides about the error.

* `parts` lists the parts of a document in the order in which they are read, and `Part.check` reads
  one of them; `Runs` says that something is read by running through parts.
* `runs_ofJson`: an entry is read so, and its divisibility is in range.
* `exists_ofJson_iff`: it is read exactly if all parts are.
* `settles_ofJson`: a document is read or refused, unless the first part that cannot be read should
  have members and has none, or should be a whole number and is an infinity.
-/

namespace Runesmith.Entry

/-- A mismatch that is told: not that of something without members, nor that of an infinity. -/
def Told (cause : Mismatch) : Prop :=
  cause ≠ .notAnObject ∧ cause ≠ .tooLarge

/-- An error that says what is wrong with a document about a rune. -/
def IsRefusal : Error → Prop
  | .mismatch cause => Told cause
  | _ => True

/-! ## Parts -/

/-- One thing that is read from a document. -/
inductive Part where
  /-- Something with members. -/
  | members (value : Json)
  /-- A member that is not there. -/
  | absent (key : String)
  | whole (value : Json)
  | divisibility (value : Json)
  | name (value : Json)
  | pair (value : Json)

/-- Reads a part. -/
def Part.check : Part → Except Error Unit
  | .members value => (value.members.mapError .mismatch).map fun _ => ()
  | .absent key => .error (.mismatch (.missingKey key))
  | .whole value => (value.toInteger.mapError .mismatch).map fun _ => ()
  | .divisibility value => do
    let n ← value.toInteger.mapError .mismatch
    if n < 0 ∨ maxDivisibility < n then throw (.divisibility n)
  | .name value => ((SpacedRune.ofText value.display).mapError .rune).map fun _ => ()
  | .pair value => (value.pair.mapError .mismatch).map fun _ => ()

/-- The part is of a kind that it should not be, and this is not refused. -/
inductive Part.Escapes : Part → Error → Prop where
  | members {value : Json} (h : ∀ members, value ≠ .obj members) :
      Escapes (.members value) (.mismatch .notAnObject)
  | whole (negative : Bool) : Escapes (.whole (.float (.infinite negative))) (.mismatch .tooLarge)
  | divisibility (negative : Bool) :
      Escapes (.divisibility (.float (.infinite negative))) (.mismatch .tooLarge)

/-- The value of a member, or a default. -/
def member (members : List (String × Json)) (key : String) (default : Json) : Json :=
  (Json.find? members key).getD default

/-- A part that has to be there. -/
def required (part : Json → Part) (members : List (String × Json)) (key : String) : List Part :=
  match Json.find? members key with
  | some value => [part value]
  | none => [.absent key]

/-- A whole number that may be null. -/
def optional (value : Json) : List Part :=
  if value.isNull then [] else [.whole value]

/-- Two bounds, unless the value is empty. -/
def bounds (value : Json) : List Part :=
  if value.isTruthy then
    .pair value :: match value.pair with
      | .ok (start, stop) => optional start ++ optional stop
      | .error _ => []
  else []

/-- The parts of terms that are not empty. -/
def termsParts (value : Json) : List Part :=
  .members value :: match value with
    | .obj members => optional (member members "amount" .null)
        ++ (optional (member members "cap" .null)
        ++ (bounds (member members "height" .null)
        ++ bounds (member members "offset" .null)))
    | _ => []

/-- The parts of an object, in the order in which they are read. -/
def objectParts (members : List (String × Json)) : List Part :=
  let terms := member members "terms" .null
  .divisibility (member members "divisibility" (.int 0))
    :: (required .whole members "block"
    ++ (required .name members "spaced_rune"
    ++ (.whole (member members "mints" (.int 0))
    :: .whole (member members "number" (.int 0))
    :: .whole (member members "premine" (.int 0))
    :: .whole (member members "burned" (.int 0))
    :: ((if terms.isTruthy then termsParts terms else [])
    ++ [.whole (member members "timestamp" (.int 0))]))))

/-- The parts of a document. -/
def parts (data : Json) : List Part :=
  .members data :: match data with
    | .obj members => objectParts members
    | _ => []

/-- The first part that cannot be read escapes. -/
def Escapes (data : Json) (e : Error) : Prop :=
  ∃ before part after, parts data = before ++ part :: after
    ∧ (∀ earlier ∈ before, earlier.check = .ok ()) ∧ part.Escapes e

/-! ## One part -/

/-- The value is an infinity where a whole number should be. -/
inductive Infinite : Json → Mismatch → Prop where
  | intro (negative : Bool) : Infinite (.float (.infinite negative)) .tooLarge

theorem settles_integerText (text : String) :
    Settles Told (fun _ => False) (Numeral.toInteger text) := by
  refine .of_refusal fun cause h => ?_
  unfold Numeral.toInteger at h
  split at h
  · cases h
  · split at h
    · dsimp only at h
      split at h <;> cases h <;> exact ⟨nofun, nofun⟩
    · cases h
      exact ⟨nofun, nofun⟩

theorem settles_toInteger (value : Json) : Settles Told (Infinite value) value.toInteger := by
  cases value with
  | bool b => exact .ok nofun
  | int n => exact .ok nofun
  | float x =>
    cases x with
    | nan => exact .refused ⟨nofun, nofun⟩ nofun
    | infinite negative =>
      refine .escaped (fun h => h.2 rfl) fun cause => ?_
      constructor
      · rintro ⟨⟩
        rfl
      · rintro rfl
        exact .intro negative
    | finite negative m e => exact .ok nofun
  | str s => exact (settles_integerText s).iff fun cause => iff_of_false id nofun
  | _ => exact .refused ⟨nofun, nofun⟩ nofun

theorem settles_members (value : Json) :
    Settles Told (fun cause => cause = .notAnObject ∧ ∀ members, value ≠ .obj members)
      value.members := by
  cases value with
  | obj members => exact .ok fun cause h => h.2 members rfl
  | _ => exact .escaped (fun h => h.1 rfl) fun cause => and_iff_left nofun

theorem settles_pair (value : Json) : Settles Told (fun _ => False) value.pair := by
  have helements : Settles Told (fun _ => False) value.elements := by
    refine .of_refusal fun cause h => ?_
    cases value <;> cases h <;> exact ⟨nofun, nofun⟩
  refine helements.andThen fun items => ?_
  split
  · exact .ok fun _ => id
  · exact .refused ⟨nofun, nofun⟩ fun _ => id
  · exact .refused ⟨nofun, nofun⟩ fun _ => id
  · exact .refused ⟨nofun, nofun⟩ fun _ => id

theorem settles_mismatch {α : Type} {escapes : Mismatch → Prop} {result : Except Mismatch α}
    (h : Settles Told escapes result) :
    Settles IsRefusal (fun e => ∃ cause, escapes cause ∧ e = .mismatch cause)
      (result.mapError .mismatch) :=
  h.mapError fun _ => Iff.rfl

theorem settles_check (part : Part) : Settles IsRefusal part.Escapes part.check := by
  cases part with
  | members value =>
    refine (settles_mismatch (settles_members value)).map.iff fun e => ?_
    constructor
    · rintro ⟨_, ⟨rfl, h⟩, rfl⟩
      exact .members h
    · rintro ⟨h⟩
      exact ⟨_, ⟨rfl, h⟩, rfl⟩
  | absent key => exact .refused ⟨nofun, nofun⟩ nofun
  | whole value =>
    refine (settles_mismatch (settles_toInteger value)).map.iff fun e => ?_
    constructor
    · rintro ⟨_, ⟨negative⟩, rfl⟩
      exact .whole negative
    · rintro ⟨⟩
      exact ⟨_, .intro _, rfl⟩
  | divisibility value =>
    have hrange (n : Int) : Settles IsRefusal (fun _ => False)
        (if n < 0 ∨ maxDivisibility < n then throw (.divisibility n) else pure ()) := by
      split
      · exact .refused trivial fun _ => id
      · exact .ok fun _ => id
    refine ((settles_mismatch (settles_toInteger value)).andThen hrange).iff fun e => ?_
    constructor
    · rintro ⟨_, ⟨negative⟩, rfl⟩
      exact .divisibility negative
    · rintro ⟨⟩
      exact ⟨_, .intro _, rfl⟩
  | name value =>
    rw [Part.check]
    cases SpacedRune.ofText value.display with
    | error cause => exact .refused trivial nofun
    | ok rune => exact .ok nofun
  | pair value =>
    refine (settles_mismatch (settles_pair value)).map.iff fun e => iff_of_false ?_ nofun
    rintro ⟨_, hnever, -⟩
    exact hnever

/-! ## All parts -/

/-- Something is read by running through parts, and what is read has a property. -/
structure Runs {α : Type} (p : α → Prop) (parts : List Part) (result : Except Error α) : Prop where
  checks : result.map (fun _ => ()) = forM parts Part.check
  yields : ∀ x, result = .ok x → p x

/-- What is read has any property. -/
abbrev Any {α : Type} : α → Prop := fun _ => True

section

variable {α β : Type} {p : α → Prop} {q : β → Prop} {first rest : List Part}
  {result : Except Error α} {next : α → Except Error β} {members : List (String × Json)}

theorem forM_append_check (first rest : List Part) :
    forM (first ++ rest) Part.check
      = (forM first Part.check >>= fun _ => forM rest Part.check) :=
  List.forM_append

theorem Runs.pure {x : α} (h : p x) : Runs p [] (.ok x) where
  checks := rfl
  yields y hy := by
    cases hy
    exact h

theorem Runs.one {part : Part} (h : part.check = result.map fun _ => ()) :
    Runs Any [part] result where
  checks := by
    rw [List.forM_cons, h]
    cases result <;> rfl
  yields _ _ := trivial

/-- A part that can be read is passed. -/
theorem Runs.cons {part : Part} (hpart : part.check = .ok ()) (h : Runs p rest result) :
    Runs p (part :: rest) result where
  checks := by
    rw [List.forM_cons, hpart]
    exact h.checks
  yields := h.yields

/-- A part that cannot be read is the last. -/
theorem Runs.failed {part : Part} {e : Error} (hpart : part.check = .error e) :
    Runs p (part :: rest) (.error e) where
  checks := by
    rw [List.forM_cons, hpart]
    rfl
  yields := nofun

theorem Runs.map {f : α → β} (h : Runs p first result) : Runs Any first (f <$> result) where
  checks := by
    rw [← h.checks]
    cases result <;> rfl
  yields _ _ := trivial

/-- What is known needs no part. -/
theorem Runs.given {x : α} (hx : result = .ok x) (h : Runs q rest (next x)) :
    Runs q rest (result >>= next) := by
  rw [hx]
  exact h

theorem Runs.bind (h : Runs p first result) (hnext : ∀ x, p x → Runs q rest (next x)) :
    Runs q (first ++ rest) (result >>= next) where
  checks := by
    rw [forM_append_check, ← h.checks]
    cases hresult : result with
    | error e => rfl
    | ok x => exact (hnext x (h.yields x hresult)).checks
  yields y hy := by
    cases hresult : result with
    | error e =>
      rw [hresult] at hy
      cases hy
    | ok x =>
      rw [hresult] at hy
      exact (hnext x (h.yields x hresult)).yields y hy

theorem runs_integerMember (key : String) :
    Runs Any [.whole (member members key (.int 0))]
      ((integerMember (.obj members) key).mapError Error.mismatch) :=
  .one rfl

theorem runs_block : Runs Any (required .whole members "block")
    ((do (← (Json.obj members).item "block").toInteger).mapError Error.mismatch) := by
  rw [required, Json.item]
  cases Json.find? members "block" with
  | none => exact .one rfl
  | some value => exact .one rfl

theorem runs_name : Runs Any (required .name members "spaced_rune")
    (((Json.obj members).item "spaced_rune").mapError Error.mismatch >>= fun name =>
      (SpacedRune.ofText name.display).mapError .rune) := by
  rw [required, Json.item]
  cases Json.find? members "spaced_rune" with
  | none => exact .one rfl
  | some value => exact .one rfl

theorem mapError_bind {x : Except Mismatch α} {next : α → Except Mismatch β} :
    (x >>= next).mapError Error.mismatch
      = x.mapError Error.mismatch >>= fun a => (next a).mapError Error.mismatch := by
  cases x <;> rfl

theorem optionalInteger_eq (value : Json) : optionalInteger value =
    if value.isNull then .ok none else value.toInteger.map some := by
  cases value <;> rfl

theorem runs_optionalInteger (value : Json) :
    Runs Any (optional value) ((optionalInteger value).mapError Error.mismatch) := by
  rw [optional, optionalInteger_eq]
  split
  · exact .pure trivial
  · refine .one ?_
    rw [Part.check]
    cases value.toInteger <;> rfl

theorem runs_optionalPair (value : Json) :
    Runs Any (bounds value) ((optionalPair value).mapError Error.mismatch) := by
  rw [bounds, optionalPair]
  by_cases htruthy : value.isTruthy = true
  · rw [if_pos htruthy, htruthy, Bool.not_true, if_neg Bool.false_ne_true]
    cases hpair : value.pair with
    | error cause =>
      refine .one ?_
      rw [Part.check, hpair]
      rfl
    | ok both =>
      obtain ⟨start, stop⟩ := both
      have hcheck : (Part.pair value).check = .ok () := by
        rw [Part.check, hpair]
        rfl
      refine .cons hcheck ?_
      show Runs Any _ ((do return (← optionalInteger start, ← optionalInteger stop)).mapError
        Error.mismatch)
      rw [mapError_bind]
      refine .bind (runs_optionalInteger start) fun low _ => ?_
      rw [mapError_bind, ← List.append_nil (optional stop)]
      exact .bind (runs_optionalInteger stop) fun high _ => .pure trivial
  · rw [if_neg htruthy, Bool.eq_false_iff.2 htruthy]
    exact .pure trivial

theorem runs_termsOfJson (value : Json) :
    Runs Any (termsParts value) ((termsOfJson value).mapError Error.mismatch) := by
  cases value with
  | obj members =>
    refine .cons rfl ?_
    show Runs Any _ ((do
      let amount ← optionalInteger (member members "amount" .null)
      let cap ← optionalInteger (member members "cap" .null)
      let height ← optionalPair (member members "height" .null)
      let offset ← optionalPair (member members "offset" .null)
      return (⟨amount, cap, height, offset⟩ : Terms)).mapError Error.mismatch)
    rw [mapError_bind]
    refine .bind (runs_optionalInteger _) fun amount _ => ?_
    rw [mapError_bind]
    refine .bind (runs_optionalInteger _) fun cap _ => ?_
    rw [mapError_bind]
    refine .bind (runs_optionalPair _) fun height _ => ?_
    rw [mapError_bind, ← List.append_nil (bounds _)]
    exact .bind (runs_optionalPair _) fun offset _ => .pure trivial
  | _ => exact .one rfl

/-- Empty terms are passed over. -/
theorem runs_terms {value : Json} {next : Option Terms → Except Error β}
    (h : ∀ terms, Runs q rest (next terms)) :
    Runs q ((if value.isTruthy then termsParts value else []) ++ rest)
      (if value.isTruthy then do
        let terms ← some <$> (termsOfJson value).mapError Error.mismatch
        next terms
      else do
        let terms ← pure none
        next terms) := by
  split
  · exact .bind (runs_termsOfJson value).map fun terms _ => h terms
  · exact h none

/-- The divisibility is read first, and has to be in range. -/
theorem runs_divisibility {value : Json} {next : Int → Except Error β}
    (h : ∀ n : Int, 0 ≤ n → n ≤ maxDivisibility → Runs q rest (next n)) :
    Runs q (.divisibility value :: rest) (do
      let n ← value.toInteger.mapError .mismatch
      if n < 0 ∨ maxDivisibility < n then throw (.divisibility n)
      next n) := by
  cases hvalue : value.toInteger with
  | error cause =>
    refine .failed ?_
    rw [Part.check, hvalue]
    rfl
  | ok n =>
    have hcheck : (Part.divisibility value).check =
        if n < 0 ∨ maxDivisibility < n then .error (.divisibility n) else .ok () := by
      rw [Part.check, hvalue]
      rfl
    show Runs q _ (if n < 0 ∨ maxDivisibility < n then .error (.divisibility n) else next n)
    by_cases hout : n < 0 ∨ maxDivisibility < n
    · rw [if_pos hout] at hcheck ⊢
      exact .failed hcheck
    · rw [if_neg hout] at hcheck ⊢
      exact .cons hcheck (h n (by omega) (by omega))

theorem runs_ofJson_obj : Runs (·.divisibility ≤ maxDivisibility) (objectParts members)
    (ofJson (.obj members)) := by
  unfold ofJson objectParts
  refine .given rfl (runs_divisibility fun n hlow hhigh => ?_)
  refine .bind runs_block fun block _ => ?_
  rw [← bind_assoc]
  refine .bind runs_name fun name _ => .given rfl ?_
  refine .bind (runs_integerMember _) fun mints _ => ?_
  refine .bind (runs_integerMember _) fun number _ => ?_
  refine .bind (runs_integerMember _) fun premine _ => ?_
  refine .bind (runs_integerMember _) fun burned _ => .given rfl ?_
  refine runs_terms fun terms => ?_
  refine .bind (runs_integerMember _) fun timestamp _ => .given rfl ?_
  refine .pure ?_
  exact Int.toNat_le.2 hhigh

theorem runs_ofJson (data : Json) :
    Runs (·.divisibility ≤ maxDivisibility) (parts data) (ofJson data) := by
  cases data with
  | obj members => exact .cons rfl runs_ofJson_obj
  | _ => exact .failed rfl

end

/-- A document is read exactly if all its parts are. -/
theorem exists_ofJson_iff {data : Json} :
    (∃ entry, ofJson data = .ok entry) ↔ ∀ part ∈ parts data, part.check = .ok () := by
  rw [exists_ok_iff, (runs_ofJson data).checks, forM_eq_ok_iff]

/-- A document is read as an entry with a divisibility in range, or refused, unless its first part
that cannot be read escapes. -/
theorem settles_ofJson (data : Json) : Settles IsRefusal (Escapes data) (ofJson data) := by
  have hchecks := Settles.forM settles_check (parts data)
  rw [← (runs_ofJson data).checks] at hchecks
  exact hchecks.of_map

end Runesmith.Entry
