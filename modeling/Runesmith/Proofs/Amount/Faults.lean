import Runesmith.Proofs.Amount
import Runesmith.Proofs.Results

/-!
# Amounts that are not refused

An amount that cannot be converted is refused, but for one whose product with its denomination does
not exist: then the arithmetic fails, and its error is no refusal.

* `Splits` says what the number and the denomination of a typed amount are; every text has exactly
  one pair of them (`exists_splits`, `Splits.unique`).
* `settles_parse`, `settles_ofBtc`: typed amounts and amounts of a document are converted or refused
  unless the product does not exist.
-/

namespace Runesmith.Amount

/-- An error that says what is wrong with an amount. -/
def IsRefusal : Error → Prop
  | .arithmetic _ => False
  | _ => True

/-! ## Conversion of one decimal -/

theorem isRefusal_of_wholeSats {shown : String} {x : Decimal} {e : Error}
    (h : wholeSats shown x = .error e) : IsRefusal e := by
  cases x with
  | infinite negative =>
    cases h
    trivial
  | nan signalling =>
    cases h
    trivial
  | finite x =>
    rw [wholeSats] at h
    split at h
    · cases h
      trivial
    · split at h <;> cases h
      trivial

theorem settles_ofUnits (unit : ℕ) (shown : String) (x : Decimal) :
    Settles IsRefusal (fun e => ∃ fault, x.Faults unit fault ∧ e = .arithmetic fault)
      (ofUnits unit shown x) := by
  refine settles_iff.2 fun e => ?_
  rw [ofUnits]
  cases hscale : x.scale unit with
  | ok product =>
    refine iff_of_false ?_ ?_
    · rintro ⟨fault, hfault, -⟩
      rw [Decimal.scale_eq_error_iff.2 hfault] at hscale
      cases hscale
    · rintro ⟨herror, hforeign⟩
      exact hforeign (isRefusal_of_wholeSats herror)
  | error fault =>
    have hfault : x.Faults unit fault := Decimal.scale_eq_error_iff.1 hscale
    constructor
    · rintro ⟨fault', hfault', rfl⟩
      rw [hfault'.unique hfault]
      exact ⟨rfl, id⟩
    · rintro ⟨herror, -⟩
      cases herror
      exact ⟨fault, hfault, rfl⟩

/-- The number is read, and its product with so many units does not exist. -/
inductive Escapes (unit : ℕ) (number : String) : Error → Prop where
  | intro {x : Decimal} {fault : Decimal.Fault} (hread : Decimal.parse? number = some x)
      (hfault : x.Faults unit fault) : Escapes unit number (.arithmetic fault)

theorem settles_read (unit : ℕ) (number shown : String) {invalid : Error}
    (hinvalid : IsRefusal invalid) :
    Settles IsRefusal (Escapes unit number) (match Decimal.parse? number with
      | some x => ofUnits unit shown x
      | none => .error invalid) := by
  cases hread : Decimal.parse? number with
  | none =>
    refine .refused hinvalid ?_
    rintro e ⟨hsome, -⟩
    rw [hread] at hsome
    cases hsome
  | some x =>
    refine (settles_ofUnits unit shown x).iff fun e => ?_
    constructor
    · rintro ⟨fault, hfault, rfl⟩
      exact .intro hread hfault
    · rintro ⟨hsome, hfault⟩
      rw [hread] at hsome
      cases hsome
      exact ⟨_, hfault, rfl⟩

/-! ## Typed amounts -/

/-- The text in lower case, without the blanks around it, is a number, blanks and the letters of a
denomination. -/
def Splits (raw number unit : String) : Prop :=
  ∃ front, (Text.lower (Text.trim raw)).toList = front ++ unit.toList
    ∧ (∀ c ∈ front.getLast?, isUnitLetter c = false)
    ∧ (∀ c ∈ unit.toList, isUnitLetter c = true)
    ∧ number = Text.trim (String.ofList front)

/-- Any characters end in letters, perhaps in none. -/
theorem exists_letters (cs : List Char) : ∃ front name, cs = front ++ name
    ∧ (∀ c ∈ front.getLast?, isUnitLetter c = false) ∧ ∀ c ∈ name, isUnitLetter c = true := by
  refine ⟨(cs.reverse.dropWhile isUnitLetter).reverse, (cs.reverse.takeWhile isUnitLetter).reverse,
    ?_, ?_, ?_⟩
  · rw [← List.reverse_append, List.takeWhile_append_dropWhile, List.reverse_reverse]
  · intro c hc
    rw [List.getLast?_reverse] at hc
    have hhead := List.head?_dropWhile_not isUnitLetter cs.reverse
    rw [Option.mem_def.1 hc] at hhead
    exact hhead
  · intro c hc
    exact List.mem_takeWhile_imp (List.mem_reverse.1 hc)

theorem exists_splits (raw : String) : ∃ number unit, Splits raw number unit := by
  obtain ⟨front, name, htext, hfront, hname⟩ := exists_letters (Text.lower (Text.trim raw)).toList
  refine ⟨_, String.ofList name, front, ?_, hfront, ?_, rfl⟩
  · rwa [String.toList_ofList]
  · rwa [String.toList_ofList]

section

variable {raw number unit : String}

theorem Splits.unique {number' unit' : String} (h : Splits raw number unit)
    (h' : Splits raw number' unit') : number = number' ∧ unit = unit' := by
  obtain ⟨front, htext, hfront, hunit, rfl⟩ := h
  obtain ⟨front', htext', hfront', hunit', rfl⟩ := h'
  have hparts := split_unit hfront hunit
  have hparts' := split_unit hfront' hunit'
  rw [← htext'.symm.trans htext] at hparts
  obtain rfl : unit = unit' := String.toList_inj.1 (hparts.1.symm.trans hparts'.1)
  obtain rfl : front = front' := hparts.2.symm.trans hparts'.2
  exact ⟨rfl, rfl⟩

/-- What is made of the number and the denomination. -/
theorem parse_of_splits (h : Splits raw number unit) :
    parse raw = if unit.isEmpty then .error (.missingDenomination (Text.quoted raw))
      else match denomination? unit with
        | none => .error (.unknownDenomination unit (Text.quoted raw))
        | some sats => match Decimal.parse? number with
          | some x => ofUnits sats (Text.quoted raw) x
          | none => .error (.invalid (Text.quoted raw)) := by
  obtain ⟨front, htext, hfront, hunit, rfl⟩ := h
  obtain ⟨htail, hhead⟩ := split_unit hfront hunit
  unfold parse
  dsimp only
  rw [htext, htail, hhead, String.ofList_toList]
  split
  · rfl
  · cases denomination? unit with
    | none => rfl
    | some sats => cases Decimal.parse? (Text.trim (String.ofList front)) <;> rfl

/-- The text has a number and a denomination, and their product does not exist. -/
inductive TypedEscapes (raw : String) : Error → Prop where
  | intro {number unit : String} {sats : ℕ} {e : Error} (hsplits : Splits raw number unit)
      (hunit : denomination? unit = some sats) (h : Escapes sats number e) : TypedEscapes raw e

theorem not_typedEscapes (hsplits : Splits raw number unit) (hunit : denomination? unit = none)
    (e : Error) : ¬ TypedEscapes raw e := by
  rintro ⟨hsplits', hunit', -⟩
  rw [(hsplits.unique hsplits').2, hunit'] at hunit
  cases hunit

theorem typedEscapes_iff (hsplits : Splits raw number unit) {sats : ℕ}
    (hunit : denomination? unit = some sats) (e : Error) :
    Escapes sats number e ↔ TypedEscapes raw e := by
  constructor
  · exact .intro hsplits hunit
  · rintro ⟨hsplits', hunit', h⟩
    obtain ⟨rfl, rfl⟩ := hsplits.unique hsplits'
    rw [hunit] at hunit'
    cases hunit'
    exact h

end

theorem settles_parse (raw : String) : Settles IsRefusal (TypedEscapes raw) (parse raw) := by
  obtain ⟨number, unit, hsplits⟩ := exists_splits raw
  rw [parse_of_splits hsplits]
  by_cases hempty : unit.isEmpty = true
  · have hunit : denomination? unit = none := by
      rw [String.isEmpty_iff.1 hempty]
      rfl
    rw [if_pos hempty]
    exact .refused trivial (not_typedEscapes hsplits hunit)
  · rw [if_neg hempty]
    cases hunit : denomination? unit with
    | none => exact .refused trivial (not_typedEscapes hsplits hunit)
    | some sats =>
      have hinvalid : IsRefusal (.invalid (Text.quoted raw)) := trivial
      exact (settles_read sats number (Text.quoted raw) hinvalid).iff
        (typedEscapes_iff hsplits hunit)

/-! ## Amounts of a document -/

theorem settles_ofBtc (value : Json) :
    Settles IsRefusal (Escapes satsPerBtc value.display) (ofBtc value) := by
  have hresult : ofBtc value = match Decimal.parse? value.display with
      | some x => ofUnits satsPerBtc value.quoted x
      | none => .error (.invalidBtc value.quoted) := by
    unfold ofBtc
    cases Decimal.parse? value.display <;> rfl
  rw [hresult]
  have hinvalid : IsRefusal (.invalidBtc value.quoted) := trivial
  exact settles_read satsPerBtc value.display value.quoted hinvalid

end Runesmith.Amount
