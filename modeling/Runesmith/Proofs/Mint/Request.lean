import Runesmith.Mint.Request
import Runesmith.Proofs.Amount.Faults
import Runesmith.Proofs.Number.Binary64

/-!
# Requests that are not refused

A request that cannot be read is refused, with an error that says why. Two conversions of numbers
are not refused where they fail: that of a whole number to a double, and that of a postage to sats.

* `settles_parse`: a fee rate is read or refused, unless it is a whole number without a double.
* `settles_ofJson`: an object is read as a request or refused, unless its fee rate is such a number,
  or the rest can be read and the product of the postage in BTC with the sats of one BTC does not
  exist.
* `settles_amounts_and_requests` puts this beside the conversion of amounts.

The errors show what they refuse. Limits that an interpreter sets on showing long whole numbers, and
on the depth to which the documents in a request are nested, are left out.
-/

namespace Runesmith

/-! ## Fee rates -/

namespace FeeRate

/-- The value is a whole number that is rounded to an infinity. -/
inductive Escapes : Json → Error → Prop where
  | intro {n : Int} (hlarge : (2 ^ 54 - 1) * 2 ^ 970 ≤ n.natAbs) : Escapes (.int n) .tooLarge

theorem ofDouble_ne_tooLarge {rate : Binary64} {e : Error} (h : ofDouble rate = .error e) :
    e ≠ .tooLarge := by
  rintro rfl
  unfold ofDouble at h
  split at h
  · split at h <;> cases h
  · cases h

theorem settles_ofDouble (rate : Binary64) :
    Settles (· ≠ .tooLarge) (fun _ => False) (ofDouble rate) :=
  .of_refusal fun _ h => ofDouble_ne_tooLarge h

/-- The fee rate of a whole number. -/
theorem parse_of_doubleOfInt {raw : Json} {n : Int} (h : raw.toDouble = Json.doubleOfInt n) :
    parse raw = if (Binary64.ofInt n).isFinite = true then ofDouble (.ofInt n)
      else .error .tooLarge := by
  rw [parse, h, Json.doubleOfInt]
  by_cases hfinite : (Binary64.ofInt n).isFinite = true
  · rw [if_pos hfinite, if_pos hfinite]
  · rw [if_neg hfinite, if_neg hfinite]

theorem not_escapes (raw : Json) (h : ∀ n, raw ≠ .int n) (e : Error) : ¬ Escapes raw e := by
  rintro ⟨-⟩
  exact h _ rfl

theorem settles_parse (raw : Json) : Settles (· ≠ .tooLarge) (Escapes raw) (parse raw) := by
  cases raw with
  | int n =>
    rw [parse_of_doubleOfInt rfl]
    by_cases hfinite : (Binary64.ofInt n).isFinite = true
    · rw [if_pos hfinite]
      refine (settles_ofDouble _).iff fun e => iff_of_false id ?_
      rintro ⟨hlarge⟩
      exact absurd (Binary64.isFinite_ofInt_iff.1 hfinite) (Nat.not_lt.2 hlarge)
    · rw [if_neg hfinite]
      refine .escaped (fun hne => hne rfl) fun e => ?_
      constructor
      · rintro ⟨-⟩
        rfl
      · rintro rfl
        exact .intro (Nat.not_lt.1 (mt Binary64.isFinite_ofInt_iff.2 hfinite))
  | bool b =>
    have hfinite : (Binary64.ofInt (if b then 1 else 0)).isFinite = true := by
      cases b <;> decide
    rw [parse_of_doubleOfInt rfl, if_pos hfinite]
    exact (settles_ofDouble _).iff fun e =>
      iff_of_false id (not_escapes (.bool b) (fun _ => nofun) e)
  | float x =>
    exact (settles_ofDouble x).iff fun e =>
      iff_of_false id (not_escapes (.float x) (fun _ => nofun) e)
  | str s =>
    rw [parse, Json.toDouble]
    cases Binary64.parse? s with
    | none => exact .refused nofun (not_escapes (.str s) fun _ => nofun)
    | some x =>
      exact (settles_ofDouble x).iff fun e =>
        iff_of_false id (not_escapes (.str s) (fun _ => nofun) e)
  | null => exact .refused nofun (not_escapes _ fun _ => nofun)
  | rough text => exact .refused nofun (not_escapes _ fun _ => nofun)
  | arr items => exact .refused nofun (not_escapes _ fun _ => nofun)
  | obj members => exact .refused nofun (not_escapes _ fun _ => nofun)

end FeeRate

/-! ## Requests -/

namespace MintRequest

/-- An error that says what is wrong with a request. -/
def IsRefusal : Error → Prop
  | .notAnObject _ => False
  | .missing _ => True
  | .feeRate cause => cause ≠ .tooLarge
  | .rune _ => True
  | .postage cause => Amount.IsRefusal cause

/-- The fee rate is too large for a double, or everything in front of the postage is read and the
postage in sats does not exist. -/
inductive Escapes (members : List (String × Json)) : Error → Prop where
  | feeRate {raw : Json} {e : FeeRate.Error} (hraw : Json.find? members "fee_rate" = some raw)
      (h : FeeRate.Escapes raw e) : Escapes members (.feeRate e)
  | postage {raw name value : Json} {rate : FeeRate} {rune : SpacedRune} {e : Amount.Error}
      (hraw : Json.find? members "fee_rate" = some raw) (hrate : FeeRate.parse raw = .ok rate)
      (hname : Json.find? members "rune" = some name)
      (hrune : SpacedRune.ofText name.display = .ok rune)
      (hvalue : Json.find? members "postage" = some value)
      (h : Amount.Escapes Amount.satsPerBtc value.display e) : Escapes members (.postage e)

/-- The postage of a request; null stands for none. -/
def postageIn : Json → Except Error (Option Nat)
  | .null => .ok none
  | value => some <$> (Amount.ofBtc value).mapError .postage

variable {members : List (String × Json)}

theorem ofJson_obj : ofJson (.obj members) = (do
    let raw ← required (.obj members) "fee_rate"
    let rate ← (FeeRate.parse raw).mapError .feeRate
    let name ← required (.obj members) "rune"
    let rune ← (SpacedRune.ofText name.display).mapError .rune
    let postage ← postageIn ((Json.find? members "postage").getD .null)
    let destination := (Json.find? members "destination").getD .null
    return ⟨rate, rune, postage,
      if destination.isNull then none else some destination.display⟩) := by
  unfold ofJson
  refine bind_congr fun raw => bind_congr fun rate =>
    bind_congr fun name => bind_congr fun rune => ?_
  -- Both ways, the postage is asked of the members before it is looked at.
  show (match (Json.find? members "postage").getD .null with
    | .null => _
    | value => _) = _
  cases (Json.find? members "postage").getD .null <;> rfl

theorem required_obj (key : String) : required (.obj members) key =
    match Json.find? members key with
    | some x => .ok x
    | none => .error (.missing key) := by
  rw [required, Json.item]
  cases Json.find? members key <;> rfl

theorem required_eq_ok_iff {key : String} {x : Json} :
    required (.obj members) key = .ok x ↔ Json.find? members key = some x := by
  rw [required_obj]
  cases Json.find? members key with
  | none => exact iff_of_false nofun nofun
  | some y => exact ⟨fun h => congrArg some (Except.ok.inj h), fun h => by cases h; rfl⟩

theorem settles_required (key : String) :
    Settles IsRefusal (fun _ => False) (required (.obj members) key) := by
  refine .of_refusal fun e h => ?_
  rw [required_obj] at h
  split at h <;> cases h
  trivial

theorem settles_feeRate (raw : Json) :
    Settles IsRefusal (fun e => ∃ cause, FeeRate.Escapes raw cause ∧ e = .feeRate cause)
      ((FeeRate.parse raw).mapError .feeRate) :=
  (FeeRate.settles_parse raw).mapError fun _ => Iff.rfl

theorem settles_rune (text : String) :
    Settles IsRefusal (fun _ => False) ((SpacedRune.ofText text).mapError .rune) := by
  refine .of_refusal fun e h => ?_
  cases hrune : SpacedRune.ofText text with
  | ok rune =>
    rw [hrune] at h
    cases h
  | error cause =>
    rw [hrune] at h
    cases h
    trivial

theorem not_escapes_null (e : Amount.Error) :
    ¬ Amount.Escapes Amount.satsPerBtc Json.null.display e := by
  rintro ⟨hread, -⟩
  have hnone : Decimal.parse? Json.null.display = none := by decide
  rw [hnone] at hread
  cases hread

theorem settles_btc (value : Json) : Settles IsRefusal
    (fun e => ∃ cause, Amount.Escapes Amount.satsPerBtc value.display cause ∧ e = .postage cause)
    ((Amount.ofBtc value).mapError .postage) :=
  (Amount.settles_ofBtc value).mapError fun _ => Iff.rfl

theorem settles_postageIn (value : Json) : Settles IsRefusal
    (fun e => ∃ cause, Amount.Escapes Amount.satsPerBtc value.display cause ∧ e = .postage cause)
    (postageIn value) := by
  cases value with
  | null => exact .ok fun e ⟨cause, h, _⟩ => not_escapes_null cause h
  | _ => exact (settles_btc _).map

theorem settles_pure (request : MintRequest) :
    Settles IsRefusal (fun _ => False) (pure request) :=
  .ok fun _ => id

theorem settles_ofJson (members : List (String × Json)) :
    Settles IsRefusal (Escapes members) (ofJson (.obj members)) := by
  rw [ofJson_obj]
  refine (Settles.bind (settles_required "fee_rate") fun raw _ =>
    Settles.bind (settles_feeRate raw) fun rate _ =>
    Settles.bind (settles_required "rune") fun name _ =>
    Settles.bind (settles_rune name.display) fun rune _ =>
    Settles.bind (settles_postageIn _) fun postage _ => settles_pure _).iff fun e => ?_
  simp only [false_or, and_false, exists_false, or_false, required_eq_ok_iff, mapError_eq_ok_iff]
  constructor
  · rintro ⟨raw, hraw,
      ⟨cause, hcause, rfl⟩ | ⟨rate, hrate, name, hname, rune, hrune, cause, h, rfl⟩⟩
    · exact .feeRate hraw hcause
    · cases hvalue : Json.find? members "postage" with
      | none =>
        rw [hvalue] at h
        exact absurd h (not_escapes_null cause)
      | some value =>
        rw [hvalue] at h
        exact .postage hraw hrate hname hrune hvalue h
  · rintro (⟨hraw, h⟩ | ⟨hraw, hrate, hname, hrune, hvalue, h⟩)
    · exact ⟨_, hraw, .inl ⟨_, h, rfl⟩⟩
    · rw [hvalue]
      exact ⟨_, hraw, .inr ⟨_, hrate, _, hname, _, hrune, _, h, rfl⟩⟩

/-- Amounts and requests are read or refused. What escapes else is the fault of a product that does
not exist, or the failure to make a double of a whole number. -/
theorem settles_amounts_and_requests (raw : String) (value : Json)
    (members : List (String × Json)) :
    Settles Amount.IsRefusal (Amount.TypedEscapes raw) (Amount.parse raw)
      ∧ Settles Amount.IsRefusal (Amount.Escapes Amount.satsPerBtc value.display)
        (Amount.ofBtc value)
      ∧ Settles IsRefusal (Escapes members) (ofJson (.obj members)) :=
  ⟨Amount.settles_parse raw, Amount.settles_ofBtc value, settles_ofJson members⟩

/-- A request whose fee rate has 401 digits. -/
def boundlessMembers : List (String × Json) :=
  [("fee_rate", .int (10 ^ 400 : ℕ)), ("rune", .str "ABCD")]

/-- One input of each kind for which something escapes. -/
theorem amounts_and_requests_escape :
    Amount.parse "1e999999btc" = .error (.arithmetic .overflow)
      ∧ Amount.parse "sNaN sat" = .error (.arithmetic .signalling)
      ∧ Amount.ofBtc (.str "1e999999") = .error (.arithmetic .overflow)
      ∧ ofJson (.obj boundlessMembers) = .error (.feeRate .tooLarge) := by
  obtain ⟨hparse, hofBtc, hofJson⟩ :=
    settles_amounts_and_requests "1e999999btc" (.str "1e999999") boundlessMembers
  obtain ⟨hparseSignal, -, -⟩ := settles_amounts_and_requests "sNaN sat" .null boundlessMembers
  have hfault : (Decimal.finite ⟨false, 1, 999999⟩).Faults Amount.satsPerBtc .overflow :=
    Decimal.scale_eq_error_iff.1 (by decide +kernel)
  have hbig : Amount.Escapes Amount.satsPerBtc "1e999999" (.arithmetic .overflow) :=
    .intro (by decide +kernel) hfault
  have hsignal : Amount.Escapes 1 "snan" (.arithmetic .signalling) :=
    .intro (by decide +kernel) .signalling
  have hsplitsBig : Amount.Splits "1e999999btc" "1e999999" "btc" :=
    ⟨"1e999999".toList, by decide +kernel, by simp [Amount.isUnitLetter],
      by simp [Amount.isUnitLetter], by decide +kernel⟩
  have hsplitsSignal : Amount.Splits "sNaN sat" "snan" "sat" :=
    ⟨"snan ".toList, by decide +kernel, by simp [Amount.isUnitLetter],
      by simp [Amount.isUnitLetter], by decide +kernel⟩
  refine ⟨hparse.eq_error (.intro hsplitsBig rfl hbig),
    hparseSignal.eq_error (.intro hsplitsSignal rfl hsignal), hofBtc.eq_error hbig,
    hofJson.eq_error (.feeRate rfl (.intro ?_))⟩
  rw [Int.natAbs_natCast]
  decide +kernel

end MintRequest

end Runesmith
