import Runesmith.Amount
import Runesmith.Proofs.Number.Figure

/-!
# Conversion of amounts

An amount is a figure and a denomination. Its product in sats is rounded before it is tested for
being whole.

* `Typed` says how an amount is written, and `Converts` what becomes of a figure: a product that
  has no more digits than are kept is converted exactly or refused, and any other product is taken
  for the one it is rounded to.
* `ofUnits_converts`: the conversion of one decimal.
* `figure_converts`: typed amounts and amounts of a document.
* `parse_hairline`: an amount that is not whole, and passes for a whole one.
-/

namespace Runesmith.Amount

open Decimal (HasPrecision RoundsTo limit)

/-! ## Conversion -/

/-- The outcome is the number of sats, or an error if that is not whole. -/
structure Exact (shown : String) (p : ℚ) (result : Except Error Nat) : Prop where
  ok : ∀ n, result = .ok n ↔ p = n
  error : (∀ n : ℕ, p ≠ n) → result = .error (.fraction shown)

/-- What becomes of so many sats. -/
structure Rounded (shown : String) (p r : ℚ) (result : Except Error Nat) : Prop where
  roundsTo : RoundsTo p r
  inside : r < limit → Exact shown r result
  beyond : limit ≤ r → result = .error (.arithmetic .overflow)

theorem wholeSats_exact (shown : String) {x : Numeral} (hx : x.negative = false) :
    Exact shown x.magnitude (wholeSats shown (.finite x)) := by
  rw [wholeSats, hx, Bool.false_and, if_neg (by decide)]
  cases hwhole : Decimal.wholeValue? x with
  | some sats =>
    have hvalue := Decimal.wholeValue?_eq_some_iff.1 hwhole
    refine ⟨fun n => ?_, fun hfraction => absurd hvalue (hfraction sats)⟩
    rw [hvalue, Nat.cast_inj, Except.ok.injEq]
  | none =>
    refine ⟨fun n => iff_of_false (by simp) fun hvalue => ?_, fun _ => rfl⟩
    rw [← Decimal.wholeValue?_eq_some_iff, hwhole] at hvalue
    cases hvalue

/-- A product is rounded before it is tested. -/
theorem ofUnits_rounded (unit : ℕ) (shown : String) {x : Numeral} (hx : x.negative = false) :
    ∃ r, Rounded shown (x.magnitude * unit) r (ofUnits unit shown (.finite x)) := by
  obtain ⟨r, hr, hfits⟩ := Decimal.product_spec unit x
  rw [ofUnits, Decimal.scale, ← Decimal.product]
  cases hfit : Decimal.fit (Decimal.product unit x) with
  | ok y =>
    rw [hfit] at hfits
    obtain ⟨rfl, hsign, hinside⟩ := hfits
    exact ⟨_, hr, fun _ => wholeSats_exact shown (hsign.trans hx),
      fun hbeyond => absurd hinside (not_lt.2 hbeyond)⟩
  | error fault =>
    rw [hfit] at hfits
    obtain ⟨rfl, hbeyond⟩ := hfits
    exact ⟨r, hr, fun hinside => absurd hinside (not_lt.2 hbeyond), fun _ => rfl⟩

/-- What becomes of a figure in units of so many sats. -/
structure Converts (figure : Figure) (unit : ℕ) (shown : String) (invalid : Error)
    (result : Except Error Nat) : Prop where
  exact : figure.IsHeld → HasPrecision (figure.value * unit) → figure.value * unit < limit →
    Exact shown (figure.value * unit) result
  rounded : figure.IsHeld → ∃ r, Rounded shown (figure.value * unit) r result
  unheld : ¬ figure.IsHeld → result = .error invalid

theorem converts_of_parse? {figure : Figure} {text : String} (htext : figure.Padded text)
    (unit : ℕ) (shown : String) (invalid : Error) :
    Converts figure unit shown invalid (match Decimal.parse? text with
      | some x => ofUnits unit shown x
      | none => .error invalid) := by
  have hrounded := ofUnits_rounded unit shown (x := figure.numeral) rfl
  rw [figure.magnitude_numeral] at hrounded
  rw [Figure.parse?_padded htext]
  by_cases hheld : figure.IsHeld
  · rw [if_pos (figure.isReadable_numeral.2 hheld)]
    refine ⟨fun _ hprecision hinside => ?_, fun _ => hrounded, fun hnot => absurd hheld hnot⟩
    obtain ⟨r, hr⟩ := hrounded
    have hself := hr.roundsTo.eq_of_hasPrecision hprecision
    rw [hself] at hr
    exact hr.inside hinside
  · rw [if_neg (mt figure.isReadable_numeral.1 hheld)]
    exact ⟨fun h => absurd h hheld, fun h => absurd h hheld, fun _ => rfl⟩

theorem ofBtc_converts {figure : Figure} {text : String} (htext : figure.Padded text) :
    Converts figure satsPerBtc (Text.quoted text) (.invalidBtc (Text.quoted text))
      (ofBtc (.str text)) := by
  have hconverts := converts_of_parse? htext satsPerBtc (Text.quoted text)
    (.invalidBtc (Text.quoted text))
  have hresult : ofBtc (.str text) = match Decimal.parse? text with
      | some x => ofUnits satsPerBtc (Text.quoted text) x
      | none => .error (.invalidBtc (Text.quoted text)) := by
    unfold ofBtc Json.display
    cases Decimal.parse? text <;> rfl
  rw [hresult]
  exact hconverts

/-! ## Typed amounts -/

/-- The text is the figure and the name of a unit, with blanks around both. -/
def Typed (figure : Figure) (unit raw : String) : Prop :=
  ∃ before between after, (∀ c ∈ before ++ between ++ after, Text.isBlank c = true)
    ∧ raw.toList = before ++ (figure.chars ++ between ++ unit.toList) ++ after

theorem isUnitLetter_of_denomination {name : String} {sats : ℕ}
    (h : denomination? name = some sats) :
    name.toList ≠ [] ∧ ∀ c ∈ name.toList, isUnitLetter c = true := by
  have hletters : name.toList ≠ [] ∧ name.toList.all isUnitLetter = true := by
    unfold denomination? at h
    split at h <;> first | decide | cases h
  rwa [List.all_eq_true] at hletters

theorem isUnitLetter_of_mem {figure : Figure} {c : Char} (h : c ∈ figure.chars) :
    isUnitLetter c = false := by
  have := Figure.toNat_of_mem h
  rw [isUnitLetter, decide_eq_false_iff_not]
  omega

theorem isUnitLetter_of_isBlank {c : Char} (h : Text.isBlank c = true) :
    isUnitLetter c = false := by
  simp only [Text.isBlank, Text.isNumeralBlank, Text.isInformationSeparator, Bool.or_eq_true,
    decide_eq_true_eq] at h
  rw [isUnitLetter, decide_eq_false_iff_not]
  split at h <;> simp only [decide_eq_true_eq] at h <;> omega

/-- The name of a unit, in any case, has letters only, and the blanks around it are none of them. -/
theorem isBlank_of_mem_unit {unit : String} {sats : ℕ}
    (h : denomination? (Text.lower unit) = some sats) {c : Char} (hc : c ∈ unit.toList) :
    Text.isBlank c = false := by
  by_contra hblank
  rw [Bool.not_eq_false] at hblank
  have hmem : c ∈ (Text.lower unit).toList := by
    rw [Text.lower, String.toList_ofList]
    exact Text.mem_lowerFrom_of_kept (Text.lowerChar_of_isBlank hblank) hc []
  have hletter := (isUnitLetter_of_denomination h).2 c hmem
  rw [isUnitLetter_of_isBlank hblank] at hletter
  cases hletter

/-- The names of units are ASCII text, so that none of their letters was a capital sigma. -/
theorem no_sigma_of_unit {unit : String} {sats : ℕ}
    (h : denomination? (Text.lower unit) = some sats) : Text.sigma ∉ unit.toList := by
  apply Text.no_sigma_of_isAscii_lower
  intro c hc
  have hletter := (isUnitLetter_of_denomination h).2 c hc
  rw [isUnitLetter, decide_eq_true_eq] at hletter
  omega

/-- Behind a character of another kind, the letters at the end are the name of the unit. -/
theorem split_unit {front name : List Char} (hfront : ∀ c ∈ front.getLast?, isUnitLetter c = false)
    (hname : ∀ c ∈ name, isUnitLetter c = true) :
    ((front ++ name).reverse.takeWhile isUnitLetter).reverse = name
      ∧ ((front ++ name).reverse.dropWhile isUnitLetter).reverse = front := by
  have hnone : front.reverse.dropWhile isUnitLetter = front.reverse :=
    Text.dropWhile_of_head fun c hc => hfront c (by rwa [List.head?_reverse] at hc)
  have hempty : front.reverse.takeWhile isUnitLetter = [] := by
    simpa [hnone] using List.takeWhile_append_dropWhile (p := isUnitLetter) (l := front.reverse)
  have hname' : ∀ c ∈ name.reverse, isUnitLetter c = true := by simpa using hname
  rw [List.reverse_append, List.takeWhile_append_of_pos hname', hempty, List.append_nil,
    List.dropWhile_append_of_pos hname', hnone, List.reverse_reverse, List.reverse_reverse]
  exact ⟨rfl, rfl⟩

section

variable {figure : Figure} {unit raw : String} {sats : ℕ}

/-- Lower-casing changes the unit only. -/
theorem lower_trim_typed (htyped : Typed figure unit raw)
    (hunit : denomination? (Text.lower unit) = some sats) :
    ∃ between, (∀ c ∈ between, Text.isBlank c = true)
      ∧ (Text.lower (Text.trim raw)).toList =
        figure.chars ++ between ++ (Text.lower unit).toList := by
  obtain ⟨before, between, after, hblank, hraw⟩ := htyped
  have hbetween (c : Char) (hc : c ∈ between) : Text.isBlank c = true := hblank c (by simp [hc])
  have hne : unit.toList ≠ [] := by
    intro hnil
    have := (isUnitLetter_of_denomination hunit).1
    rw [Text.lower, hnil] at this
    exact this rfl
  have htrim : Text.trimBy Text.isBlank raw.toList = figure.chars ++ between ++ unit.toList := by
    rw [hraw]
    refine Text.trimBy_padded (fun c hc => hblank c (by simp [hc]))
      (fun c hc => hblank c (by simp [hc])) (by simp [hne]) ?_ ?_
    · intro c hc
      rw [List.append_assoc, List.head?_append_of_ne_nil _ figure.chars_ne_nil] at hc
      exact Figure.isBlank_of_mem (List.mem_of_mem_head? hc)
    · intro c hc
      rw [List.getLast?_append_of_ne_nil _ hne] at hc
      exact isBlank_of_mem_unit hunit (List.mem_of_getLast? hc)
  have hkept : ∀ c ∈ figure.chars ++ between, Text.lowerChar c = [c] := by
    intro c hc
    rcases List.mem_append.1 hc with hfigure | hgap
    · exact Figure.lowerChar_of_mem hfigure
    · exact Text.lowerChar_of_isBlank (hbetween c hgap)
  have hunitSigma := no_sigma_of_unit hunit
  have hsigma : Text.sigma ∉ figure.chars ++ between ++ unit.toList := by
    intro hmem
    rcases List.mem_append.1 hmem with hfront | hname
    · exact Text.ne_sigma_of_kept (hkept _ hfront) rfl
    · exact hunitSigma hname
  have hfront : (figure.chars ++ between).flatMap Text.lowerChar = figure.chars ++ between :=
    (List.flatMap_congr hkept).trans (List.flatMap_singleton' _)
  refine ⟨between, hbetween, ?_⟩
  rw [Text.trim, htrim, Text.toList_lower_of_no_sigma (by rwa [String.toList_ofList]),
    String.toList_ofList, List.flatMap_append, hfront, Text.toList_lower_of_no_sigma hunitSigma]

theorem parse_converts (htyped : Typed figure unit raw)
    (hunit : denomination? (Text.lower unit) = some sats) :
    Converts figure sats (Text.quoted raw) (.invalid (Text.quoted raw)) (parse raw) := by
  obtain ⟨between, hbetween, hlower⟩ := lower_trim_typed htyped hunit
  obtain ⟨hname, hletters⟩ := isUnitLetter_of_denomination hunit
  have hfront : ∀ c ∈ figure.chars ++ between, isUnitLetter c = false := by
    intro c hc
    rcases List.mem_append.1 hc with hfigure | hblank
    · exact isUnitLetter_of_mem hfigure
    · exact isUnitLetter_of_isBlank (hbetween c hblank)
  obtain ⟨htail, hhead⟩ :=
    split_unit (fun c hc => hfront c (List.mem_of_getLast? hc)) hletters
  have hnumber : Text.trim (String.ofList (figure.chars ++ between)) =
      String.ofList figure.chars := by
    rw [Text.trim, String.toList_ofList, ← List.nil_append figure.chars,
      figure.trimBy_chars (by simp) hbetween, List.nil_append]
  have hpadded : figure.Padded (String.ofList figure.chars) :=
    ⟨[], [], by simp, by simp⟩
  have hresult : parse raw = match Decimal.parse? (String.ofList figure.chars) with
      | some x => ofUnits sats (Text.quoted raw) x
      | none => .error (.invalid (Text.quoted raw)) := by
    unfold parse
    dsimp only
    rw [hlower, htail, hhead, hnumber, String.ofList_toList, hunit, if_neg]
    · cases Decimal.parse? (String.ofList figure.chars) <;> rfl
    · rwa [String.isEmpty_iff, ← String.toList_eq_nil_iff]
  rw [hresult]
  exact converts_of_parse? hpadded sats (Text.quoted raw) (.invalid (Text.quoted raw))

end

/-- A figure with the name of a unit, and a figure of BTC in a document, are converted by the same
rule: exactly or not at all, once the product is rounded. -/
theorem figure_converts (figure : Figure) :
    (∀ unit raw sats, Typed figure unit raw → denomination? (Text.lower unit) = some sats →
      Converts figure sats (Text.quoted raw) (.invalid (Text.quoted raw)) (parse raw))
    ∧ ∀ text, figure.Padded text →
      Converts figure satsPerBtc (Text.quoted text) (.invalidBtc (Text.quoted text))
        (ofBtc (.str text)) :=
  ⟨fun _ _ _ htyped hunit => parse_converts htyped hunit, fun _ hpadded => ofBtc_converts hpadded⟩

/-- A figure of a few BTC, with some decimals, is read. -/
theorem isHeld_of_lt {figure : Figure} (hlast : figure.decimals.length ≤ 100)
    (hfirst : figure.value * satsPerBtc < 10 ^ 9) : figure.IsHeld := by
  have hvalue : figure.value < 10 ^ (1 : ℤ) := by
    rw [satsPerBtc] at hfirst
    norm_num at hfirst ⊢
    linarith
  refine ⟨by rw [Decimal.minReadExponent]; omega, hvalue.trans_le ?_⟩
  exact zpow_le_zpow_right₀ (by norm_num) (by decide)

theorem lt_limit_of_lt {p : ℚ} (h : p < 10 ^ 9) : p < limit :=
  h.trans_le (zpow_le_zpow_right₀ (m := 9) (by norm_num) (by decide))

/-- A small figure that is whole in sats. -/
def crumb : Figure :=
  ⟨['0'], some "0001".toList, List.all_eq_true.1 (by decide), by decide⟩

theorem crumb_product : crumb.value * satsPerBtc = 10000 := by
  have hwhole : Numeral.ofDigits crumb.whole = 0 := by decide
  have hdecimals : Numeral.ofDigits crumb.decimals = 1 := by decide
  have hlength : crumb.decimals.length = 4 := by decide
  rw [Figure.value, hwhole, hdecimals, hlength, satsPerBtc]
  norm_num

/-- A little more than one, in the twenty-ninth decimal. -/
def hairline : Figure :=
  ⟨['1'], some "00000000000000000000000000001".toList, List.all_eq_true.1 (by decide), by decide⟩

theorem hairline_product : hairline.value * satsPerBtc = 10 ^ 8 + 1 / 10 ^ 21 := by
  have hwhole : Numeral.ofDigits hairline.whole = 1 := by decide
  have hdecimals : Numeral.ofDigits hairline.decimals = 1 := by decide
  have hlength : hairline.decimals.length = 29 := by decide
  rw [Figure.value, hwhole, hdecimals, hlength, satsPerBtc]
  norm_num

theorem hairline_not_whole (n : ℕ) : hairline.value * satsPerBtc ≠ n := by
  intro heq
  rw [hairline_product] at heq
  have hnat : 10 ^ 29 + 1 = 10 ^ 21 * n := by
    field_simp at heq
    exact_mod_cast heq
  omega

theorem hairline_roundsTo : RoundsTo (hairline.value * satsPerBtc) (10 ^ 8) := by
  rw [hairline_product]
  refine ⟨-19, 10 ^ 27, ⟨⟨by decide, ?_⟩, ?_⟩, Decimal.isNearest_of_lt ?_, ?_⟩
  · norm_num [Decimal.precision]
  · rintro k ⟨-, hlt⟩
    have hpower : (10 : ℚ) ^ (8 : ℤ) < 10 ^ (k + Decimal.precision) :=
      lt_trans (by norm_num) hlt
    have := (zpow_lt_zpow_iff_right₀ (by norm_num : (1 : ℚ) < 10)).1 hpower
    simp only [Decimal.precision] at this
    omega
  · norm_num [abs_of_pos]
  · norm_num

/-- An amount that is whole, and one that is not: what rounding cuts off is not seen by the test,
and this one is taken for one BTC. -/
theorem parse_hairline :
    parse " 0.0001 BTC" = .ok 10000
      ∧ Typed hairline "btc" "1.00000000000000000000000000001btc"
      ∧ (∀ n : ℕ, hairline.value * satsPerBtc ≠ n)
      ∧ parse "1.00000000000000000000000000001btc" = .ok 100000000
      ∧ ofBtc (.str " 1.00000000000000000000000000001 ") = .ok 100000000 := by
  have hcrumb : parse " 0.0001 BTC" = .ok 10000 := by
    have htyped : Typed crumb "BTC" " 0.0001 BTC" :=
      ⟨[' '], [' '], [], List.all_eq_true.1 (by decide), by decide⟩
    have hsmall : crumb.value * satsPerBtc < 10 ^ 9 := by rw [crumb_product]; norm_num
    have hprecision : HasPrecision (crumb.value * satsPerBtc) :=
      ⟨10000, 0, by decide, by decide, by rw [crumb_product]; norm_num⟩
    have hexact := ((figure_converts crumb).1 _ _ satsPerBtc htyped (by decide)).exact
      (isHeld_of_lt (by decide) hsmall) hprecision (lt_limit_of_lt hsmall)
    exact (hexact.ok 10000).2 (by rw [crumb_product]; norm_num)
  have htyped : Typed hairline "btc" "1.00000000000000000000000000001btc" :=
    ⟨[], [], [], List.all_eq_true.1 (by decide), by decide⟩
  have hpadded : hairline.Padded " 1.00000000000000000000000000001 " :=
    ⟨[' '], [' '], List.all_eq_true.1 (by decide), by decide⟩
  have hheld : hairline.IsHeld :=
    isHeld_of_lt (by decide) (by rw [hairline_product]; norm_num)
  have hrounded {shown : String} {result : Except Error ℕ}
      (h : ∃ r, Rounded shown (hairline.value * satsPerBtc) r result) :
      result = .ok 100000000 := by
    obtain ⟨r, hr⟩ := h
    obtain rfl := hr.roundsTo.unique hairline_roundsTo
    exact ((hr.inside (lt_limit_of_lt (by norm_num))).ok 100000000).2 (by norm_num)
  obtain ⟨hparse, hofBtc⟩ := figure_converts hairline
  exact ⟨hcrumb, htyped, hairline_not_whole,
    hrounded ((hparse _ _ _ htyped (by decide)).rounded hheld),
    hrounded ((hofBtc _ hpadded).rounded hheld)⟩

end Runesmith.Amount
