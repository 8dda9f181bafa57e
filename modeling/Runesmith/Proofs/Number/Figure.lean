import Mathlib.Data.List.TakeWhile
import Runesmith.Proofs.Number.Decimal
import Runesmith.Proofs.Text

/-!
# Figures

Numbers as they are mostly typed: digits, perhaps with a point, no sign and no power of ten. A
`Figure` is such a number with its digits, however many, and `Figure.value` is what it stands for.

* `Numeral.ofDigits_append`, `magnitude_numeral`: the digits on both sides of the point together,
  read as one coefficient, have the value of the figure.
* `parse?_padded`: a figure with blanks around it is read exactly, unless its first or its last
  digit stands for an absurd power of ten.
-/

namespace Runesmith

/-- Digits put behind others move these to the front. -/
theorem Numeral.ofDigits_append (front back : List Char) :
    ofDigits (front ++ back) = ofDigits front * 10 ^ back.length + ofDigits back := by
  have hfold (cs : List Char) (n : Nat) :
      cs.foldl (fun n c => 10 * n + (c.toNat - 48)) n = n * 10 ^ cs.length + ofDigits cs := by
    unfold ofDigits
    induction cs generalizing n with
    | nil => simp
    | cons c rest ih =>
      rw [List.foldl_cons, List.foldl_cons, ih, ih (10 * 0 + (c.toNat - 48)), List.length_cons,
        Nat.pow_succ]
      ring
  rw [ofDigits, List.foldl_append, hfold]
  rfl

/-- ASCII digits, perhaps with a point among or beside them. -/
structure Figure where
  whole : List Char
  /-- The digits behind the point, if there is a point. -/
  fraction : Option (List Char)
  areDigits : ∀ c ∈ whole ++ fraction.getD [], Text.isAsciiDigit c = true
  notEmpty : whole ++ fraction.getD [] ≠ []

namespace Figure

variable (figure : Figure)

def decimals : List Char :=
  figure.fraction.getD []

/-- The figure as it is written. -/
def chars : List Char :=
  figure.whole ++ figure.fraction.elim [] ('.' :: ·)

/-- The number that the figure stands for. -/
def value : ℚ :=
  Numeral.ofDigits figure.whole + Numeral.ofDigits figure.decimals / 10 ^ figure.decimals.length

/-- All digits as one coefficient. -/
def numeral : Numeral :=
  ⟨false, Numeral.ofDigits (figure.whole ++ figure.decimals), -figure.decimals.length⟩

theorem magnitude_numeral : figure.numeral.magnitude = figure.value := by
  rw [Numeral.magnitude, value, numeral, Numeral.ofDigits_append]
  dsimp only
  rw [zpow_neg, zpow_natCast]
  push_cast
  field_simp

/-- No digit stands for a power of ten beyond those that are read. -/
structure IsHeld : Prop where
  last : (figure.decimals.length : ℤ) ≤ -Decimal.minReadExponent
  first : figure.value < 10 ^ (Decimal.maxReadPower + 1)

theorem isReadable_numeral : Decimal.isReadable figure.numeral = true ↔ figure.IsHeld := by
  have hfirst : figure.numeral.exponent + Numeral.digitCount figure.numeral.coefficient - 1
      ≤ Decimal.maxReadPower ↔ figure.value < 10 ^ (Decimal.maxReadPower + 1) := by
    rw [← magnitude_numeral]
    by_cases hzero : figure.numeral.coefficient = 0
    · refine iff_of_true ?_ ?_
      · rw [hzero, Numeral.digitCount_zero, numeral, Decimal.maxReadPower]
        dsimp only
        omega
      · rw [Numeral.magnitude, hzero, Nat.cast_zero, zero_mul]
        positivity
    · rw [Numeral.magnitude_lt_iff hzero]
      omega
  have hlast : Decimal.minReadExponent ≤ figure.numeral.exponent ↔
      (figure.decimals.length : ℤ) ≤ -Decimal.minReadExponent := by
    rw [numeral]
    dsimp only
    omega
  rw [Decimal.isReadable, decide_eq_true_eq, hfirst, hlast]
  exact ⟨fun h => ⟨h.1, h.2⟩, fun h => ⟨h.last, h.first⟩⟩

/-! ## Characters -/

theorem chars_ne_nil : figure.chars ≠ [] := by
  have := figure.notEmpty
  unfold chars
  cases hfraction : figure.fraction with
  | none => simpa [hfraction] using this
  | some decimals => simp

variable {figure} {c : Char}

/-- Digits and the point lie close together. -/
theorem toNat_of_mem (h : c ∈ figure.chars) : 46 ≤ c.toNat ∧ c.toNat ≤ 57 := by
  have hdigit : Text.isAsciiDigit c = true → 46 ≤ c.toNat ∧ c.toNat ≤ 57 := by
    simp only [Text.isAsciiDigit, decide_eq_true_eq]
    omega
  rcases List.mem_append.1 h with hwhole | hbehind
  · exact hdigit (figure.areDigits c (by simp [hwhole]))
  · cases hfraction : figure.fraction with
    | none => simp [hfraction] at hbehind
    | some decimals =>
      simp only [hfraction, Option.elim_some, List.mem_cons] at hbehind
      rcases hbehind with rfl | hmem
      · decide
      · exact hdigit (figure.areDigits c (by simp [hfraction, hmem]))

theorem isBlank_of_mem (h : c ∈ figure.chars) : Text.isBlank c = false := by
  have := toNat_of_mem h
  simp only [Text.isBlank, Text.isNumeralBlank, Text.isInformationSeparator, Bool.or_eq_false_iff,
    decide_eq_false_iff_not]
  rw [if_pos (by omega), decide_eq_false_iff_not]
  omega

theorem lowerChar_of_mem (h : c ∈ figure.chars) : Text.lowerChar c = [c] := by
  have := toNat_of_mem h
  rw [Text.lowerChar, if_pos (by omega), if_neg (by omega)]

variable (figure) in
theorem trimBy_chars {before after : List Char} (hbefore : ∀ c ∈ before, Text.isBlank c = true)
    (hafter : ∀ c ∈ after, Text.isBlank c = true) :
    Text.trimBy Text.isBlank (before ++ figure.chars ++ after) = figure.chars :=
  Text.trimBy_padded hbefore hafter figure.chars_ne_nil
    (fun _ hc => isBlank_of_mem (List.mem_of_mem_head? hc))
    (fun _ hc => isBlank_of_mem (List.mem_of_getLast? hc))

/-! ## Reading -/

variable (figure) in
/-- The text is the figure with blanks around it. -/
def Padded (text : String) : Prop :=
  ∃ before after, (∀ c ∈ before ++ after, Text.isBlank c = true)
    ∧ text.toList = before ++ figure.chars ++ after

theorem bare_padded {text : String} (h : figure.Padded text) :
    Decimal.bare text = figure.chars := by
  obtain ⟨before, after, hblank, htext⟩ := h
  have htrim : Text.trimBy Text.isBlank text.toList = figure.chars := by
    rw [htext]
    exact figure.trimBy_chars (fun c hc => hblank c (by simp [hc]))
      (fun c hc => hblank c (by simp [hc]))
  have hkept : figure.chars.filter (· ≠ '_') = figure.chars := by
    refine List.filter_eq_self.2 fun c hc => decide_eq_true ?_
    rintro rfl
    exact absurd (toNat_of_mem hc).2 (by decide)
  rw [Decimal.bare, htrim, hkept]
  refine (List.map_congr_left fun c hc => ?_).trans (List.map_id _)
  have := toNat_of_mem hc
  rw [if_neg (by omega), Numeral.asciiForm, if_pos (by omega), id]

theorem splitSign_chars : Numeral.splitSign figure.chars = (false, figure.chars) := by
  have hchars (c : Char) (hc : c ∈ figure.chars) : c ≠ '-' ∧ c ≠ '+' := by
    have := (toNat_of_mem hc).1
    constructor <;> (rintro rfl; exact absurd this (by decide))
  unfold Numeral.splitSign
  split
  · rename_i rest heq
    exact absurd rfl (hchars '-' (by simp [heq])).1
  · rename_i rest heq
    exact absurd rfl (hchars '+' (by simp [heq])).2
  · rfl

theorem unsigned?_chars : Numeral.unsigned? false figure.chars = some figure.numeral := by
  have hwhole : ∀ c ∈ figure.whole, Text.isAsciiDigit c = true :=
    fun c hc => figure.areDigits c (by simp [hc])
  have hdecimals : ∀ c ∈ figure.decimals, Text.isAsciiDigit c = true :=
    fun c hc => figure.areDigits c (List.mem_append_right _ hc)
  have hbehind : (figure.fraction.elim [] ('.' :: ·)).takeWhile Text.isAsciiDigit = []
      ∧ (figure.fraction.elim [] ('.' :: ·)).dropWhile Text.isAsciiDigit =
        figure.fraction.elim [] ('.' :: ·) := by
    cases figure.fraction <;> exact ⟨rfl, rfl⟩
  have hempty : ¬ (figure.whole = [] ∧ figure.decimals = []) := by
    rw [← List.append_eq_nil_iff]
    exact figure.notEmpty
  rw [Numeral.unsigned?, chars, List.takeWhile_append_of_pos hwhole, hbehind.1, List.append_nil,
    List.dropWhile_append_of_pos hwhole, hbehind.2]
  unfold numeral
  cases hfraction : figure.fraction with
  | none =>
    have hnone : figure.decimals = [] := by rw [decimals, hfraction, Option.getD_none]
    rw [hnone] at hempty ⊢
    have hsome : figure.whole ≠ [] := fun hnil => hempty ⟨hnil, rfl⟩
    simp [hsome, Numeral.power?]
  | some digits =>
    obtain rfl : figure.decimals = digits := by rw [decimals, hfraction, Option.getD_some]
    have htaken : figure.decimals.takeWhile Text.isAsciiDigit = figure.decimals :=
      List.takeWhile_eq_self_iff.2 hdecimals
    have hdropped : figure.decimals.dropWhile Text.isAsciiDigit = [] :=
      List.dropWhile_eq_nil_iff.2 hdecimals
    simp [htaken, hdropped, hempty, Numeral.power?]

theorem parse?_padded {text : String} (h : figure.Padded text) :
    Decimal.parse? text =
      if Decimal.isReadable figure.numeral then some (.finite figure.numeral) else none := by
  rw [Decimal.parse?, bare_padded h, splitSign_chars]
  dsimp only
  rw [unsigned?_chars]

end Figure

end Runesmith
