import Runesmith.Pile
import Runesmith.Proofs.Number.Figure

/-!
# How piles are shown

The number in the text of a pile is the amount in its largest unit, exactly and with no digit too
many.

* `trimmed_spec`: dropping trailing zeros comes to an end, and takes as many places from the width
  as it takes zeros from the fraction.
* `length_padded`, `ofDigits_padded`: a number that is padded to a width keeps its value.
* `isWorth_padded`: the places that are left are worth the fraction, and none of them is needless.
* `Shows` says what it means that a figure shows an amount, and `shows_figure` that the number of
  every pile does.
* `text_exact` puts this together: no two amounts are shown alike.
-/

namespace Runesmith

/-! ## Written digits -/

theorem Numeral.ofDigits_eq (digits : List Char) :
    ofDigits digits = Nat.ofDigitChars 10 digits 0 :=
  rfl

theorem Numeral.ofDigits_toDigits (n : Nat) : ofDigits (Nat.toDigits 10 n) = n :=
  Nat.ofDigitChars_ten_toDigits

theorem isAsciiDigit_of_mem_toDigits {n : Nat} {c : Char} (h : c ∈ Nat.toDigits 10 n) :
    Text.isAsciiDigit c = true := by
  have hdigit := Char.isDigit_iff_toNat.1 (Nat.isDigit_of_mem_toDigits (by decide) (by decide) h)
  exact decide_eq_true hdigit

theorem getLast?_toDigits (n : Nat) :
    (Nat.toDigits 10 n).getLast? = some (Nat.digitChar (n % 10)) := by
  rw [Nat.toDigits_eq_if (by decide)]
  split
  case isTrue h => rw [Nat.mod_eq_of_lt h, List.getLast?_singleton]
  case isFalse => rw [List.getLast?_concat]

/-- No number but zero is written with a zero in front. -/
theorem head?_toDigits {n : Nat} (h : 0 < n) : (Nat.toDigits 10 n).head? ≠ some '0' := by
  induction n using Nat.strongRecOn with
  | ind n ih =>
    rw [Nat.toDigits_eq_if (by decide)]
    split
    case isTrue hlt =>
      have hall : ∀ d < 10, 0 < d → Nat.digitChar d ≠ '0' := by decide
      simpa using hall n hlt h
    case isFalse hle =>
      rw [List.head?_append_of_ne_nil _ Nat.toDigits_ne_nil]
      exact ih (n / 10) (by omega) (by omega)

namespace Pile

/-! ## Trailing zeros -/

/-- The zeros at the end are dropped one after the other until there is none. -/
theorem trimmed_spec (width fraction : Nat) (hpos : 0 < fraction) :
    ∃ rounds, trimmed width fraction hpos = (width - rounds, fraction / 10 ^ rounds)
      ∧ (∀ j < rounds, 10 ∣ fraction / 10 ^ j) ∧ ¬ 10 ∣ fraction / 10 ^ rounds := by
  fun_induction trimmed width fraction hpos with
  | case1 width fraction hpos hlast ih =>
    -- One zero is dropped here, the others from the fraction that is left.
    obtain ⟨rounds, htrimmed, hzeros, hstop⟩ := ih
    have hnext (j : Nat) : fraction / 10 / 10 ^ j = fraction / 10 ^ (j + 1) := by
      rw [Nat.div_div_eq_div_mul, Nat.pow_succ, Nat.mul_comm]
    refine ⟨rounds + 1, ?_, ?_, hnext rounds ▸ hstop⟩
    · rw [htrimmed, hnext, Nat.sub_sub, Nat.add_comm 1]
    · intro j hj
      cases j with
      | zero => simpa using Nat.dvd_of_mod_eq_zero hlast
      | succ j => exact hnext j ▸ hzeros j (by omega)
  | case2 width fraction hpos hlast =>
    refine ⟨0, by simp, by simp, ?_⟩
    rw [Nat.pow_zero, Nat.div_one]
    exact fun hdvd => hlast (Nat.mod_eq_zero_of_dvd hdvd)

/-- What was dropped were zeros, so that a power of ten gives the fraction back. -/
theorem div_mul_pow_of_zeros {fraction rounds : Nat} (h : ∀ j < rounds, 10 ∣ fraction / 10 ^ j) :
    fraction / 10 ^ rounds * 10 ^ rounds = fraction := by
  induction rounds with
  | zero => simp
  | succ rounds ih =>
    have hlast : fraction / 10 ^ (rounds + 1) * 10 = fraction / 10 ^ rounds := by
      rw [Nat.pow_succ, ← Nat.div_div_eq_div_mul]
      exact Nat.div_mul_cancel (h rounds (by omega))
    calc fraction / 10 ^ (rounds + 1) * 10 ^ (rounds + 1)
        = fraction / 10 ^ (rounds + 1) * 10 * 10 ^ rounds := by rw [Nat.pow_succ]; ring
      _ = fraction / 10 ^ rounds * 10 ^ rounds := by rw [hlast]
      _ = fraction := ih fun j hj => h j (by omega)

/-- A fraction has more places than zeros at its end. -/
theorem rounds_lt {width fraction rounds : Nat} (hpos : 0 < fraction) (h : fraction < 10 ^ width)
    (hzeros : ∀ j < rounds, 10 ∣ fraction / 10 ^ j) : rounds < width := by
  have hvalue := div_mul_pow_of_zeros hzeros
  have hleft : 0 < fraction / 10 ^ rounds := Nat.pos_of_mul_pos_right (hvalue.symm ▸ hpos)
  have hle : 10 ^ rounds ≤ fraction := by
    calc 10 ^ rounds ≤ fraction / 10 ^ rounds * 10 ^ rounds := Nat.le_mul_of_pos_left _ hleft
      _ = fraction := hvalue
  exact (Nat.pow_lt_pow_iff_right (a := 10) (by decide)).1 (hle.trans_lt h)

/-! ## Padding -/

section

variable {width n : Nat}

theorem length_padded (hwidth : 0 < width) (h : n < 10 ^ width) :
    (padded width n).length = width := by
  have hle := (Nat.length_toDigits_le_iff (by decide) hwidth).2 h
  rw [padded, List.length_append, List.length_replicate]
  omega

theorem ofDigits_padded : Numeral.ofDigits (padded width n) = n := by
  rw [Numeral.ofDigits_eq, padded, Nat.ofDigitChars_append, Nat.ofDigitChars_replicate_zero,
    Nat.mul_zero, Nat.ofDigitChars_ten_toDigits]

theorem isAsciiDigit_of_mem_padded {c : Char} (h : c ∈ padded width n) :
    Text.isAsciiDigit c = true := by
  rcases List.mem_append.1 h with hzero | hdigit
  · rw [List.eq_of_mem_replicate hzero]
    decide
  · exact isAsciiDigit_of_mem_toDigits hdigit

theorem getLast?_padded (width n : Nat) :
    (padded width n).getLast? = some (Nat.digitChar (n % 10)) := by
  rw [padded, List.getLast?_append, getLast?_toDigits]
  rfl

end

/-! ## The figure of an amount -/

/-- The digits behind the point, if there are any. -/
def decimals? (divisibility fraction : Nat) : Option (List Char) :=
  if hzero : fraction = 0 then none
  else
    let (width, digits) := trimmed divisibility fraction (Nat.pos_of_ne_zero hzero)
    some (padded width digits)

theorem decimals?_eq_none_iff {divisibility fraction : Nat} :
    decimals? divisibility fraction = none ↔ fraction = 0 := by
  unfold decimals?
  split
  case isTrue h => exact iff_of_true rfl h
  case isFalse h => exact iff_of_false nofun h

/-- Digits behind a point that are worth a fraction of some places, and end where it ends. -/
structure IsWorth (decimals : List Char) (fraction places : Nat) : Prop where
  ne_nil : decimals ≠ []
  length_le : decimals.length ≤ places
  getLast?_ne : decimals.getLast? ≠ some '0'
  areDigits : ∀ c ∈ decimals, Text.isAsciiDigit c = true
  value : (Numeral.ofDigits decimals : ℚ) / 10 ^ decimals.length = fraction / 10 ^ places

/-- Digits with no zero at their end, in fewer places by as many zeros as were dropped, are worth
the same. -/
theorem isWorth_padded {places rounds digits : Nat} (hdigits : ¬ 10 ∣ digits)
    (hrounds : rounds < places) (h : digits * 10 ^ rounds < 10 ^ places) :
    IsWorth (padded (places - rounds) digits) (digits * 10 ^ rounds) places := by
  have hplaces : places = places - rounds + rounds := by omega
  have hroom : digits < 10 ^ (places - rounds) := by
    rw [hplaces, Nat.pow_add] at h
    exact Nat.lt_of_mul_lt_mul_right h
  have hlength : (padded (places - rounds) digits).length = places - rounds :=
    length_padded (by omega) hroom
  constructor
  case ne_nil =>
    apply List.ne_nil_of_length_pos
    omega
  case length_le => omega
  case getLast?_ne =>
    have hall : ∀ d < 10, d ≠ 0 → Nat.digitChar d ≠ '0' := by decide
    have hlast : digits % 10 ≠ 0 := fun hmod => hdigits (Nat.dvd_of_mod_eq_zero hmod)
    rw [getLast?_padded, ne_eq, Option.some.injEq]
    exact hall _ (Nat.mod_lt _ (by decide)) hlast
  case areDigits => exact fun c => isAsciiDigit_of_mem_padded
  case value =>
    rw [ofDigits_padded, hlength]
    nth_rewrite 2 [hplaces]
    rw [pow_add]
    push_cast
    field_simp

theorem isWorth_of_decimals? {divisibility fraction : Nat} (h : fraction < 10 ^ divisibility)
    {decimals : List Char} (hsome : decimals? divisibility fraction = some decimals) :
    IsWorth decimals fraction divisibility := by
  unfold decimals? at hsome
  split at hsome
  case isTrue => cases hsome
  case isFalse hzero =>
    have hpos : 0 < fraction := Nat.pos_of_ne_zero hzero
    obtain ⟨rounds, htrimmed, hzeros, hstop⟩ := trimmed_spec divisibility fraction hpos
    rw [htrimmed] at hsome
    cases hsome
    have hvalue := div_mul_pow_of_zeros hzeros
    have hworth := isWorth_padded hstop (rounds_lt hpos h hzeros) (hvalue.symm ▸ h)
    rwa [hvalue] at hworth

theorem value_decimals? {divisibility fraction : Nat} (h : fraction < 10 ^ divisibility) :
    (Numeral.ofDigits ((decimals? divisibility fraction).getD []) : ℚ)
      / 10 ^ ((decimals? divisibility fraction).getD []).length = fraction / 10 ^ divisibility := by
  cases hsome : decimals? divisibility fraction with
  | none => simp [decimals?_eq_none_iff.1 hsome, Numeral.ofDigits]
  | some decimals => exact (isWorth_of_decimals? h hsome).value

/-- The amount as a figure. -/
def figure (amount divisibility : Nat) : Figure where
  whole := Nat.toDigits 10 (amount / 10 ^ divisibility)
  fraction := decimals? divisibility (amount % 10 ^ divisibility)
  areDigits := by
    intro c hc
    rcases List.mem_append.1 hc with hwhole | hdecimals
    · exact isAsciiDigit_of_mem_toDigits hwhole
    · cases hsome : decimals? divisibility (amount % 10 ^ divisibility) with
      | none => simp [hsome] at hdecimals
      | some decimals =>
        rw [hsome] at hdecimals
        exact (isWorth_of_decimals? (Nat.mod_lt _ (by positivity)) hsome).areDigits c hdecimals
  notEmpty := List.append_ne_nil_of_left_ne_nil Nat.toDigits_ne_nil _

/-- The figure shows an amount in its largest unit: exactly, without a zero too many in front, and
with a point only if digits follow, of which the last one counts. -/
structure Shows (figure : Figure) (amount divisibility : Nat) : Prop where
  value : figure.value = amount / 10 ^ divisibility
  whole : Numeral.ofDigits figure.whole = amount / 10 ^ divisibility
  whole_ne_nil : figure.whole ≠ []
  head_whole : figure.whole.head? = some '0' → figure.whole = ['0']
  fraction_eq_none_iff : figure.fraction = none ↔ 10 ^ divisibility ∣ amount
  decimals : ∀ decimals ∈ figure.fraction, decimals ≠ [] ∧ decimals.length ≤ divisibility
    ∧ decimals.getLast? ≠ some '0'

theorem shows_figure (amount divisibility : Nat) :
    Shows (figure amount divisibility) amount divisibility := by
  have hfraction : amount % 10 ^ divisibility < 10 ^ divisibility :=
    Nat.mod_lt _ (by positivity)
  constructor
  case value =>
    have hparts : (amount : ℚ) = (amount / 10 ^ divisibility : ℕ) * 10 ^ divisibility
        + (amount % 10 ^ divisibility : ℕ) := by
      exact_mod_cast (Nat.div_add_mod' amount (10 ^ divisibility)).symm
    have hdecimals := value_decimals? hfraction
    rw [Figure.value]
    unfold figure Figure.decimals
    dsimp only
    rw [Numeral.ofDigits_toDigits, hdecimals, hparts]
    field_simp
  case whole => exact Numeral.ofDigits_toDigits _
  case whole_ne_nil => exact Nat.toDigits_ne_nil
  case head_whole =>
    intro hhead
    rcases Nat.eq_zero_or_pos (amount / 10 ^ divisibility) with hzero | hpos
    · show Nat.toDigits 10 _ = _
      rw [hzero, Nat.toDigits_zero]
    · exact absurd hhead (head?_toDigits hpos)
  case fraction_eq_none_iff => exact decimals?_eq_none_iff.trans Nat.dvd_iff_mod_eq_zero.symm
  case decimals =>
    intro decimals hsome
    have hworth := isWorth_of_decimals? hfraction hsome
    exact ⟨hworth.ne_nil, hworth.length_le, hworth.getLast?_ne⟩

/-! ## Text -/

theorem number_eq (amount divisibility : Nat) (symbol : Json) :
    (⟨amount, divisibility, symbol⟩ : Pile).number
      = String.ofList (figure amount divisibility).chars := by
  have hwhole : toString ((amount : Int) / (Nat.pow 10 divisibility : Nat))
      = String.ofList (Nat.toDigits 10 (amount / 10 ^ divisibility)) := rfl
  have hfraction : ((amount : Int) % (Nat.pow 10 divisibility : Nat)).toNat
      = amount % 10 ^ divisibility := rfl
  unfold number
  simp only [hwhole, hfraction]
  unfold Figure.chars figure decimals?
  split
  case isTrue => simp
  case isFalse =>
    rw [← String.toList_inj]
    simp

/-- The number says which amount is shown. -/
theorem eq_of_figure_chars {amount other divisibility : Nat}
    (h : (figure amount divisibility).chars = (figure other divisibility).chars) :
    amount = other := by
  -- The characters are read back as one numeral, which is worth what is shown.
  have hnumeral : (figure amount divisibility).numeral = (figure other divisibility).numeral := by
    have hread : Numeral.unsigned? false (figure amount divisibility).chars
        = some (figure amount divisibility).numeral := Figure.unsigned?_chars
    rw [h, Figure.unsigned?_chars] at hread
    exact (Option.some.inj hread).symm
  have hvalue : (amount : ℚ) / 10 ^ divisibility = other / 10 ^ divisibility := by
    rw [← (shows_figure amount divisibility).value, ← (shows_figure other divisibility).value,
      ← Figure.magnitude_numeral, ← Figure.magnitude_numeral, hnumeral]
  have hunit : (10 : ℚ) ^ divisibility ≠ 0 := by positivity
  exact_mod_cast (div_left_inj' hunit).1 hvalue

/-- The text of a pile is a figure that shows its amount exactly, and the symbol behind a blank.
Piles of one kind with different amounts have different texts. Where there is a fraction, dropping
its trailing zeros ends after fewer rounds than it has places, at the first digit that is not
zero. -/
theorem text_exact (divisibility : Nat) (symbol : Json) :
    (∀ amount : Nat, ∃ figure : Figure, Shows figure amount divisibility
      ∧ (⟨amount, divisibility, symbol⟩ : Pile).text = String.ofList figure.chars
        ++ String.ofList [noBreakSpace] ++ (⟨amount, divisibility, symbol⟩ : Pile).shownSymbol)
    ∧ (∀ amount other : Nat, amount ≠ other → (⟨amount, divisibility, symbol⟩ : Pile).text
      ≠ (⟨other, divisibility, symbol⟩ : Pile).text)
    ∧ ∀ (amount : Nat) (hpos : 0 < amount % 10 ^ divisibility), ∃ rounds < divisibility,
      (∀ j < rounds, 10 ∣ amount % 10 ^ divisibility / 10 ^ j)
        ∧ ¬ 10 ∣ amount % 10 ^ divisibility / 10 ^ rounds
        ∧ trimmed divisibility (amount % 10 ^ divisibility) hpos
          = (divisibility - rounds, amount % 10 ^ divisibility / 10 ^ rounds) := by
  refine ⟨?_, ?_, ?_⟩
  · intro amount
    refine ⟨figure amount divisibility, shows_figure amount divisibility, ?_⟩
    rw [text, number_eq]
  · intro amount other hne heq
    have hsymbol : (⟨amount, divisibility, symbol⟩ : Pile).shownSymbol
        = (⟨other, divisibility, symbol⟩ : Pile).shownSymbol := rfl
    rw [text, text, number_eq, number_eq, hsymbol, ← String.toList_inj] at heq
    simp only [String.toList_append, String.toList_ofList, List.append_cancel_right_eq] at heq
    exact hne (eq_of_figure_chars heq)
  · intro amount hpos
    obtain ⟨rounds, htrimmed, hzeros, hstop⟩ := trimmed_spec divisibility _ hpos
    exact ⟨rounds, rounds_lt hpos (Nat.mod_lt _ (by positivity)) hzeros, hzeros, hstop, htrimmed⟩

example : (⟨1050, 3, .str "$"⟩ : Pile).number = "1.05" := by decide +kernel

end Pile

end Runesmith
