import Mathlib.Algebra.Order.Field.Basic
import Mathlib.Algebra.Order.Field.Power
import Mathlib.Order.Bounds.Basic
import Mathlib.Tactic.FieldSimp
import Mathlib.Tactic.Linarith
import Mathlib.Tactic.NormNum
import Mathlib.Tactic.Positivity
import Mathlib.Tactic.Ring
import Runesmith.Number.Decimal

/-!
# Rounding of products

A product is kept to so many significant digits. `RoundsTo` says what that means for rational
numbers, without digits: the number is replaced by the nearest multiple of a power of ten, which is
the least one, in the range of powers, that leaves so many digits in front of it.

* `RoundsTo.unique`, `RoundsTo.eq_of_hasPrecision`: rounding has one result, and leaves alone what
  has no more significant digits.
* `fit_spec`: the arithmetic rounds so, and refuses exactly what is rounded beyond the greatest
  power.
* `scale_eq_error_iff`: which products do not exist.
* `wholeValue?_eq_some_iff`: the test for whole numbers is exact.
-/

namespace Runesmith

/-! ## Magnitudes -/

namespace Numeral

/-- The value of a numeral without its sign. -/
def magnitude (x : Numeral) : ℚ :=
  x.coefficient * 10 ^ x.exponent

theorem digitCount_zero : digitCount 0 = 1 := by
  rw [digitCount, if_pos (by decide)]

theorem digitCount_pos (n : Nat) : 0 < digitCount n := by
  rw [digitCount]
  split <;> omega

theorem lt_pow_digitCount (n : Nat) : n < 10 ^ digitCount n := by
  fun_induction digitCount n with
  | case1 n h => omega
  | case2 n _ ih =>
    rw [Nat.pow_succ]
    omega

theorem pow_digitCount_le {n : Nat} (h : n ≠ 0) : 10 ^ (digitCount n - 1) ≤ n := by
  fun_induction digitCount n with
  | case1 n => rw [Nat.sub_self, Nat.pow_zero]; omega
  | case2 n hn ih =>
    have hrest := ih (by omega)
    have hstep : 10 ^ digitCount (n / 10) = 10 ^ (digitCount (n / 10) - 1) * 10 := by
      rw [← Nat.pow_succ, Nat.succ_eq_add_one, Nat.sub_add_cancel (digitCount_pos _)]
    rw [Nat.add_sub_cancel, hstep]
    omega

theorem magnitude_lt (x : Numeral) :
    x.magnitude < 10 ^ (x.exponent + digitCount x.coefficient) := by
  have hdigits : (x.coefficient : ℚ) < 10 ^ digitCount x.coefficient := by
    exact_mod_cast lt_pow_digitCount x.coefficient
  have hunit : (0 : ℚ) < 10 ^ x.exponent := by positivity
  rw [magnitude, add_comm, zpow_add₀ (by norm_num), zpow_natCast]
  exact mul_lt_mul_of_pos_right hdigits hunit

theorem le_magnitude {x : Numeral} (h : x.coefficient ≠ 0) :
    10 ^ (x.exponent + digitCount x.coefficient - 1) ≤ x.magnitude := by
  have hdigits : (10 : ℚ) ^ (digitCount x.coefficient - 1) ≤ x.coefficient := by
    exact_mod_cast pow_digitCount_le h
  have hunit : (0 : ℚ) < 10 ^ x.exponent := by positivity
  have hpower : x.exponent + digitCount x.coefficient - 1 =
      ((digitCount x.coefficient - 1 : ℕ) : ℤ) + x.exponent := by
    have := digitCount_pos x.coefficient
    omega
  rw [hpower, zpow_add₀ (by norm_num), zpow_natCast]
  exact mul_le_mul_of_nonneg_right hdigits hunit.le

/-- The count of digits says between which powers of ten the magnitude lies. -/
theorem magnitude_lt_iff {x : Numeral} (h : x.coefficient ≠ 0) {k : ℤ} :
    x.magnitude < 10 ^ k ↔ x.exponent + digitCount x.coefficient ≤ k := by
  constructor
  · intro hlt
    have := (zpow_lt_zpow_iff_right₀ (by norm_num : (1 : ℚ) < 10)).1 ((le_magnitude h).trans_lt hlt)
    omega
  · exact fun hle => x.magnitude_lt.trans_le (zpow_le_zpow_right₀ (by norm_num) hle)

end Numeral

namespace Decimal

/-! ## The nearest whole number -/

/-- The whole number is nearest to the rational one; of two that are, it is the even one. -/
structure IsNearest (q : ℚ) (m : ℕ) : Prop where
  close : |q - m| ≤ 1 / 2
  even : |q - m| = 1 / 2 → Even m

theorem isNearest_of_lt {q : ℚ} {m : ℕ} (h : |q - m| < 1 / 2) : IsNearest q m :=
  ⟨h.le, fun heq => absurd heq h.ne⟩

theorem isNearest_self (m : ℕ) : IsNearest m m :=
  isNearest_of_lt (by simp)

theorem IsNearest.le_of_isNearest {q : ℚ} {m k : ℕ} (hm : IsNearest q m) (hk : IsNearest q k) :
    m ≤ k := by
  by_contra hlt
  have hstep : (k : ℚ) + 1 ≤ m := by exact_mod_cast Nat.not_le.1 hlt
  have hupper := (abs_le.1 hm.close).1
  have hlower := (abs_le.1 hk.close).2
  -- Both are nearest only if they are neighbours and the rational number is in their middle.
  have hq : q = k + 1 / 2 := by linarith
  have hsucc : (m : ℚ) = k + 1 := by linarith
  have hm' : Even m := hm.even (by rw [hq, hsucc, abs_eq (by norm_num)]; right; ring)
  have hk' : Even k := hk.even (by rw [hq, abs_eq (by norm_num)]; left; ring)
  have hnat : m = k + 1 := by exact_mod_cast hsucc
  rw [Nat.even_iff] at hm' hk'
  omega

theorem IsNearest.unique {q : ℚ} {m k : ℕ} (hm : IsNearest q m) (hk : IsNearest q k) : m = k :=
  Nat.le_antisymm (hm.le_of_isNearest hk) (hk.le_of_isNearest hm)

/-- A number nearest to one that is not below a whole number is not below it either. -/
theorem IsNearest.le_of_le {q : ℚ} {m k : ℕ} (hm : IsNearest q m) (h : (k : ℚ) ≤ q) : k ≤ m := by
  by_contra hlt
  have hstep : (m : ℚ) + 1 ≤ k := by exact_mod_cast Nat.not_le.1 hlt
  have hupper := (abs_le.1 hm.close).2
  linarith

/-- A quotient with a remainder is rounded by comparing the remainder with half of the divisor. -/
theorem isNearest_quotient {quotient remainder unit : ℕ} (h : remainder < unit) :
    IsNearest (quotient + remainder / unit)
      (if 2 * remainder < unit then quotient
        else if unit < 2 * remainder then quotient + 1
        else quotient + quotient % 2) := by
  have hunit : (0 : ℚ) < unit := by exact_mod_cast Nat.zero_lt_of_lt h
  have hpos : (0 : ℚ) ≤ remainder / unit := by positivity
  split
  · rename_i hbelow
    have hcast : 2 * (remainder : ℚ) < unit := by exact_mod_cast hbelow
    refine isNearest_of_lt ?_
    rw [add_sub_cancel_left, abs_of_nonneg hpos, div_lt_iff₀ hunit]
    linarith
  · split
    · rename_i habove
      have hcast : (unit : ℚ) < 2 * remainder := by exact_mod_cast habove
      have hmore : 1 / 2 < (remainder : ℚ) / unit := by
        rw [lt_div_iff₀ hunit]
        linarith
      have hless : (remainder : ℚ) / unit < 1 := by
        rw [div_lt_one hunit]
        exact_mod_cast h
      refine isNearest_of_lt ?_
      rw [Nat.cast_add, Nat.cast_one, abs_sub_comm, abs_of_nonneg] <;> linarith
    · rename_i hbelow habove
      have hcast : 2 * (remainder : ℚ) = unit := by
        exact_mod_cast Nat.le_antisymm (Nat.not_lt.1 habove) (Nat.not_lt.1 hbelow)
      have htie : (remainder : ℚ) / unit = 1 / 2 := by
        rw [div_eq_iff hunit.ne']
        linarith
      have habs : |quotient + (remainder : ℚ) / unit - (quotient + quotient % 2 : ℕ)| = 1 / 2 := by
        rw [htie]
        rcases Nat.mod_two_eq_zero_or_one quotient with heven | hodd
        · rw [heven, Nat.add_zero, add_sub_cancel_left, abs_of_nonneg (by norm_num)]
        · rw [hodd, Nat.cast_add, Nat.cast_one, abs_sub_comm, abs_of_nonneg] <;> linarith
      exact ⟨habs.le, fun _ => Nat.even_iff.2 (by omega)⟩

/-- Places are dropped to the nearest whole number. -/
theorem isNearest_dropPlaces (c places : ℕ) :
    IsNearest (c / 10 ^ places) (dropPlaces c places) := by
  have hunit : (0 : ℚ) < 10 ^ places := by positivity
  unfold dropPlaces
  split
  · -- There are fewer digits than places, so the quotient is below a tenth.
    rename_i hfew
    have hsmall : c * 10 < 10 ^ places := by
      have hlt := Numeral.lt_pow_digitCount c
      have hpow := Nat.pow_le_pow_right (by decide : 0 < 10) hfew
      rw [Nat.pow_succ] at hpow
      omega
    have hquotient : (c : ℚ) / 10 ^ places < 1 / 2 := by
      have hcast : (c : ℚ) * 10 < 10 ^ places := by exact_mod_cast hsmall
      rw [div_lt_iff₀ hunit]
      linarith
    have hpos : (0 : ℚ) ≤ c / 10 ^ places := by positivity
    refine isNearest_of_lt ?_
    rwa [Nat.cast_zero, sub_zero, abs_of_nonneg hpos]
  · have hdivision : (c : ℚ) = 10 ^ places * (c / 10 ^ places : ℕ) + (c % 10 ^ places : ℕ) := by
      exact_mod_cast (Nat.div_add_mod c (10 ^ places)).symm
    have hfraction : (c : ℚ) / 10 ^ places =
        (c / 10 ^ places : ℕ) + (c % 10 ^ places : ℕ) / (10 ^ places : ℕ) := by
      rw [div_eq_iff hunit.ne', Nat.cast_pow, Nat.cast_ofNat, add_mul,
        div_mul_cancel₀ _ hunit.ne', mul_comm ((c / 10 ^ places : ℕ) : ℚ)]
      exact hdivision
    rw [hfraction]
    exact isNearest_quotient (Nat.mod_lt c (Nat.pow_pos (by decide)))

/-! ## Rounding to a precision -/

/-- Multiples of `10 ^ k` are fine enough for a number if they leave it at most as many digits as
the precision, and the power is in range. -/
def Admits (p : ℚ) (k : ℤ) : Prop :=
  minExponent ≤ k ∧ p < 10 ^ (k + precision)

/-- The number is rounded to the nearest multiple of the least admitted power of ten. -/
def RoundsTo (p r : ℚ) : Prop :=
  ∃ (e : ℤ) (m : ℕ), IsLeast {k | Admits p k} e ∧ IsNearest (p / 10 ^ e) m ∧ r = m * 10 ^ e

/-- What is rounded to this or more is beyond the greatest power of ten. -/
def limit : ℚ :=
  10 ^ (maxPower + 1)

theorem RoundsTo.unique {p r s : ℚ} (hr : RoundsTo p r) (hs : RoundsTo p s) : r = s := by
  obtain ⟨e, m, hleast, hm, rfl⟩ := hr
  obtain ⟨_, k, hleast', hk, rfl⟩ := hs
  obtain rfl := hleast.unique hleast'
  rw [hm.unique hk]

/-- The number has no more significant digits than the precision, and none too small. -/
def HasPrecision (p : ℚ) : Prop :=
  ∃ (c : ℕ) (k : ℤ), c < 10 ^ precision ∧ minExponent ≤ k ∧ p = c * 10 ^ k

/-- Multiples of a power of ten are multiples of every smaller one. -/
theorem mul_zpow_eq_of_le (c : ℕ) {e k : ℤ} (h : e ≤ k) :
    (c : ℚ) * 10 ^ k = (c * 10 ^ (k - e).toNat : ℕ) * 10 ^ e := by
  have hpower : (10 : ℚ) ^ k = 10 ^ (k - e).toNat * 10 ^ e := by
    rw [← zpow_natCast, Int.toNat_of_nonneg (by omega), ← zpow_add₀ (by norm_num), sub_add_cancel]
  rw [hpower]
  push_cast
  ring

theorem isNearest_of_le (c : ℕ) {e k : ℤ} (h : e ≤ k) :
    IsNearest ((c : ℚ) * 10 ^ k / 10 ^ e) (c * 10 ^ (k - e).toNat) := by
  rw [mul_zpow_eq_of_le c h, mul_div_cancel_right₀ _ (by positivity)]
  exact isNearest_self _

/-- What has no more significant digits is left alone. -/
theorem RoundsTo.eq_of_hasPrecision {p r : ℚ} (hr : RoundsTo p r) (hp : HasPrecision p) :
    r = p := by
  obtain ⟨e, m, hleast, hm, rfl⟩ := hr
  obtain ⟨c, k, hc, hk, rfl⟩ := hp
  have hunit : (0 : ℚ) < 10 ^ k := by positivity
  have hadmits : Admits (c * 10 ^ k) k := by
    refine ⟨hk, ?_⟩
    have hcast : (c : ℚ) < 10 ^ precision := by exact_mod_cast hc
    rw [add_comm, zpow_add₀ (by norm_num), zpow_natCast]
    exact mul_lt_mul_of_pos_right hcast hunit
  have hle : e ≤ k := hleast.2 hadmits
  rw [hm.unique (isNearest_of_le c hle), ← mul_zpow_eq_of_le c hle]

/-- A power of ten that is the least for a number, but not the least of all, leaves it all the
digits of the precision. -/
theorem le_of_isLeast {p : ℚ} {e : ℤ} (hleast : IsLeast {k | Admits p k} e)
    (he : minExponent < e) : 10 ^ (e + (precision - 1)) ≤ p := by
  by_contra hlt
  have hpower : e - 1 + precision = e + (precision - 1) := by ring
  have hsmaller : Admits p (e - 1) := ⟨by omega, by rw [hpower]; exact not_le.1 hlt⟩
  have := hleast.2 hsmaller
  omega

/-- A number beyond the limit is rounded to one beyond it. -/
theorem RoundsTo.limit_le {p r : ℚ} (hr : RoundsTo p r) (hp : limit ≤ p) : limit ≤ r := by
  obtain ⟨e, m, hleast, hm, rfl⟩ := hr
  have hunit : (0 : ℚ) < 10 ^ e := by positivity
  have hlast : maxPower + 1 < e + precision :=
    (zpow_lt_zpow_iff_right₀ (by norm_num : (1 : ℚ) < 10)).1 (hp.trans_lt hleast.1.2)
  have he : minExponent < e := by
    simp only [maxPower, minExponent, precision] at hlast ⊢
    omega
  have hdigits : ((10 ^ (precision - 1) : ℕ) : ℚ) ≤ p / 10 ^ e := by
    rw [le_div_iff₀ hunit]
    have := le_of_isLeast hleast he
    rw [add_comm, zpow_add₀ (by norm_num)] at this
    exact_mod_cast this
  have hm' : ((10 ^ (precision - 1) : ℕ) : ℚ) ≤ m := by exact_mod_cast hm.le_of_le hdigits
  calc limit ≤ 10 ^ (e + (precision - 1)) :=
        zpow_le_zpow_right₀ (by norm_num) (by omega)
    _ = ((10 ^ (precision - 1) : ℕ) : ℚ) * 10 ^ e := by
        rw [add_comm, zpow_add₀ (by norm_num)]
        norm_cast
    _ ≤ m * 10 ^ e := mul_le_mul_of_nonneg_right hm' hunit.le

/-! ## The arithmetic rounds so -/

/-- The power of ten of the last digit that a number keeps. -/
def least (x : Numeral) : ℤ :=
  max minExponent (x.exponent + Numeral.digitCount x.coefficient - 1 - (precision - 1))

theorem isLeast_least {x : Numeral} (h : x.coefficient ≠ 0) :
    IsLeast {k | Admits x.magnitude k} (least x) := by
  constructor
  · refine ⟨le_max_left _ _, (Numeral.magnitude_lt_iff h).2 ?_⟩
    unfold least
    omega
  · rintro k ⟨hk, hlt⟩
    have := (Numeral.magnitude_lt_iff h).1 hlt
    exact max_le hk (by omega)

theorem roundsTo_self {x : Numeral} (h : x.coefficient ≠ 0) (hfew : least x ≤ x.exponent) :
    RoundsTo x.magnitude x.magnitude :=
  ⟨_, _, isLeast_least h, isNearest_of_le x.coefficient hfew,
    mul_zpow_eq_of_le x.coefficient hfew⟩

theorem roundsTo_dropPlaces {x : Numeral} (h : x.coefficient ≠ 0) (hmany : x.exponent < least x) :
    RoundsTo x.magnitude
      (dropPlaces x.coefficient (least x - x.exponent).toNat * 10 ^ least x) := by
  refine ⟨_, _, isLeast_least h, ?_, rfl⟩
  have hquotient : x.magnitude / 10 ^ least x =
      x.coefficient / 10 ^ (least x - x.exponent).toNat := by
    rw [← zpow_natCast, Int.toNat_of_nonneg (by omega), zpow_sub₀ (by norm_num), Numeral.magnitude]
    field_simp
  rw [hquotient]
  exact isNearest_dropPlaces _ _

theorem roundsTo_zero : RoundsTo 0 0 :=
  ⟨minExponent, 0, ⟨⟨le_rfl, by positivity⟩, fun _ hk => hk.1⟩, by simpa using isNearest_self 0,
    by simp⟩

theorem exists_roundsTo (x : Numeral) : ∃ r, RoundsTo x.magnitude r := by
  by_cases h : x.coefficient = 0
  · exact ⟨0, by simpa [Numeral.magnitude, h] using roundsTo_zero⟩
  · rcases le_or_gt (least x) x.exponent with hfew | hmany
    · exact ⟨_, roundsTo_self h hfew⟩
    · exact ⟨_, roundsTo_dropPlaces h hmany⟩

/-- A number and what came of rounding it to another: this with the sign kept, or an overflow. -/
def Fits (x : Numeral) (r : ℚ) : Except Fault Numeral → Prop
  | .ok y => y.magnitude = r ∧ y.negative = x.negative ∧ r < limit
  | .error fault => fault = .overflow ∧ limit ≤ r

theorem lt_limit {x : Numeral}
    (h : x.exponent + Numeral.digitCount x.coefficient - 1 ≤ maxPower) : x.magnitude < limit :=
  x.magnitude_lt.trans_le (zpow_le_zpow_right₀ (by norm_num) (by omega))

theorem limit_le_magnitude {x : Numeral} (h : x.coefficient ≠ 0)
    (hover : maxPower < x.exponent + Numeral.digitCount x.coefficient - 1) :
    limit ≤ x.magnitude := by
  refine not_lt.1 fun hlt => ?_
  have := (Numeral.magnitude_lt_iff h).1 hlt
  omega

/-- The check of the range is about the value, whatever the digits are. -/
theorem fits_checked {x y : Numeral} {r : ℚ} (hsign : y.negative = x.negative)
    (hvalue : y.magnitude = r) (hexponent : y.exponent ≤ maxPower) :
    Fits x r (if maxPower < y.exponent + Numeral.digitCount y.coefficient - 1 then .error .overflow
      else .ok y) := by
  split
  · rename_i hover
    refine ⟨rfl, hvalue ▸ limit_le_magnitude ?_ hover⟩
    intro hzero
    rw [hzero, Numeral.digitCount_zero] at hover
    omega
  · exact ⟨hvalue, hsign, hvalue ▸ lt_limit (by omega)⟩

/-- Numbers are rounded to the nearest ones, and those that this takes beyond the greatest power of
ten are refused. -/
theorem fit_spec (x : Numeral) : ∃ r, RoundsTo x.magnitude r ∧ Fits x r (fit x) := by
  unfold fit
  split
  · rename_i hzero
    have hmagnitude : x.magnitude = 0 := by simp [Numeral.magnitude, hzero]
    refine ⟨0, hmagnitude ▸ roundsTo_zero, by simp [Numeral.magnitude], rfl, ?_⟩
    unfold limit
    positivity
  · rename_i hne
    dsimp only
    split
    · rename_i hover
      obtain ⟨r, hr⟩ := exists_roundsTo x
      exact ⟨r, hr, rfl, hr.limit_le (limit_le_magnitude hne hover)⟩
    · rename_i hbelow
      rw [← least]
      split
      · rename_i hfew
        exact ⟨_, roundsTo_self hne hfew, rfl, rfl, lt_limit (by omega)⟩
      · rename_i hmany
        refine ⟨_, roundsTo_dropPlaces hne (by omega), ?_⟩
        set c := dropPlaces x.coefficient (least x - x.exponent).toNat
        have hleast : least x < maxPower := by
          unfold least
          simp only [maxPower, minExponent, precision] at hbelow ⊢
          omega
        apply fits_checked
        · split <;> rfl
        · split
          · -- The carry made one digit more, which is a zero.
            rename_i hcarry
            have htenth : c / 10 * 10 = c := by
              rw [hcarry]
              decide
            rw [Numeral.magnitude, zpow_add_one₀ (by norm_num)]
            rw [show (c : ℚ) = (c / 10 * 10 : ℕ) by rw [htenth]]
            push_cast
            ring
          · rfl
        · split
          · exact hleast
          · exact hleast.le

/-! ## Products -/

/-- The product of a numeral with a whole number, before it is rounded. -/
def product (k : ℕ) (x : Numeral) : Numeral :=
  ⟨x.negative, k * x.coefficient, x.exponent⟩

theorem magnitude_product (k : ℕ) (x : Numeral) : (product k x).magnitude = x.magnitude * k := by
  rw [Numeral.magnitude, Numeral.magnitude, product]
  push_cast
  ring

/-- What becomes of a product. -/
theorem product_spec (k : ℕ) (x : Numeral) :
    ∃ r, RoundsTo (x.magnitude * k) r ∧ Fits (product k x) r (fit (product k x)) := by
  rw [← magnitude_product]
  exact fit_spec (product k x)

/-- The product with so many units does not exist: one factor is a signalling special value, or it
is rounded to a number beyond the greatest power of ten. -/
inductive Faults (unit : ℕ) : Decimal → Fault → Prop where
  | signalling : Faults unit (.nan true) .signalling
  | overflow {x : Numeral} {r : ℚ} (hr : RoundsTo (x.magnitude * unit) r) (hbeyond : limit ≤ r) :
      Faults unit (.finite x) .overflow

theorem scale_eq_error_iff {unit : ℕ} {x : Decimal} {fault : Fault} :
    x.scale unit = .error fault ↔ x.Faults unit fault := by
  cases x with
  | infinite negative => exact iff_of_false nofun nofun
  | nan signalling =>
    cases signalling with
    | false => exact iff_of_false nofun nofun
    | true =>
      constructor
      · intro h
        cases h
        exact .signalling
      · rintro ⟨⟩
        rfl
  | finite x =>
    obtain ⟨r, hr, hfits⟩ := product_spec unit x
    rw [scale, ← product]
    cases hfit : fit (product unit x) with
    | ok y =>
      rw [hfit] at hfits
      refine iff_of_false nofun ?_
      rintro (_ | ⟨hr', hbeyond⟩)
      exact absurd (hr'.unique hr ▸ hbeyond) (not_le.2 hfits.2.2)
    | error fault' =>
      rw [hfit] at hfits
      obtain ⟨rfl, hbeyond⟩ := hfits
      constructor
      · intro h
        cases h
        exact .overflow hr hbeyond
      · rintro ⟨⟩
        rfl

theorem Faults.unique {unit : ℕ} {x : Decimal} {fault fault' : Fault} (h : x.Faults unit fault)
    (h' : x.Faults unit fault') : fault = fault' :=
  Except.error.inj ((scale_eq_error_iff.2 h).symm.trans (scale_eq_error_iff.2 h'))

/-! ## Whole numbers -/

theorem wholeValue?_eq_some_iff {x : Numeral} {n : ℕ} :
    wholeValue? x = some n ↔ x.magnitude = n := by
  unfold wholeValue?
  split
  · rename_i hzero
    simp [Numeral.magnitude, hzero, eq_comm]
  · rename_i hne
    split
    · rename_i hexponent
      have hpower : x.magnitude = (x.coefficient * 10 ^ x.exponent.toNat : ℕ) := by
        obtain ⟨k, hk⟩ := Int.eq_ofNat_of_zero_le hexponent
        rw [Numeral.magnitude, hk, Int.toNat_natCast, zpow_natCast]
        push_cast
        rfl
      rw [hpower, Nat.cast_inj, Option.some_inj, Nat.pow_eq]
    · rename_i hexponent
      dsimp only
      rw [show Nat.pow 10 (-x.exponent).toNat = 10 ^ (-x.exponent).toNat from rfl]
      set places := (-x.exponent).toNat with hplaces
      have hunit : 0 < 10 ^ places := Nat.pow_pos (by decide)
      -- The numeral is a quotient, and it is whole when the unit divides the coefficient.
      have hquotient : x.magnitude = n ↔ x.coefficient = n * 10 ^ places := by
        rw [Numeral.magnitude, show x.exponent = -(places : ℤ) by omega, zpow_neg, zpow_natCast,
          ← div_eq_mul_inv, div_eq_iff (by positivity)]
        exact_mod_cast Iff.rfl
      rw [hquotient]
      split
      · rename_i hfew
        have hlt : x.coefficient < 10 ^ places :=
          (Numeral.lt_pow_digitCount _).trans_le (Nat.pow_le_pow_right (by decide) hfew)
        refine iff_of_false (by simp) fun heq => ?_
        rcases Nat.eq_zero_or_pos n with rfl | hpos
        · exact hne (by simpa using heq)
        · exact absurd (heq ▸ hlt) (Nat.not_lt.2 (Nat.le_mul_of_pos_left _ hpos))
      · split
        · rename_i hdivides
          rw [Option.some_inj, Nat.div_eq_iff_eq_mul_left hunit (Nat.dvd_of_mod_eq_zero hdivides)]
        · rename_i hdivides
          refine iff_of_false (by simp) fun heq => hdivides ?_
          rw [heq, Nat.mul_mod_left]

end Decimal

end Runesmith
