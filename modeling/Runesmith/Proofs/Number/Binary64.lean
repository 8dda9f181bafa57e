import Mathlib.Algebra.Group.Int.Defs
import Mathlib.Algebra.Group.Nat.Even
import Mathlib.Algebra.Order.Group.Int
import Runesmith.Json.Shape

/-!
# Whole numbers as doubles

Which whole numbers have a double. The largest double is `(2^53 - 1) · 2^971`, and what is nearer to
it than to the next power of two is rounded down to it.

* `exponentFor_one`: a whole number is rounded to 53 bits.
* `roundHalfEven_eq_iff`: when rounding carries to the next power of two; half way it does.
* `isFinite_ofInt_iff`: so the numbers below `(2^54 - 1) · 2^970` have a double, and no others.
-/

namespace Runesmith

namespace Binary64

/-! ## The exponent of a whole number -/

/-- A number of `k + 53` bits is scaled down by `2 ^ k`. -/
theorem scaleDown_one_of_le (num : Nat) {e : Int} (h : 0 ≤ e) :
    scaleDown num 1 e = (num, 2 ^ e.toNat) := by
  rw [scaleDown, if_pos h, Nat.one_mul]
  rfl

theorem scaleDown_one_of_lt (num : Nat) {e : Int} (h : e < 0) :
    scaleDown num 1 e = (num * 2 ^ (-e).toNat, 1) := by
  rw [scaleDown, if_neg (Int.not_le.2 h)]
  rfl

/-- Scaled to one bit more than a mantissa has, a whole number does not fit a mantissa. -/
theorem pow_le_scaleDown {num : Nat} (h : num ≠ 0) :
    2 ^ 53 ≤ (scaleDown num 1 ((num.log2 : Int) - 53)).1
      / (scaleDown num 1 ((num.log2 : Int) - 53)).2 := by
  have hlog : 2 ^ num.log2 ≤ num := Nat.log2_self_le h
  by_cases hlarge : 53 ≤ num.log2
  · obtain ⟨k, hk⟩ := Nat.exists_eq_add_of_le hlarge
    have hexponent : ((num.log2 : Int) - 53).toNat = k := by omega
    rw [scaleDown_one_of_le num (by omega), hexponent, Nat.le_div_iff_mul_le (Nat.two_pow_pos k),
      ← Nat.pow_add, ← hk]
    exact hlog
  · have hexponent : 53 = num.log2 + (-((num.log2 : Int) - 53)).toNat := by omega
    rw [scaleDown_one_of_lt num (by omega), Nat.div_one]
    calc 2 ^ 53 = 2 ^ num.log2 * 2 ^ (-((num.log2 : Int) - 53)).toNat := by
          rw [← Nat.pow_add, ← hexponent]
      _ ≤ num * 2 ^ (-((num.log2 : Int) - 53)).toNat := Nat.mul_le_mul_right _ hlog

theorem exponentFor_one {num : Nat} (h : num ≠ 0) : exponentFor num 1 = (num.log2 : Int) - 52 := by
  have hlog : Nat.log2 1 = 0 := by decide
  have hlarge : ¬ (scaleDown num 1 ((num.log2 : Int) - 53)).1
      / (scaleDown num 1 ((num.log2 : Int) - 53)).2 < Nat.pow 2 53 :=
    Nat.not_lt.2 (pow_le_scaleDown h)
  simp only [exponentFor, hlog, Int.natCast_zero, Int.sub_zero, minExponent]
  rw [if_neg hlarge]
  omega

/-! ## The carry -/

/-- A quotient below an even number is rounded to it from half a unit below it. -/
theorem roundHalfEven_eq_iff {num half top : Nat} (hhalf : 0 < half) (htop : Even top)
    (hlt : num < top * (2 * half)) :
    roundHalfEven num (2 * half) = top ↔ top * (2 * half) ≤ num + half := by
  have hunit : 0 < 2 * half := by omega
  have hdivision := Nat.div_add_mod' num (2 * half)
  have hremainder : num % (2 * half) < 2 * half := Nat.mod_lt num hunit
  have hquotient : num / (2 * half) < top := (Nat.div_lt_iff_lt_mul hunit).2 hlt
  rw [roundHalfEven]
  generalize num / (2 * half) = quotient at *
  generalize num % (2 * half) = remainder at *
  obtain ⟨k, rfl⟩ := htop
  rcases Nat.lt_or_ge (quotient + 1) (k + k) with hbelow | hnext
  · -- The quotient is too small to be rounded so far up.
    have hgap : (quotient + 2) * (2 * half) ≤ (k + k) * (2 * half) :=
      Nat.mul_le_mul_right _ hbelow
    rw [Nat.add_mul] at hgap
    refine iff_of_false ?_ (by omega)
    split
    · omega
    · split <;> omega
  · obtain ⟨hk, hodd⟩ : k + k = quotient + 1 ∧ quotient % 2 = 1 := by omega
    rw [hk, Nat.add_mul, hodd]
    split
    · exact iff_of_false (by omega) (by omega)
    · refine iff_of_true ?_ (by omega)
      split <;> rfl

/-! ## Which whole numbers have a double -/

/-- A double that was rounded is finite if its exponent, with the carry, is not too large. -/
theorem isFinite_ofRatio_iff {negative : Bool} {num : Nat} (h : num ≠ 0) :
    (ofRatio negative num 1).isFinite = true ↔
      (if roundHalfEven (scaleDown num 1 ((num.log2 : Int) - 52)).1
          (scaleDown num 1 ((num.log2 : Int) - 52)).2 = 2 ^ 53
        then (num.log2 : Int) + 1 else num.log2) ≤ 1023 := by
  rw [ofRatio, if_neg h, exponentFor_one h]
  dsimp only
  rw [show Nat.pow 2 53 = 2 ^ 53 from rfl]
  unfold maxExponent
  split
  · split
    · exact iff_of_false nofun (by omega)
    · exact iff_of_true rfl (by omega)
  · split
    · exact iff_of_false nofun (by omega)
    · exact iff_of_true rfl (by omega)

theorem isFinite_ofRatio_one_iff {negative : Bool} {num : Nat} :
    (ofRatio negative num 1).isFinite = true ↔ num < (2 ^ 54 - 1) * 2 ^ 970 := by
  -- The power is too large to be computed with, so its exponent gets a name.
  obtain ⟨k, hk⟩ : ∃ k : Nat, k = 970 := ⟨_, rfl⟩
  rw [← hk]
  have hpos : 0 < 2 ^ k := Nat.two_pow_pos k
  by_cases hzero : num = 0
  · rw [hzero]
    exact iff_of_true rfl (by omega)
  rw [isFinite_ofRatio_iff hzero]
  rcases Nat.lt_trichotomy num.log2 (53 + k) with hsmall | hedge | hlarge
  · have hlt : num < 2 ^ (53 + k) := (Nat.log2_lt hzero).1 hsmall
    rw [Nat.pow_add] at hlt
    refine iff_of_true ?_ (by omega)
    split <;> omega
  · -- Here it is the carry that decides.
    have hlt : num < 2 ^ (54 + k) := (Nat.log2_lt hzero).1 (by omega)
    rw [Nat.pow_add] at hlt
    have hexponent : ((num.log2 : Int) - 52).toNat = k + 1 := by omega
    have hscaled : scaleDown num 1 ((num.log2 : Int) - 52) = (num, 2 * 2 ^ k) := by
      rw [scaleDown_one_of_le num (by omega), hexponent, Nat.pow_succ']
    have hcarry : roundHalfEven num (2 * 2 ^ k) = 2 ^ 53 ↔ 2 ^ 53 * (2 * 2 ^ k) ≤ num + 2 ^ k :=
      roundHalfEven_eq_iff hpos ⟨2 ^ 52, by decide⟩ (hlt.trans_eq (by omega))
    simp only [hscaled, hcarry]
    split <;> omega
  · have hle : 2 ^ (54 + k) ≤ num := (Nat.le_log2 hzero).1 (by omega)
    rw [Nat.pow_add] at hle
    refine iff_of_false ?_ (by omega)
    split <;> omega

/-- The whole numbers that have a double. -/
theorem isFinite_ofInt_iff {n : Int} :
    (ofInt n).isFinite = true ↔ n.natAbs < (2 ^ 54 - 1) * 2 ^ 970 :=
  isFinite_ofRatio_one_iff

end Binary64

end Runesmith
