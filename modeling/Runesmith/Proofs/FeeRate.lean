import Mathlib
import Runesmith.FeeRate

/-!
# Fee rates that the node can be told

The node is told a rate in a unit of its own, which is computed with doubles. Rounding overflows
only close to the largest double, so every rate below `10^300` sats for a virtual byte can be told
(`exists_fundOptions`).
-/

namespace Runesmith

namespace Binary64

/-- A finite double whose magnitude is below a bound. -/
def Below (bound : Nat) : Binary64 → Prop
  | .finite _ m e => (magnitude m e).1 < bound * (magnitude m e).2
  | _ => False

instance (bound : Nat) : (x : Binary64) → Decidable (Below bound x)
  | .nan => inferInstanceAs (Decidable False)
  | .infinite _ => inferInstanceAs (Decidable False)
  | .finite _ _ _ => inferInstanceAs (Decidable (_ < _))

/-! ## Rounding -/

/-- The bits of a numerator and a denominator bound the exponent of their quotient. -/
theorem exponentFor_le {num den k : Nat} (hnum : num ≠ 0) (h : num < 2 ^ k * den) :
    exponentFor num den ≤ max minExponent (k - 52) := by
  have hden : den < 2 ^ (den.log2 + 1) := Nat.lt_log2_self
  have hproduct : num < 2 ^ (k + (den.log2 + 1)) := by
    calc num < 2 ^ k * den := h
      _ ≤ 2 ^ k * 2 ^ (den.log2 + 1) := Nat.mul_le_mul_left _ hden.le
      _ = 2 ^ (k + (den.log2 + 1)) := (Nat.pow_add ..).symm
  have hlog : num.log2 < k + (den.log2 + 1) := (Nat.log2_lt hnum).2 hproduct
  unfold exponentFor
  dsimp only
  split <;> omega

/-- A quotient well below the largest double is rounded to a finite one. -/
theorem isFinite_ofRatio (negative : Bool) {num den k : Nat} (h : num < 2 ^ k * den)
    (hk : k ≤ 1022) : (ofRatio negative num den).isFinite = true := by
  unfold ofRatio
  by_cases hnum : num = 0
  · rw [if_pos hnum]
    rfl
  have hexponent := exponentFor_le hnum h
  have hmost : exponentFor num den + 1 ≤ maxExponent := by
    unfold minExponent at hexponent
    unfold maxExponent
    omega
  rw [if_neg hnum]
  -- Rounding may carry the mantissa to the next power of two, which costs one exponent more.
  by_cases hcarry : roundHalfEven (scaleDown num den (exponentFor num den)).1
      (scaleDown num den (exponentFor num den)).2 = Nat.pow 2 53
  · simp only [hcarry, if_true, if_neg (not_lt.2 hmost)]
    rfl
  · have hleast : ¬ maxExponent < exponentFor num den := by omega
    simp only [hcarry, if_false, if_neg hleast]
    rfl

theorem exists_ceiling {x : Binary64} (h : x.isFinite = true) : ∃ n, x.ceiling? = some n := by
  cases x with
  | nan => cases h
  | infinite negative => cases h
  | finite negative m e => exact ⟨_, rfl⟩

theorem isFinite_scale {x : Binary64} {factor bound k : Nat} (h : x.Below bound)
    (hfactor : 0 < factor) (hbound : factor * bound ≤ 2 ^ k) (hk : k ≤ 1022) :
    (x.scale factor).isFinite = true := by
  cases x with
  | nan => exact absurd h id
  | infinite negative => exact absurd h id
  | finite negative m e =>
    refine isFinite_ofRatio negative ?_ hk
    calc factor * (magnitude m e).1 < factor * (bound * (magnitude m e).2) :=
          Nat.mul_lt_mul_of_pos_left h hfactor
      _ = factor * bound * (magnitude m e).2 := (Nat.mul_assoc ..).symm
      _ ≤ 2 ^ k * (magnitude m e).2 := Nat.mul_le_mul_right _ hbound

end Binary64

namespace FeeRate

/-- The rates that are told to the node, in sats for a virtual byte, stay below `10^300`. -/
def limit : Nat := 1000 ^ 100

/-- Ten bits are enough for three decimal digits. -/
theorem mul_pow_le (n : Nat) : 1000 * 1000 ^ n ≤ 2 ^ (10 * (n + 1)) := by
  calc 1000 * 1000 ^ n = 1000 ^ (n + 1) := (Nat.pow_succ' ..).symm
    _ ≤ (2 ^ 10) ^ (n + 1) := Nat.pow_le_pow_left (by decide) _
    _ = 2 ^ (10 * (n + 1)) := (Nat.pow_mul ..).symm

/-- The node can be told every rate below the limit. -/
theorem exists_fundOptions {rate : FeeRate} (h : rate.satVb.Below limit) (changePosition : Int)
    (lockUnspents : Bool) :
    ∃ options, rate.fundOptions? changePosition lockUnspents = some options := by
  have hfinite : (rate.satVb.scale 1000).isFinite = true :=
    Binary64.isFinite_scale h (Nat.zero_lt_succ 999) (mul_pow_le 100) (by decide)
  obtain ⟨sats, hsats⟩ := Binary64.exists_ceiling hfinite
  rw [fundOptions?, btcPerKvb?, hsats]
  exact ⟨_, rfl⟩

end FeeRate

end Runesmith
