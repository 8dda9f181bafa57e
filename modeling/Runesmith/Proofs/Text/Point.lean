import Runesmith.Proofs.Bytes
import Runesmith.Text.Point

/-!
# Code points and the spelling of keys

Text with lone surrogates is kept as it is, and a key with one is spelled in ordinary characters.
Nothing may be lost on the way, or two keys that differ would count as one.

* `chars_points`, `points_chars`: text and its characters, where no surrogate is in the way;
* `keyPoints_spelled`: a key is read back from its spelling, so that different keys are spelled
  differently (`keyOf_injective`);
* `keyOf_points`: plain keys are spelled as they are, and so can be looked up by their names.
-/

namespace Runesmith.Text

/-! ## Characters among code points -/

theorem chars_points (text : String) : chars (points text) = text.toList := by
  unfold chars points
  rw [List.filterMap_map]
  exact List.filterMap_some

/-- Without lone surrogates, the characters are all there is. -/
theorem points_chars {ps : List Point} (h : ps.any Point.isSurrogate = false) :
    (chars ps).map .char = ps := by
  induction ps with
  | nil => rfl
  | cons p rest ih =>
    rw [List.any_cons, Bool.or_eq_false_iff] at h
    cases p with
    | char c => exact congrArg (Point.char c :: ·) (ih h.2)
    | surrogate place => cases h.1

/-! ## Keys -/

theorem hexUnit?_paddedHex {n : Nat} (h : n < 0x10000) :
    ∃ a b c d, paddedHex 4 n = [a, b, c, d] ∧ hexUnit? a b c d = some n := by
  have hdigit (m : Nat) : Bytes.hexValue? (Bytes.hexDigit (m % 16)) = some (m % 16) :=
    Bytes.hexValue?_hexDigit (Nat.mod_lt m (by decide))
  refine ⟨Bytes.hexDigit (n / 4096 % 16), Bytes.hexDigit (n / 256 % 16),
    Bytes.hexDigit (n / 16 % 16), Bytes.hexDigit (n / 1 % 16), rfl, ?_⟩
  rw [hexUnit?, hdigit, hdigit, hdigit, hdigit]
  show some (((n / 4096 % 16 * 16 + n / 256 % 16) * 16 + n / 16 % 16) * 16 + n / 1 % 16) = some n
  congr 1
  omega

theorem ofNat_surrogate (place : Fin 0x800) :
    Point.ofNat (0xD800 + place) = .surrogate place := by
  unfold Point.ofNat
  split
  · exact congrArg Point.surrogate (Fin.ext (Nat.add_sub_cancel_left ..))
  · omega

theorem keyPoints_cons {c : Char} (hc : c ≠ '\\') (rest : List Char) :
    keyPoints (c :: rest) = .char c :: keyPoints rest := by
  rw [keyPoints.eq_def]
  split <;> simp_all

/-- The spelling of a code point is read as that code point, whatever stands behind it. -/
theorem keyPoints_spelled_append (p : Point) (rest : List Char) :
    keyPoints (p.spelled ++ rest) = p :: keyPoints rest := by
  cases p with
  | char c =>
    -- Only a backslash is spelled in another way, and read before all other rules.
    show keyPoints ((if c = '\\' then ['\\', '\\'] else [c]) ++ rest) = _
    by_cases hc : c = '\\'
    · rw [if_pos hc, hc]
      rfl
    · rw [if_neg hc]
      exact keyPoints_cons hc rest
  | surrogate place =>
    -- Four digits are enough for a surrogate, and they denote it again.
    have hplace := place.isLt
    obtain ⟨a, b, c, d, hdigits, hunit⟩ := hexUnit?_paddedHex (n := 0xD800 + place) (by omega)
    have hspelled : (Point.surrogate place).spelled = ['\\', 'u', a, b, c, d] := by
      rw [Point.spelled, Point.escape, hdigits]
    rw [hspelled]
    show keyPoints ('\\' :: 'u' :: a :: b :: c :: d :: rest) = _
    rw [keyPoints, hunit]
    dsimp only
    rw [ofNat_surrogate]

theorem keyPoints_spelled (ps : List Point) : keyPoints (ps.flatMap Point.spelled) = ps := by
  induction ps with
  | nil => rfl
  | cons p rest ih => rw [List.flatMap_cons, keyPoints_spelled_append, ih]

theorem pointsOfKey_keyOf (ps : List Point) : pointsOfKey (keyOf ps) = ps := by
  rw [pointsOfKey, keyOf, String.toList_ofList, keyPoints_spelled]

/-- Different keys have different spellings. -/
theorem keyOf_injective {ps qs : List Point} (h : keyOf ps = keyOf qs) : ps = qs := by
  rw [← pointsOfKey_keyOf ps, h, pointsOfKey_keyOf]

/-- A key without a backslash is spelled as it is. -/
theorem keyOf_points {text : String} (h : '\\' ∉ text.toList) : keyOf (points text) = text := by
  have hspelled (c : Char) (hc : c ∈ text.toList) : (Point.char c).spelled = [c] := by
    rw [Point.spelled, if_neg]
    rintro rfl
    exact h hc
  have hall : text.toList.flatMap (fun c => (Point.char c).spelled) = text.toList := by
    rw [List.flatMap, List.map_congr_left hspelled]
    exact List.flatMap_singleton' _
  rw [keyOf, points, List.flatMap_map, hall, String.ofList_toList]

end Runesmith.Text
