import Runesmith.Text.Blank
import Runesmith.Text.Case

/-!
# Case and blanks of ASCII text

Letter case is a matter of every script, but on ASCII characters it is what the standard library
has. Cutting off blanks leaves text alone that begins and ends with other characters.

* `lower_of_ascii`, `isMixedCase_of_ascii`: lower-casing and the test for mixed case on ASCII text.
* `toList_lower_of_no_sigma`: a character is put in lower case whatever stands around it, unless the
  text has a capital sigma.
* `trimBy_append_cons`: cutting the end of a text behind a character that is kept.
* `trimBy_padded`: cutting off exactly what was put around a text.
-/

namespace Runesmith.Text

/-! ## Case -/

/-- Text of ASCII characters only. -/
def IsAscii (text : String) : Prop :=
  ∀ c ∈ text.toList, c.toNat < 128

theorem forall_ascii {P : Char → Prop} (h : ∀ n < 128, P (Char.ofNat n)) {c : Char}
    (hc : c.toNat < 128) : P c := by
  have hchar := h c.toNat hc
  rwa [Char.ofNat_toNat] at hchar

theorem lowerChar_of_ascii {c : Char} (h : c.toNat < 128) : lowerChar c = [c.toLower] :=
  forall_ascii (P := fun c => lowerChar c = [c.toLower]) (by decide) h

theorem isLowered_of_ascii {c : Char} (h : c.toNat < 128) : isLowered c = (c.toLower == c) := by
  rw [isLowered, lowerChar_of_ascii h]
  simp [Bool.beq_eq_decide_eq]

theorem isRaised_of_ascii {c : Char} (h : c.toNat < 128) : isRaised c = (c.toUpper == c) :=
  forall_ascii (P := fun c => isRaised c = (c.toUpper == c)) (by decide) h

theorem toList_toLower (text : String) : text.toLower.toList = text.toList.map Char.toLower :=
  String.toList_map

theorem toList_toUpper (text : String) : text.toUpper.toList = text.toList.map Char.toUpper :=
  String.toList_map

/-- A character that is kept is no capital sigma. -/
theorem ne_sigma_of_kept {c : Char} (h : lowerChar c = [c]) : c ≠ sigma := by
  rintro rfl
  exact absurd h (by decide)

section

variable {cs : List Char}

/-- Without a capital sigma, every character is put in lower case on its own. -/
theorem lowerFrom_of_no_sigma (h : sigma ∉ cs) (before : List Char) :
    lowerFrom before cs = cs.flatMap lowerChar := by
  induction cs generalizing before with
  | nil => rfl
  | cons c rest ih =>
    rw [List.mem_cons, not_or] at h
    rw [lowerFrom, ih h.2, List.flatMap_cons, decide_eq_false (Ne.symm h.1), Bool.false_and,
      if_neg Bool.false_ne_true]

theorem mem_lowerFrom_of_kept {c : Char} (hkept : lowerChar c = [c]) (hc : c ∈ cs)
    (before : List Char) : c ∈ lowerFrom before cs := by
  induction cs generalizing before with
  | nil => cases hc
  | cons d rest ih =>
    rw [lowerFrom, List.mem_append]
    rcases List.mem_cons.1 hc with rfl | hmem
    · left
      rw [decide_eq_false (ne_sigma_of_kept hkept), Bool.false_and, if_neg Bool.false_ne_true,
        hkept]
      exact List.mem_singleton_self c
    · exact .inr (ih hmem _)

/-- Neither small sigma is an ASCII character. -/
theorem exists_beyond_ascii_of_sigma (h : sigma ∈ cs) (before : List Char) :
    ∃ c ∈ lowerFrom before cs, 128 ≤ c.toNat := by
  induction cs generalizing before with
  | nil => cases h
  | cons d rest ih =>
    rw [lowerFrom]
    rcases List.mem_cons.1 h with rfl | hmem
    · split
      · exact ⟨finalSigma, by simp, by decide⟩
      · exact ⟨'σ', List.mem_append_left _ (by decide), by decide⟩
    · obtain ⟨c, hc, hbeyond⟩ := ih hmem (d :: before)
      exact ⟨c, List.mem_append_right _ hc, hbeyond⟩

end

theorem toList_lower_of_no_sigma {text : String} (h : sigma ∉ text.toList) :
    (lower text).toList = text.toList.flatMap lowerChar := by
  rw [lower, String.toList_ofList, lowerFrom_of_no_sigma h]

/-- Text whose lowercase form is ASCII has no capital sigma. -/
theorem no_sigma_of_isAscii_lower {text : String} (h : IsAscii (lower text)) :
    sigma ∉ text.toList := by
  intro hsigma
  obtain ⟨c, hc, hbeyond⟩ := exists_beyond_ascii_of_sigma hsigma []
  have hascii := h c (by rwa [lower, String.toList_ofList])
  omega

theorem lower_of_ascii {text : String} (h : IsAscii text) : lower text = text.toLower := by
  have hchars (cs : List Char) (hcs : ∀ c ∈ cs, c.toNat < 128) :
      cs.flatMap lowerChar = cs.map Char.toLower := by
    induction cs with
    | nil => rfl
    | cons c rest ih =>
      rw [List.flatMap_cons, lowerChar_of_ascii (hcs c (by simp)),
        ih fun d hd => hcs d (by simp [hd]), List.map_cons, List.singleton_append]
  have hsigma : sigma ∉ text.toList := fun hmem => absurd (h sigma hmem) (by decide)
  rw [← String.toList_inj, toList_lower_of_no_sigma hsigma, hchars _ h, toList_toLower]

theorem lowerChar_of_isBlank {c : Char} (h : isBlank c = true) : lowerChar c = [c] := by
  by_cases hascii : c.toNat < 128
  · exact forall_ascii (P := fun c => isBlank c = true → lowerChar c = [c]) (by decide) hascii h
  · have hbeyond : ∀ n ∈ [0x85, 0xA0, 0x1680, 0x2000, 0x2001, 0x2002, 0x2003, 0x2004, 0x2005,
        0x2006, 0x2007, 0x2008, 0x2009, 0x200A, 0x2028, 0x2029, 0x202F, 0x205F, 0x3000],
        lowerChar (Char.ofNat n) = [Char.ofNat n] := by decide
    have hmem := hbeyond c.toNat (by
      simp only [isBlank, isNumeralBlank, isInformationSeparator, if_neg hascii, Bool.or_eq_true,
        decide_eq_true_eq] at h
      simp only [List.mem_cons, List.not_mem_nil, or_false]
      omega)
    rwa [Char.ofNat_toNat] at hmem

/-- A change of characters leaves a list alone exactly if it leaves each of them alone. -/
theorem map_eq_self_iff (f : Char → Char) (cs : List Char) :
    cs.map f = cs ↔ ∀ c ∈ cs, f c = c := by
  constructor
  · intro h c hc
    exact List.map_eq_map_iff.1 (h.trans (List.map_id cs).symm) c hc
  · intro h
    exact (List.map_congr_left h).trans (List.map_id cs)

theorem toLower_eq_self_iff {text : String} :
    text.toLower = text ↔ ∀ c ∈ text.toList, c.toLower = c := by
  rw [← String.toList_inj, toList_toLower, map_eq_self_iff]

theorem toUpper_eq_self_iff {text : String} :
    text.toUpper = text ↔ ∀ c ∈ text.toList, c.toUpper = c := by
  rw [← String.toList_inj, toList_toUpper, map_eq_self_iff]

/-- Text that is all in lower case or all in upper case. -/
def IsOneCase (text : String) : Prop :=
  text.toLower = text ∨ text.toUpper = text

theorem isMixedCase_of_ascii {text : String} (h : IsAscii text) :
    isMixedCase text = false ↔ IsOneCase text := by
  have hlowered : text.toList.any (not ∘ isLowered) = false ↔ text.toLower = text := by
    rw [toLower_eq_self_iff, List.any_eq_false]
    refine forall₂_congr fun c hc => ?_
    simp [isLowered_of_ascii (h c hc)]
  have hraised : text.toList.any (not ∘ isRaised) = false ↔ text.toUpper = text := by
    rw [toUpper_eq_self_iff, List.any_eq_false]
    refine forall₂_congr fun c hc => ?_
    simp [isRaised_of_ascii (h c hc)]
  rw [isMixedCase, Bool.and_eq_false_iff, hlowered, hraised, IsOneCase]

/-! ## Blanks -/

theorem mem_of_mem_trimBy {drop : Char → Bool} {cs : List Char} {c : Char}
    (h : c ∈ trimBy drop cs) : c ∈ cs := by
  rw [trimBy, List.mem_reverse] at h
  have hfront := (List.dropWhile_suffix drop).mem h
  exact (List.dropWhile_suffix drop).mem (List.mem_reverse.1 hfront)

theorem IsAscii.trim {text : String} (h : IsAscii text) : IsAscii (trim text) := by
  intro c hc
  rw [Text.trim, String.toList_ofList] at hc
  exact h c (mem_of_mem_trimBy hc)

theorem dropWhile_of_head {drop : Char → Bool} {cs : List Char}
    (h : ∀ c ∈ cs.head?, drop c = false) : cs.dropWhile drop = cs := by
  match cs with
  | [] => rfl
  | c :: rest => exact List.dropWhile_cons_of_neg (by simp [h c rfl])

/-- Text that begins with a character that is kept, and has another one, is cut behind that. -/
theorem trimBy_append_cons {drop : Char → Bool} {front back : List Char} {c : Char}
    (hfront : ∀ d ∈ front.head?, drop d = false) (hc : drop c = false) :
    trimBy drop (front ++ c :: back) = front ++ c :: (back.reverse.dropWhile drop).reverse := by
  have hstart : (front ++ c :: back).dropWhile drop = front ++ c :: back := by
    apply dropWhile_of_head
    match front with
    | [] => simpa using hc
    | d :: front => exact hfront
  have hend : (back.reverse ++ c :: front.reverse).dropWhile drop =
      back.reverse.dropWhile drop ++ c :: front.reverse := by
    rw [List.dropWhile_append, List.dropWhile_cons_of_neg (by simp [hc])]
    split
    case isTrue hempty => rw [List.isEmpty_iff.1 hempty, List.nil_append]
    case isFalse => rfl
  rw [trimBy, hstart, List.reverse_append, List.reverse_cons, List.append_assoc,
    List.singleton_append, hend, List.reverse_append, List.reverse_cons, List.reverse_reverse,
    List.append_assoc, List.singleton_append]

/-- What stands between characters that are dropped, and neither begins nor ends with one. -/
theorem trimBy_padded {drop : Char → Bool} {before core after : List Char}
    (hbefore : ∀ c ∈ before, drop c = true) (hafter : ∀ c ∈ after, drop c = true)
    (hne : core ≠ []) (hfirst : ∀ c ∈ core.head?, drop c = false)
    (hlast : ∀ c ∈ core.getLast?, drop c = false) :
    trimBy drop (before ++ core ++ after) = core := by
  have hfront : (before ++ core ++ after).dropWhile drop = core ++ after := by
    rw [List.append_assoc, List.dropWhile_append_of_pos hbefore]
    apply dropWhile_of_head
    match core with
    | d :: rest => exact hfirst
  have hback : (after.reverse ++ core.reverse).dropWhile drop = core.reverse := by
    rw [List.dropWhile_append_of_pos (by simpa using hafter)]
    exact dropWhile_of_head (by rwa [List.head?_reverse])
  rw [trimBy, hfront, List.reverse_append, hback, List.reverse_reverse]

/-- Text without blanks is left alone. -/
theorem trim_of_no_blank {text : String} (h : ∀ c ∈ text.toList, isBlank c = false) :
    trim text = text := by
  have hkept (cs : List Char) (hcs : ∀ c ∈ cs, isBlank c = false) :
      cs.dropWhile isBlank = cs :=
    dropWhile_of_head fun c hc => hcs c (List.mem_of_mem_head? hc)
  rw [trim, trimBy, hkept _ h, hkept _ fun c hc => h c (List.mem_reverse.1 hc),
    List.reverse_reverse, String.ofList_toList]

end Runesmith.Text
