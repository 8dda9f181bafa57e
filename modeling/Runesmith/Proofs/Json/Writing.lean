import Mathlib.Data.List.TakeWhile
import Runesmith.Json.Printer
import Runesmith.Proofs.Text.Point

/-!
# Which documents can be written

A document is laid out as a list of code points and then written in UTF-8, which has no bytes for
lone surrogates. In a layout that keeps them, they show up where they are in the document: in its
texts and its keys.

* `hasLone_layout`: the layout has a lone surrogate exactly if the document is not smooth;
* `encodable_ok_iff`: what is written is the layout, code point by code point;
* `write_ok_iff` puts this together: a document can be written exactly if it is smooth and holds no
  whole number that is too long.
-/

namespace Runesmith.Json

/-! ## Documents without lone surrogates -/

/-- Has a key no lone surrogate? -/
def isSmoothKey (name : String) : Bool :=
  !(Text.pointsOfKey name).any Text.Point.isSurrogate

mutual

/-- Has neither a text nor a key of the value a lone surrogate? -/
def isSmooth : Json → Bool
  | rough _ => false
  | arr items => itemsSmooth items
  | obj members => membersSmooth members
  | _ => true

/-- Are all items without one? -/
def itemsSmooth : List Json → Bool
  | [] => true
  | x :: xs => isSmooth x && itemsSmooth xs

/-- Are all members without one? -/
def membersSmooth : List (String × Json) → Bool
  | [] => true
  | (name, x) :: xs => isSmoothKey name && (isSmooth x && membersSmooth xs)

end

theorem membersSmooth_append (front back : List (String × Json)) :
    membersSmooth (front ++ back) = (membersSmooth front && membersSmooth back) := by
  induction front with
  | nil => rfl
  | cons m rest ih =>
    simp only [List.cons_append, membersSmooth, ih, Bool.and_assoc]

theorem membersLongNumber_append (front back : List (String × Json)) :
    membersLongNumber (front ++ back) = (membersLongNumber front || membersLongNumber back) := by
  induction front with
  | nil => rfl
  | cons m rest ih =>
    simp only [List.cons_append, membersLongNumber, ih, Bool.or_assoc]

/-! ## Layouts -/

/-- Is one of the code points a lone surrogate? -/
abbrev hasLone (points : List Text.Point) : Bool :=
  points.any Text.Point.isSurrogate

theorem hasLone_map_char (cs : List Char) : hasLone (cs.map .char) = false := by
  rw [hasLone, List.any_map, List.any_eq_false]
  exact fun c _ => nofun

theorem hasLone_points (text : String) : hasLone (Text.points text) = false :=
  hasLone_map_char text.toList

theorem hasLone_append (front back : List Text.Point) :
    hasLone (front ++ back) = (hasLone front || hasLone back) :=
  List.any_append

/-- A style that keeps surrogates writes them as they are, and everything else in characters. -/
theorem hasLone_stringText (points : List Text.Point) :
    hasLone (stringText false points) = hasLone points := by
  have hescape (point : Text.Point) : hasLone (escapePoint false point) = point.isSurrogate := by
    cases point with
    | char c => exact hasLone_map_char (escapeChar false c)
    | surrogate place => rfl
  have hall : hasLone (points.flatMap (escapePoint false)) = hasLone points := by
    rw [hasLone, List.any_flatMap]
    exact congrArg points.any (funext hescape)
  rw [stringText, List.cons_append, hasLone, List.any_cons, ← hasLone, hasLone_append, hall]
  simp [Text.Point.isSurrogate]

section

variable {style : Style}

theorem hasLone_newline (level : Nat) : hasLone (style.newline level) = false := by
  unfold Style.newline
  cases style.indent with
  | none => rfl
  | some width =>
    rw [hasLone, List.any_eq_false]
    intro point hmem
    rcases List.mem_cons.1 hmem with rfl | hblank
    · exact Bool.false_ne_true
    · rw [List.eq_of_mem_replicate hblank]
      exact Bool.false_ne_true

theorem hasLone_divider (level : Nat) : hasLone (style.divider level) = false := by
  rw [Style.divider, hasLone_append, hasLone_points, hasLone_newline, Bool.or_false]

theorem hasLone_key (hkept : style.asciiOnly = false) (name : String) :
    hasLone (style.key name) = !isSmoothKey name := by
  rw [Style.key, hkept, hasLone_append, hasLone_stringText, hasLone_points, Bool.or_false,
    isSmoothKey, Bool.not_not]

mutual

/-- Walking through the value, the pieces of its text meet a lone surrogate exactly where the value
has one. -/
theorem hasLone_pieces (hkept : style.asciiOnly = false) (level : Nat) (value : Json)
    (tail : List (List Text.Point)) : hasLone (pieces style level value tail).flatten
      = (!isSmooth value || hasLone tail.flatten) := by
  -- Words, numbers and brackets are characters; texts and keys bring what they have.
  match value with
  | null => exact hasLone_append _ _ |>.trans (by rw [hasLone_points]; rfl)
  | bool b => exact hasLone_append _ _ |>.trans (by rw [hasLone_points]; rfl)
  | int n => exact hasLone_append _ _ |>.trans (by rw [hasLone_points]; rfl)
  | float x => exact hasLone_append _ _ |>.trans (by rw [hasLone_points]; rfl)
  | str s =>
    rw [pieces, List.flatten_cons, hasLone_append, hkept, hasLone_stringText, hasLone_points]
    rfl
  | rough text =>
    rw [pieces, List.flatten_cons, hasLone_append, hkept, hasLone_stringText]
    exact congrArg (· || _) text.lone
  | arr [] => exact hasLone_append _ _ |>.trans (by rw [hasLone_points]; rfl)
  | arr (x :: xs) =>
    simp only [pieces, List.flatten_cons, hasLone_append, hasLone_points, hasLone_newline,
      hasLone_pieces hkept (level + 1) x, hasLone_itemPieces hkept (level + 1) xs, isSmooth,
      itemsSmooth, Bool.not_and, Bool.or_assoc, Bool.false_or]
  | obj [] => exact hasLone_append _ _ |>.trans (by rw [hasLone_points]; rfl)
  | obj ((name, x) :: xs) =>
    simp only [pieces, List.flatten_cons, hasLone_append, hasLone_points, hasLone_newline,
      hasLone_key hkept, hasLone_pieces hkept (level + 1) x,
      hasLone_memberPieces hkept (level + 1) xs, isSmooth, membersSmooth, Bool.not_and,
      Bool.or_assoc, Bool.false_or]

theorem hasLone_itemPieces (hkept : style.asciiOnly = false) (level : Nat) (items : List Json)
    (tail : List (List Text.Point)) : hasLone (itemPieces style level items tail).flatten
      = (!itemsSmooth items || hasLone tail.flatten) := by
  match items with
  | [] => rfl
  | x :: xs =>
    simp only [itemPieces, List.flatten_cons, hasLone_append, hasLone_divider,
      hasLone_pieces hkept level x, hasLone_itemPieces hkept level xs, itemsSmooth, Bool.not_and,
      Bool.or_assoc, Bool.false_or]

theorem hasLone_memberPieces (hkept : style.asciiOnly = false) (level : Nat)
    (members : List (String × Json)) (tail : List (List Text.Point)) :
    hasLone (memberPieces style level members tail).flatten
      = (!membersSmooth members || hasLone tail.flatten) := by
  match members with
  | [] => rfl
  | (name, x) :: xs =>
    simp only [memberPieces, List.flatten_cons, hasLone_append, hasLone_divider,
      hasLone_key hkept, hasLone_pieces hkept level x, hasLone_memberPieces hkept level xs,
      membersSmooth, Bool.not_and, Bool.or_assoc, Bool.false_or]

end

/-- The layout has a lone surrogate exactly if the value is not smooth. -/
theorem hasLone_layout (hkept : style.asciiOnly = false) (value : Json) :
    hasLone (layout style value) = !isSmooth value := by
  rw [layout, hasLone_pieces hkept 0 value []]
  exact Bool.or_false _

end

/-! ## Writing -/

/-- What is written is what was laid out, and only lone surrogates stand in the way. -/
theorem encodable_ok_iff {points : List Text.Point} {text : String} :
    encodable points = .ok text ↔ points = Text.points text := by
  unfold encodable
  dsimp only
  constructor
  · intro h
    split at h
    case h_1 hnone =>
      have hsmooth : hasLone points = false := by
        rw [List.dropWhile_eq_nil_iff] at hnone
        rw [hasLone, List.any_eq_false]
        simpa using hnone
      cases h
      rw [Text.points, String.toList_ofList, Text.points_chars hsmooth]
    case h_2 => cases h
  · rintro rfl
    have hnone : (Text.points text).dropWhile (!·.isSurrogate) = [] := by
      rw [List.dropWhile_eq_nil_iff]
      simpa [List.any_eq_false] using hasLone_points text
    rw [hnone, Text.chars_points, String.ofList_toList]

theorem exists_encodable_iff {points : List Text.Point} :
    (∃ text, encodable points = .ok text) ↔ hasLone points = false := by
  constructor
  · rintro ⟨text, h⟩
    rw [encodable_ok_iff.1 h, hasLone_points]
  · intro h
    refine ⟨String.ofList (Text.chars points), encodable_ok_iff.2 ?_⟩
    rw [Text.points, String.toList_ofList, Text.points_chars h]

/-- A document can be written exactly if it holds neither a number that is too long nor a lone
surrogate. -/
theorem write_ok_iff {style : Style} (hkept : style.asciiOnly = false) (value : Json) :
    (∃ text, value.write style = .ok text)
      ↔ value.hasLongNumber = false ∧ value.isSmooth = true := by
  unfold write
  cases value.hasLongNumber with
  | true => exact iff_of_false nofun nofun
  | false =>
    rw [if_neg Bool.false_ne_true, exists_encodable_iff, hasLone_layout hkept, Bool.not_eq_false',
      and_iff_right rfl]

end Runesmith.Json
