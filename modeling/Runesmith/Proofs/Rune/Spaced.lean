import Runesmith.Proofs.Rune.Name

/-!
# The grammar of spaced names

A spaced name is a row of letters, each but the last with at most one spacer behind it. The scanner
sees it character by character and remembers letters and bits; here it is taken apart into pieces
instead, a letter and the spacer behind it, and the two views are related.

* `scan_spell`: behind a row of pieces the scanner holds their letters and the mask of their
  spacers.
* `ofText_of_spelled`, `ofText_of_faulty`: what is read from a spaced name, and what is blamed in
  any other text.
* `ofText_text`: what is shown is read again.
* `spaced_grammar`: the grammar, the bits and the text that is shown, for every text and every rune.
-/

namespace Runesmith.SpacedRune

open Rune (IsLetter count)

/-! ## Masks -/

/-- The number whose bits are given, least significant first. -/
def mask : List Bool → Nat
  | [] => 0
  | bit :: bits => bit.toNat + 2 * mask bits

theorem mask_append (front back : List Bool) :
    mask (front ++ back) = mask front + 2 ^ front.length * mask back := by
  induction front with
  | nil => simp [mask]
  | cons bit bits ih =>
    rw [List.cons_append, mask, mask, ih, List.length_cons, Nat.pow_succ]
    ring

theorem mask_lt (bits : List Bool) : mask bits < 2 ^ bits.length := by
  induction bits with
  | nil => decide
  | cons bit bits ih =>
    rw [mask, List.length_cons, Nat.pow_succ]
    have := bit.toNat_le
    omega

theorem testBit_mask (bits : List Bool) (i : Nat) : (mask bits).testBit i = bits.getD i false := by
  induction bits generalizing i with
  | nil => simp [mask]
  | cons bit bits ih =>
    have hbit := bit.toNat_le
    cases i with
    | zero =>
      rw [mask, Nat.testBit_zero, List.getD_cons_zero]
      cases bit <;> simp
    | succ i =>
      rw [mask, Nat.testBit_succ, List.getD_cons_succ, ← ih,
        show (bit.toNat + 2 * mask bits) / 2 = mask bits by omega]

theorem bitLength_lt_succ_iff {n k : Nat} : bitLength n < k + 1 ↔ n < 2 ^ k := by
  unfold bitLength
  split
  · rename_i hn
    simp [hn]
  · rename_i hn
    rw [Nat.add_lt_add_iff_right, Nat.log2_lt hn]

/-! ## Pieces -/

/-- A letter and the spacer behind it, if there is one. -/
structure Piece where
  letter : Char
  spacer : Option Char
  isLetter : IsLetter letter
  isSpacer : ∀ mark ∈ spacer, isSpacer mark = true

namespace Piece

/-- The characters of a piece. -/
def chars (piece : Piece) : List Char :=
  piece.letter :: piece.spacer.toList

/-- Is there a spacer behind the letter? -/
def isMarked (piece : Piece) : Bool :=
  piece.spacer.isSome

end Piece

/-- The characters of a row of pieces. -/
def spell (row : List Piece) : List Char :=
  row.flatMap Piece.chars

/-- The letters of a row of pieces. -/
def lettersOf (row : List Piece) : List Char :=
  row.map Piece.letter

/-- The number that tells behind which letters of a row there is a spacer. -/
def maskOf (row : List Piece) : Nat :=
  mask (row.map Piece.isMarked)

theorem spell_append (front back : List Piece) :
    spell (front ++ back) = spell front ++ spell back :=
  List.flatMap_append

theorem spell_singleton (piece : Piece) : spell [piece] = piece.chars := by
  simp [spell]

theorem lettersOf_append (front back : List Piece) :
    lettersOf (front ++ back) = lettersOf front ++ lettersOf back :=
  List.map_append

theorem length_lettersOf (row : List Piece) : (lettersOf row).length = row.length :=
  List.length_map ..

theorem isLetter_of_mem_lettersOf {row : List Piece} {c : Char} (h : c ∈ lettersOf row) :
    IsLetter c := by
  obtain ⟨piece, -, rfl⟩ := List.mem_map.1 h
  exact piece.isLetter

theorem maskOf_concat (front : List Piece) (piece : Piece) :
    maskOf (front ++ [piece]) = maskOf front + 2 ^ front.length * piece.isMarked.toNat := by
  simp [maskOf, mask_append, mask]

theorem maskOf_lt (row : List Piece) : maskOf row < 2 ^ row.length := by
  have := mask_lt (row.map Piece.isMarked)
  rwa [List.length_map] at this

theorem not_isLetter_of_isSpacer {c : Char} (h : isSpacer c = true) : ¬ IsLetter c := by
  rw [isSpacer, decide_eq_true_eq] at h
  rcases h with rfl | rfl <;> decide

/-! ## Scanning -/

section

variable {text : String} {letters : List Char} {spacers : Nat} {c : Char} {rest : List Char}

theorem scan_letter (hc : IsLetter c) :
    scan text letters spacers (c :: rest) = scan text (c :: letters) spacers rest := by
  rw [scan, if_pos (Rune.isSome_letterIndex?.2 hc)]

theorem scan_spacer (hc : isSpacer c = true) (hletters : letters ≠ [])
    (hbit : spacers.testBit (letters.length - 1) = false) :
    scan text letters spacers (c :: rest) =
      scan text letters (spacers + 2 ^ (letters.length - 1)) rest := by
  rw [scan, if_neg (mt Rune.isSome_letterIndex?.1 (not_isLetter_of_isSpacer hc)), if_pos hc,
    if_neg (by simpa using hletters), if_neg (by simp [hbit])]
  rfl

/-- Behind a row of pieces the scanner holds their letters and their mask. -/
theorem scan_spell (row : List Piece) (rest : List Char) :
    scan text [] 0 (spell row ++ rest) = scan text (lettersOf row).reverse (maskOf row) rest := by
  induction row using List.reverseRecOn generalizing rest with
  | nil => rfl
  | append_singleton front piece ih =>
    rw [spell_append, spell_singleton, List.append_assoc, ih, Piece.chars, List.cons_append,
      scan_letter piece.isLetter, lettersOf_append, maskOf_concat]
    rw [show lettersOf [piece] = [piece.letter] from rfl, List.reverse_concat]
    cases hspacer : piece.spacer with
    | none => simp [Piece.isMarked, hspacer]
    | some mark =>
      have hlength : (piece.letter :: (lettersOf front).reverse).length - 1 = front.length := by
        simp [length_lettersOf]
      rw [Option.toList_some, List.singleton_append,
        scan_spacer (piece.isSpacer mark hspacer) (by simp)
          (by rw [hlength]; exact Nat.testBit_lt_two_pow (maskOf_lt front)), hlength]
      simp [Piece.isMarked, hspacer]

end

/-- The row cannot be continued by the character: it is no letter, and no spacer unless a spacer
would stand at the front or behind another one. -/
def Stops (row : List Piece) (c : Char) : Prop :=
  ¬ IsLetter c ∧ (isSpacer c = true → ∀ piece ∈ row.getLast?, piece.isMarked = true)

/-- A text is a row of pieces, or one of its characters is the first that does not continue one. -/
theorem spelled_or_stopped (cs : List Char) :
    (∃ row, cs = spell row) ∨ ∃ row c back, cs = spell row ++ c :: back ∧ Stops row c := by
  induction cs using List.reverseRecOn with
  | nil => exact .inl ⟨[], rfl⟩
  | append_singleton cs c ih =>
    rcases ih with ⟨row, rfl⟩ | ⟨row, d, back, rfl, hd⟩
    · by_cases hletter : IsLetter c
      · refine .inl ⟨row ++ [⟨c, none, hletter, by simp⟩], ?_⟩
        rw [spell_append, spell_singleton]
        rfl
      · by_cases hstops : Stops row c
        · exact .inr ⟨row, c, [], rfl, hstops⟩
        · -- A spacer that does not stop the row stands behind the last letter.
          simp only [Stops, hletter, not_false_eq_true, true_and, not_forall] at hstops
          obtain ⟨hspacer, last, hlast, hmarked⟩ := hstops
          obtain ⟨front, rfl⟩ := List.getLast?_eq_some_iff.1 hlast
          have hnone : last.spacer = none := by simpa [Piece.isMarked] using hmarked
          refine .inl ⟨front ++ [⟨last.letter, some c, last.isLetter, by simpa using hspacer⟩], ?_⟩
          simp [spell_append, spell_singleton, Piece.chars, hnone]
    · exact .inr ⟨row, d, back ++ [c], by simp, hd⟩

/-! ## Reading -/

/-- Letters, each but the last with at most one spacer behind it, and none behind the last. -/
def IsSpaced (text : String) : Prop :=
  ∃ row c, text.toList = spell row ++ [c] ∧ IsLetter c

/-- The letters of a text. -/
def lettersIn (text : String) : List Char :=
  text.toList.filter IsLetter

/-- What is wrong with text that is no spaced name of a rune. -/
inductive Faulty (text : String) : Rune.Error → Prop where
  | leading {mark : Char} {back : List Char} (htext : text.toList = mark :: back)
      (hmark : isSpacer mark = true) : Faulty text (.leadingSpacer text)
  | double {front : List Piece} {last : Piece} {mark : Char} {back : List Char}
      (htext : text.toList = spell (front ++ [last]) ++ mark :: back)
      (hlast : last.isMarked = true) (hmark : isSpacer mark = true) :
      Faulty text (.doubleSpacer text)
  | stranger {row : List Piece} {c : Char} {back : List Char}
      (htext : text.toList = spell row ++ c :: back) (hletter : ¬ IsLetter c)
      (hspacer : isSpacer c = false) : Faulty text (.invalidCharacter c text)
  | empty (h : text = "") : Faulty text (.trailingSpacer text)
  | trailing {front : List Piece} {last : Piece} (htext : text.toList = spell (front ++ [last]))
      (hlast : last.isMarked = true) : Faulty text (.trailingSpacer text)
  | beyond {row : List Piece} {c : Char} (htext : text.toList = spell row ++ [c])
      (hc : IsLetter c) (h : maxU128 + 1 < count (lettersOf row ++ [c])) :
      Faulty text (.tooLarge (String.ofList (lettersOf row ++ [c])))

theorem isLetter_of_mem_concat {row : List Piece} {c : Char} (hc : IsLetter c) :
    ∀ d ∈ lettersOf row ++ [c], IsLetter d := by
  intro d hd
  rcases List.mem_append.1 hd with hd | hd
  · exact isLetter_of_mem_lettersOf hd
  · rwa [List.mem_singleton.1 hd]

theorem filter_spell (row : List Piece) : (spell row).filter IsLetter = lettersOf row := by
  induction row with
  | nil => rfl
  | cons piece row ih =>
    have hpiece : piece.chars.filter IsLetter = [piece.letter] := by
      rw [Piece.chars, List.filter_cons_of_pos (by simpa using piece.isLetter),
        List.filter_eq_nil_iff.2]
      intro mark hmark
      simpa using not_isLetter_of_isSpacer (piece.isSpacer mark (Option.mem_toList.1 hmark))
    rw [spell, List.flatMap_cons, List.filter_append, hpiece, ← spell, ih]
    rfl

section

variable {text : String} {row : List Piece} {c : Char}

theorem lettersIn_of_spelled (htext : text.toList = spell row ++ [c]) (hc : IsLetter c) :
    lettersIn text = lettersOf row ++ [c] := by
  rw [lettersIn, htext, List.filter_append, filter_spell,
    List.filter_cons_of_pos (by simpa using hc), List.filter_nil]

theorem isName_of_spelled (hc : IsLetter c) :
    Rune.IsName (String.ofList (lettersOf row ++ [c])) := by
  refine ⟨fun hempty => ?_, ?_⟩
  · rw [← String.toList_eq_nil_iff, String.toList_ofList] at hempty
    simp at hempty
  · rw [String.toList_ofList]
    exact isLetter_of_mem_concat hc

/-- A spaced name is read as the rune that its letters name, with the mask of its spacers. -/
theorem ofText_of_spelled (htext : text.toList = spell row ++ [c]) (hc : IsLetter c) :
    ofText text =
      (Rune.ofName (String.ofList (lettersOf row ++ [c]))).map fun rune => ⟨rune, maskOf row⟩ := by
  have hbits : bitLength (maskOf row) < row.length + 1 := bitLength_lt_succ_iff.2 (maskOf_lt row)
  have hscan : scan text [] 0 text.toList = .ok (c :: (lettersOf row).reverse, maskOf row) := by
    rw [htext, scan_spell, scan_letter hc, scan]
  rw [ofText, hscan]
  dsimp only [bind, Except.bind]
  rw [if_neg (by simpa [length_lettersOf] using hbits), List.reverse_cons, List.reverse_reverse]
  cases Rune.ofName (String.ofList (lettersOf row ++ [c])) with
  | error e => rfl
  | ok rune => rfl

end

theorem ofText_of_scan_error {text : String} {e : Rune.Error}
    (h : scan text [] 0 text.toList = .error e) : ofText text = .error e := by
  rw [ofText, h]
  rfl

/-- A row of pieces that is empty or ends in a spacer has too many bits for its letters. -/
theorem ofText_of_open {text : String} {row : List Piece} (htext : text.toList = spell row)
    (hopen : row.length ≤ bitLength (maskOf row)) :
    ofText text = .error (.trailingSpacer text) := by
  have hscan : scan text [] 0 text.toList = .ok ((lettersOf row).reverse, maskOf row) := by
    rw [htext, ← List.append_nil (spell row), scan_spell, scan]
  rw [ofText, hscan]
  dsimp only [bind, Except.bind]
  rw [if_pos (by simpa [length_lettersOf] using hopen)]
  rfl

theorem ofText_of_faulty {text : String} {e : Rune.Error} (h : Faulty text e) :
    ofText text = .error e := by
  cases h with
  | @leading mark back htext hmark =>
    refine ofText_of_scan_error ?_
    rw [htext, scan, if_neg (mt Rune.isSome_letterIndex?.1 (not_isLetter_of_isSpacer hmark)),
      if_pos hmark]
    rfl
  | @double front last mark back htext hlast hmark =>
    have hbit : (maskOf (front ++ [last])).testBit front.length = true := by
      rw [maskOf, testBit_mask]
      simp [hlast]
    refine ofText_of_scan_error ?_
    rw [htext, scan_spell, scan,
      if_neg (mt Rune.isSome_letterIndex?.1 (not_isLetter_of_isSpacer hmark)), if_pos hmark,
      if_neg (by simp [lettersOf]), if_pos (by simpa [length_lettersOf] using hbit)]
  | @stranger row c back htext hletter hspacer =>
    refine ofText_of_scan_error ?_
    rw [htext, scan_spell, scan, if_neg (mt Rune.isSome_letterIndex?.1 hletter),
      if_neg (by simp [hspacer])]
  | empty h =>
    have hempty : text.toList = spell [] := by rw [h]; rfl
    exact ofText_of_open hempty (by decide)
  | @trailing front last htext hlast =>
    refine ofText_of_open htext ?_
    rw [maskOf_concat, hlast, List.length_append, List.length_singleton]
    by_contra hshort
    have := bitLength_lt_succ_iff.1 (Nat.not_le.1 hshort)
    simp at this
  | beyond htext hc h =>
    rw [ofText_of_spelled htext hc, Rune.ofName_of_beyond (isName_of_spelled hc)
      (by rwa [String.toList_ofList])]
    rfl

theorem isSpaced_or_faulty (text : String) :
    IsSpaced text ∧ count (lettersIn text) ≤ maxU128 + 1 ∨ ∃ e, Faulty text e := by
  rcases spelled_or_stopped text.toList with ⟨row, htext⟩ | ⟨row, c, back, htext, hstops⟩
  · rcases List.eq_nil_or_concat row with rfl | ⟨front, last, rfl⟩
    · exact .inr ⟨_, .empty (String.toList_eq_nil_iff.1 htext)⟩
    · rw [List.concat_eq_append] at htext
      by_cases hlast : last.isMarked = true
      · exact .inr ⟨_, .trailing htext hlast⟩
      · have hspelled : text.toList = spell front ++ [last.letter] := by
          have hnone : last.spacer = none := by simpa [Piece.isMarked] using hlast
          rw [htext, spell_append, spell_singleton, Piece.chars, hnone]
          rfl
        by_cases hrange : count (lettersIn text) ≤ maxU128 + 1
        · exact .inl ⟨⟨front, last.letter, hspelled, last.isLetter⟩, hrange⟩
        · rw [lettersIn_of_spelled hspelled last.isLetter, Nat.not_le] at hrange
          exact .inr ⟨_, .beyond hspelled last.isLetter hrange⟩
  · cases hspacer : isSpacer c with
    | false => exact .inr ⟨_, .stranger htext hstops.1 hspacer⟩
    | true =>
      rcases List.eq_nil_or_concat row with rfl | ⟨front, last, rfl⟩
      · exact .inr ⟨_, .leading htext hspacer⟩
      · rw [List.concat_eq_append] at htext hstops
        exact .inr ⟨_, .double htext (hstops.2 hspacer last (by simp)) hspacer⟩

/-- What is read from a text, in terms of its letters and spacers. -/
theorem exists_spelled_of_ofText {text : String} {s : SpacedRune} (h : ofText text = .ok s) :
    ∃ row c, text.toList = spell row ++ [c] ∧ IsLetter c
      ∧ Rune.ofName (String.ofList (lettersOf row ++ [c])) = .ok s.rune
      ∧ s.spacers = maskOf row := by
  rcases isSpaced_or_faulty text with ⟨⟨row, c, htext, hc⟩, -⟩ | ⟨e, hfaulty⟩
  · rw [ofText_of_spelled htext hc] at h
    cases hname : Rune.ofName (String.ofList (lettersOf row ++ [c])) with
    | error e => rw [hname] at h; simp [Except.map] at h
    | ok rune =>
      rw [hname] at h
      obtain rfl : (⟨rune, maskOf row⟩ : SpacedRune) = s := by simpa [Except.map] using h
      exact ⟨row, c, htext, hc, hname, rfl⟩
  · rw [ofText_of_faulty hfaulty] at h
    simp at h

/-! ## Bits and spacers -/

/-- Letter number `i` of the text, counted from zero, has a spacer right behind it. -/
def HasSpacerBehind (cs : List Char) (i : Nat) : Prop :=
  ∃ front c mark back, cs = front ++ c :: mark :: back ∧ IsLetter c ∧ isSpacer mark = true
    ∧ (front.filter IsLetter).length = i

/-- A spacer behind a letter belongs to the first piece or to what follows it. -/
theorem split_of_chars_append {piece : Piece} {tail front back : List Char} {c mark : Char}
    (htail : ∀ d ∈ tail.head?, IsLetter d) (hc : IsLetter c) (hmark : isSpacer mark = true)
    (h : piece.chars ++ tail = front ++ c :: mark :: back) :
    front = [] ∧ piece.isMarked = true
      ∨ ∃ front', front = piece.chars ++ front' ∧ tail = front' ++ c :: mark :: back := by
  rw [Piece.chars, List.cons_append] at h
  cases hspacer : piece.spacer with
  | none =>
    rw [hspacer, Option.toList_none, List.nil_append] at h
    cases front with
    | nil =>
      obtain ⟨-, rfl⟩ := List.cons.inj h
      exact absurd (htail mark rfl) (not_isLetter_of_isSpacer hmark)
    | cons first front =>
      obtain ⟨rfl, rfl⟩ := List.cons.inj h
      exact .inr ⟨front, by simp [Piece.chars, hspacer], rfl⟩
  | some spacer =>
    rw [hspacer, Option.toList_some, List.singleton_append] at h
    rcases front with _ | ⟨first, _ | ⟨second, front⟩⟩
    · exact .inl ⟨rfl, by simp [Piece.isMarked, hspacer]⟩
    · simp only [List.cons_append, List.nil_append, List.cons.injEq] at h
      obtain ⟨-, rfl, -⟩ := h
      exact absurd hc (not_isLetter_of_isSpacer (piece.isSpacer _ hspacer))
    · simp only [List.cons_append, List.cons.injEq] at h
      obtain ⟨rfl, rfl, rfl⟩ := h
      exact .inr ⟨front, by simp [Piece.chars, hspacer], rfl⟩

/-- The bits of the mask tell behind which letters there is a spacer. -/
theorem hasSpacerBehind_iff {row : List Piece} {c : Char} (hc : IsLetter c) {i : Nat} :
    HasSpacerBehind (spell row ++ [c]) i ↔ (maskOf row).testBit i = true := by
  rw [maskOf, testBit_mask]
  induction row generalizing i with
  | nil =>
    refine iff_of_false ?_ (by simp)
    rintro ⟨front, d, mark, back, h, -⟩
    have hlength := congrArg List.length h
    simp [spell] at hlength
    omega
  | cons piece row ih =>
    have htail : ∀ d ∈ (spell row ++ [c]).head?, IsLetter d := by
      intro d hd
      cases row with
      | nil => simp [spell] at hd; rwa [← hd]
      | cons next row =>
        simp [spell, Piece.chars] at hd
        rw [← hd]
        exact next.isLetter
    have hletters : (piece.chars.filter IsLetter).length = 1 := by
      rw [← spell_singleton, filter_spell, length_lettersOf, List.length_singleton]
    have hspell : spell (piece :: row) ++ [c] = piece.chars ++ (spell row ++ [c]) := by
      rw [spell, List.flatMap_cons, List.append_assoc, ← spell]
    rw [List.map_cons, hspell]
    constructor
    · rintro ⟨front, d, mark, back, h, hd, hmark, hcount⟩
      rcases split_of_chars_append htail hd hmark h with ⟨rfl, hmarked⟩ | ⟨front', rfl, hrest⟩
      · rw [← hcount]
        exact hmarked
      · rw [List.filter_append, List.length_append, hletters, Nat.add_comm] at hcount
        rw [← hcount, List.getD_cons_succ]
        exact ih.1 ⟨front', d, mark, back, hrest, hd, hmark, rfl⟩
    · cases i with
      | zero =>
        intro hmarked
        rw [List.getD_cons_zero, Piece.isMarked, Option.isSome_iff_exists] at hmarked
        obtain ⟨mark, hmark⟩ := hmarked
        refine ⟨[], piece.letter, mark, spell row ++ [c], ?_, piece.isLetter,
          piece.isSpacer mark hmark, rfl⟩
        rw [Piece.chars, hmark]
        rfl
      | succ i =>
        intro hbit
        rw [List.getD_cons_succ] at hbit
        obtain ⟨front, d, mark, back, hrest, hd, hmark, hcount⟩ := ih.2 hbit
        refine ⟨piece.chars ++ front, d, mark, back, by rw [hrest, List.append_assoc], hd, hmark,
          ?_⟩
        rw [List.filter_append, List.length_append, hletters, hcount, Nat.add_comm]

/-! ## Showing -/

/-- A character of a spaced name as it is shown. -/
def shown (c : Char) : Char :=
  if c = '.' then bullet else c

theorem shown_of_isLetter {c : Char} (h : IsLetter c) : shown c = c := by
  refine if_neg ?_
  rintro rfl
  exact absurd h (by decide)

theorem shown_of_isSpacer {c : Char} (h : isSpacer c = true) : shown c = bullet := by
  rw [isSpacer, decide_eq_true_eq] at h
  rcases h with rfl | rfl <;> rfl

theorem interleave_cons {spacers index : Nat} {c : Char} {rest : List Char} (h : rest ≠ []) :
    interleave spacers index (c :: rest) =
      if spacers.testBit index then c :: bullet :: interleave spacers (index + 1) rest
      else c :: interleave spacers (index + 1) rest := by
  cases rest with
  | nil => exact absurd rfl h
  | cons d rest => rw [interleave]; simp

/-- The letters of a spaced name and its mask are shown as the name, with bullets for spacers. -/
theorem interleave_spell {row : List Piece} {c : Char} (hc : IsLetter c) {spacers index : Nat}
    (h : ∀ i < row.length, spacers.testBit (index + i) = (row.map Piece.isMarked).getD i false) :
    interleave spacers index (lettersOf row ++ [c]) = (spell row ++ [c]).map shown := by
  induction row generalizing index with
  | nil => simp [lettersOf, spell, interleave, shown_of_isLetter hc]
  | cons piece row ih =>
    have hfirst : spacers.testBit index = piece.isMarked := by simpa using h 0 (by simp)
    have hrest : interleave spacers (index + 1) (lettersOf row ++ [c]) =
        (spell row ++ [c]).map shown :=
      ih fun i hi => by simpa [Nat.add_assoc, Nat.add_comm 1] using h (i + 1) (by simpa using hi)
    rw [lettersOf, List.map_cons, List.cons_append, ← lettersOf, interleave_cons (by simp), hfirst,
      hrest]
    have hletter := shown_of_isLetter piece.isLetter
    cases hspacer : piece.spacer with
    | none => simp [spell, Piece.chars, Piece.isMarked, hspacer, hletter]
    | some mark =>
      have hmark := shown_of_isSpacer (piece.isSpacer mark hspacer)
      simp [spell, Piece.chars, Piece.isMarked, hspacer, hletter, hmark]

theorem interleave_maskOf (row : List Piece) {c : Char} (hc : IsLetter c) :
    interleave (maskOf row) 0 (lettersOf row ++ [c]) = (spell row ++ [c]).map shown := by
  refine interleave_spell hc fun i _ => ?_
  rw [Nat.zero_add, maskOf, testBit_mask]

/-- Letters and bits for them make a row of pieces, with bullets for spacers. -/
theorem exists_row {cs : List Char} (hcs : ∀ c ∈ cs, IsLetter c) {spacers : Nat}
    (h : spacers < 2 ^ cs.length) :
    ∃ row, lettersOf row = cs ∧ maskOf row = spacers ∧ (spell row).map shown = spell row := by
  induction cs generalizing spacers with
  | nil =>
    refine ⟨[], rfl, ?_, rfl⟩
    simp at h
    rw [h]
    rfl
  | cons c cs ih =>
    rw [List.length_cons, Nat.pow_succ] at h
    obtain ⟨row, rfl, hmask, hshown⟩ := ih (fun d hd => hcs d (by simp [hd]))
      (show spacers / 2 < 2 ^ cs.length by omega)
    have hc : IsLetter c := hcs c (by simp)
    rcases Nat.mod_two_eq_zero_or_one spacers with hbit | hbit
    · refine ⟨⟨c, none, hc, by simp⟩ :: row, rfl, ?_, ?_⟩
      · have hstep : maskOf (⟨c, none, hc, by simp⟩ :: row) = 0 + 2 * maskOf row := rfl
        omega
      · simpa [spell, Piece.chars, shown_of_isLetter hc] using hshown
    · refine ⟨⟨c, some bullet, hc, by simp [isSpacer]⟩ :: row, rfl, ?_, ?_⟩
      · have hstep : maskOf (⟨c, some bullet, hc, by simp [isSpacer]⟩ :: row) =
          1 + 2 * maskOf row := rfl
        omega
      · have hbullet : shown bullet = bullet := rfl
        simpa [spell, Piece.chars, shown_of_isLetter hc, hbullet] using hshown

/-- What is shown is read again. -/
theorem ofText_text {s : SpacedRune} (hrange : s.rune.value ≤ maxU128)
    (h : s.spacers < 2 ^ (s.rune.name.length - 1)) : ofText s.text = .ok s := by
  rcases List.eq_nil_or_concat (Rune.letters s.rune.value) with hnil | ⟨cs, c, hletters⟩
  · have hcount := Rune.count_letters s.rune.value
    simp [hnil, Rune.count_nil] at hcount
  · rw [List.concat_eq_append] at hletters
    have hall : ∀ d ∈ cs ++ [c], IsLetter d := by
      intro d hd
      rw [← hletters] at hd
      exact Rune.isLetter_of_mem_letters hd
    have hc : IsLetter c := hall c (by simp)
    rw [← String.length_toList, Rune.toList_name, hletters, List.length_append,
      List.length_singleton, Nat.add_sub_cancel] at h
    obtain ⟨row, rfl, hmask, hshown⟩ := exists_row (fun d hd => hall d (by simp [hd])) h
    have htext : s.text.toList = spell row ++ [c] := by
      rw [text, String.toList_ofList, hletters, ← hmask, interleave_maskOf row hc, List.map_append,
        hshown, List.map_singleton, shown_of_isLetter hc]
    have hname : Rune.ofName (String.ofList (lettersOf row ++ [c])) = .ok s.rune := by
      rw [← hletters]
      exact Rune.ofName_name hrange
    rw [ofText_of_spelled htext hc, hname, hmask]
    rfl

/-! ## The grammar -/

/-- Spaced names are read exactly by their grammar. A text is read if it is spaced and its letters
name a rune of 128 bits, and refused for its first fault otherwise. What is read is that rune, bit
`i` set where a spacer stands behind letter `i`, no bit for the last letter or beyond the 27th, and
it is shown as the text with bullets for points. Every rune with bits for its letters but the last
is read again from what is shown. -/
theorem spaced_grammar :
    (∀ text, (∃ s, ofText text = .ok s) ↔
      IsSpaced text ∧ count (lettersIn text) - 1 ≤ maxU128)
    ∧ (∀ text, ¬ (IsSpaced text ∧ count (lettersIn text) - 1 ≤ maxU128) →
      ∃ e, ofText text = .error e ∧ Faulty text e)
    ∧ (∀ text s, ofText text = .ok s →
      Rune.ofName (String.ofList (lettersIn text)) = .ok s.rune
      ∧ (∀ i, s.spacers.testBit i = true ↔ HasSpacerBehind text.toList i)
      ∧ s.spacers < 2 ^ ((lettersIn text).length - 1) ∧ s.spacers ≤ 2 ^ 27 - 1
      ∧ s.text = String.ofList (text.toList.map shown))
    ∧ (∀ s : SpacedRune, s.rune.value ≤ maxU128 → s.spacers < 2 ^ (s.rune.name.length - 1) →
      ofText s.text = .ok s) := by
  have hread (text : String) : (∃ s, ofText text = .ok s) ↔
      IsSpaced text ∧ count (lettersIn text) - 1 ≤ maxU128 := by
    constructor
    · rintro ⟨s, h⟩
      obtain ⟨row, c, htext, hc, hname, -⟩ := exists_spelled_of_ofText h
      obtain ⟨-, hcount, hrange⟩ := Rune.ofName_eq_ok_iff.1 hname
      rw [String.toList_ofList] at hcount
      rw [lettersIn_of_spelled htext hc]
      exact ⟨⟨row, c, htext, hc⟩, by omega⟩
    · rintro ⟨⟨row, c, htext, hc⟩, hrange⟩
      rw [lettersIn_of_spelled htext hc] at hrange
      rw [ofText_of_spelled htext hc, Rune.ofName_of_taken (isName_of_spelled hc)
        ⟨by simpa using isLetter_of_mem_concat hc, by rw [String.toList_ofList]; omega⟩]
      exact ⟨_, rfl⟩
  refine ⟨hread, fun text hno => ?_, fun text s h => ?_, fun s => ofText_text⟩
  · rcases isSpaced_or_faulty text with ⟨hspaced, hrange⟩ | ⟨e, hfaulty⟩
    · exact absurd ⟨hspaced, by omega⟩ hno
    · exact ⟨e, ofText_of_faulty hfaulty, hfaulty⟩
  · obtain ⟨row, c, htext, hc, hname, hspacers⟩ := exists_spelled_of_ofText h
    have hwritten := Rune.name_of_ofName hname
    have hletters : Rune.letters s.rune.value = lettersOf row ++ [c] := by
      rw [← Rune.toList_name, hwritten, String.toList_ofList]
    have hlength := Rune.length_letters_le (Rune.ofName_eq_ok_iff.1 hname).2.2
    rw [hletters, List.length_append, List.length_singleton, length_lettersOf] at hlength
    have hmask := maskOf_lt row
    have hwidest : 2 ^ row.length ≤ 2 ^ 27 := Nat.pow_le_pow_right (by decide) (by omega)
    rw [lettersIn_of_spelled htext hc, hspacers]
    refine ⟨hname, fun i => ?_, ?_, by omega, ?_⟩
    · rw [htext, hasSpacerBehind_iff hc]
    · simpa [length_lettersOf] using hmask
    · rw [SpacedRune.text, hletters, hspacers, interleave_maskOf row hc, htext]

/-- The last name with every spacer that it has room for. -/
theorem ofText_widest :
    (⟨⟨maxU128⟩, 2 ^ 27 - 1⟩ : SpacedRune).text
        = "B•C•G•D•E•N•L•Q•R•Q•W•D•S•L•R•U•G•S•N•L•B•T•M•F•I•J•A•V"
      ∧ ofText "B•C•G•D•E•N•L•Q•R•Q•W•D•S•L•R•U•G•S•N•L•B•T•M•F•I•J•A•V"
        = .ok ⟨⟨maxU128⟩, 2 ^ 27 - 1⟩ := by
  have htext : (⟨⟨maxU128⟩, 2 ^ 27 - 1⟩ : SpacedRune).text
      = "B•C•G•D•E•N•L•Q•R•Q•W•D•S•L•R•U•G•S•N•L•B•T•M•F•I•J•A•V" := by decide
  refine ⟨htext, ?_⟩
  rw [← htext]
  exact spaced_grammar.2.2.2 _ (Nat.le_refl _) (by decide)

end Runesmith.SpacedRune
