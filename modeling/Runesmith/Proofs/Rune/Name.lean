import Mathlib.Data.Char
import Mathlib.Data.List.Lex
import Mathlib.Data.Nat.Digits.Lemmas
import Runesmith.Rune

/-!
# The numeration of names

Names are numerals in base 26 that have no zero: the letters `A` to `Z` are the digits 1 to 26. So
every positive number is denoted by exactly one name, and the rune with number `n` bears the name
that denotes `n + 1`.

* `count_lettersReversed`, `lettersReversed_count`: the writer writes the one name of a number.
* `count_lt_count_iff`: names denote numbers in the order of length and then of the alphabet.
* `ofName_eq_ok_iff`, `ofName_eq_error_iff`: what is read from a text, and what is blamed in a text
  that is no name.
* `name_numeration`: names and numbers of 128 bits correspond one to one and in this order.
-/

namespace Runesmith.Rune

/-! ## Letters as digits -/

/-- One of the letters `A` to `Z`. -/
def IsLetter (c : Char) : Prop :=
  'A' ≤ c ∧ c ≤ 'Z'

/-- The digit that a letter stands for. -/
def digit (c : Char) : Nat :=
  c.toNat - 64

/-- The number that letters denote as a numeral in base 26. -/
def count (cs : List Char) : Nat :=
  Nat.ofDigits 26 (cs.reverse.map digit)

theorem isLetter_iff {c : Char} : IsLetter c ↔ 65 ≤ c.toNat ∧ c.toNat ≤ 90 := by
  rw [IsLetter, Char.le_def, Char.le_def, UInt32.le_iff_toNat_le, UInt32.le_iff_toNat_le]
  exact Iff.rfl

instance (c : Char) : Decidable (IsLetter c) :=
  inferInstanceAs (Decidable (_ ∧ _))

theorem letterIndex?_of_isLetter {c : Char} (h : IsLetter c) :
    letterIndex? c = some (digit c - 1) :=
  if_pos (isLetter_iff.1 h)

theorem letterIndex?_of_not_isLetter {c : Char} (h : ¬ IsLetter c) : letterIndex? c = none :=
  if_neg fun hbounds => h (isLetter_iff.2 hbounds)

theorem isSome_letterIndex? {c : Char} : (letterIndex? c).isSome ↔ IsLetter c := by
  by_cases h : IsLetter c
  · simp [letterIndex?_of_isLetter h, h]
  · simp [letterIndex?_of_not_isLetter h, h]

theorem IsLetter.digit_bounds {c : Char} (h : IsLetter c) : 1 ≤ digit c ∧ digit c ≤ 26 := by
  have := isLetter_iff.1 h
  unfold digit
  omega

theorem toNat_letter {i : Nat} (h : i < 26) : (letter i).toNat = 65 + i := by
  have hall : ∀ i < 26, (letter i).toNat = 65 + i := by decide
  exact hall i h

theorem isLetter_letter {i : Nat} (h : i < 26) : IsLetter (letter i) := by
  have := toNat_letter h
  exact isLetter_iff.2 (by omega)

theorem digit_letter {i : Nat} (h : i < 26) : digit (letter i) = i + 1 := by
  have := toNat_letter h
  unfold digit
  omega

theorem letter_digit {c : Char} (h : IsLetter c) : letter (digit c - 1) = c := by
  have hbounds := isLetter_iff.1 h
  rw [letter, digit, show 65 + (c.toNat - 64 - 1) = c.toNat by omega, Char.ofNat_toNat]

/-! ## Counting -/

theorem count_nil : count [] = 0 := rfl

theorem count_append (front back : List Char) :
    count (front ++ back) = 26 ^ back.length * count front + count back := by
  rw [count, count, count, List.reverse_append, List.map_append, Nat.ofDigits_append,
    List.length_map, List.length_reverse, Nat.add_comm]

theorem count_singleton (c : Char) : count [c] = digit c := by
  simp [count]

theorem count_concat (front : List Char) (c : Char) :
    count (front ++ [c]) = 26 * count front + digit c := by
  rw [count_append, count_singleton, List.length_singleton, Nat.pow_one]

theorem count_cons (c : Char) (rest : List Char) :
    count (c :: rest) = 26 ^ rest.length * digit c + count rest := by
  rw [← List.singleton_append, count_append, count_singleton]

theorem count_le_append (front back : List Char) : count front ≤ count (front ++ back) := by
  rw [count_append]
  have := Nat.le_mul_of_pos_left (count front) (Nat.pow_pos (n := back.length) (by decide : 0 < 26))
  omega

/-- The names of one length denote the numbers between those that `A…A` and `Z…Z` denote. -/
theorem count_bounds {cs : List Char} (h : ∀ c ∈ cs, IsLetter c) :
    26 ^ cs.length ≤ 25 * count cs + 1 ∧ 25 * count cs + 26 ≤ 26 ^ (cs.length + 1) := by
  induction cs with
  | nil => decide
  | cons c rest ih =>
    have hrest := ih fun d hd => h d (List.mem_cons_of_mem c hd)
    have hdigit := (h c List.mem_cons_self).digit_bounds
    have hleast := Nat.mul_le_mul_left (26 ^ rest.length) hdigit.1
    have hmost := Nat.mul_le_mul_left (26 ^ rest.length) hdigit.2
    rw [count_cons, List.length_cons]
    rw [Nat.pow_succ] at hrest ⊢
    rw [Nat.pow_succ]
    omega

theorem count_pos {cs : List Char} (h : ∀ c ∈ cs, IsLetter c) (hne : cs ≠ []) : 1 ≤ count cs := by
  have hbound := (count_bounds h).1
  have hlength := Nat.pow_le_pow_right (by decide : 0 < 26) (List.length_pos_iff.2 hne)
  omega

/-! ## The name of a number -/

theorem isLetter_of_mem_lettersReversed {n : Nat} {c : Char} (h : c ∈ lettersReversed n) :
    IsLetter c := by
  fun_induction lettersReversed n with
  | case1 => simp at h
  | case2 n _ ih =>
    rcases List.mem_cons.1 h with rfl | h
    · exact isLetter_letter (Nat.mod_lt _ (by decide))
    · exact ih h

/-- What is written for a number denotes it. -/
theorem count_lettersReversed (n : Nat) : count (lettersReversed n).reverse = n := by
  fun_induction lettersReversed n with
  | case1 => rfl
  | case2 n hn ih =>
    rw [List.reverse_cons, count_concat, ih, digit_letter (Nat.mod_lt _ (by decide))]
    omega

/-- Letters are what is written for the number that they denote. -/
theorem lettersReversed_count {cs : List Char} (h : ∀ c ∈ cs, IsLetter c) :
    lettersReversed (count cs) = cs.reverse := by
  induction cs using List.reverseRecOn with
  | nil => simp [count_nil, lettersReversed]
  | append_singleton front c ih =>
    have hc : IsLetter c := h c (by simp)
    have hfront := ih fun d hd => h d (by simp [hd])
    have hbounds := hc.digit_bounds
    rw [count_concat, lettersReversed, if_neg (by omega),
      show (26 * count front + digit c - 1) % 26 = digit c - 1 by omega,
      show (26 * count front + digit c - 1) / 26 = count front by omega, letter_digit hc, hfront,
      List.reverse_concat]

/-- Letters that denote the same number are the same. -/
theorem count_inj {cs ds : List Char} (hc : ∀ c ∈ cs, IsLetter c) (hd : ∀ d ∈ ds, IsLetter d)
    (h : count cs = count ds) : cs = ds := by
  rw [← List.reverse_inj, ← lettersReversed_count hc, ← lettersReversed_count hd, h]

/-- The name that is known by heart is the one that counting yields. -/
theorem letters_natCast (n : Nat) : letters n = (lettersReversed (n + 1)).reverse := by
  rw [letters, show ((n : Int) + 1).toNat = n + 1 by omega]
  split
  · rename_i hn
    have hlast : count lastName.toList = n + 1 := by
      rw [Int.ofNat_inj.1 hn]
      decide
    have hletters : ∀ c ∈ lastName.toList, IsLetter c :=
      List.forall_iff_forall_mem.1 (by decide)
    rw [← hlast, lettersReversed_count hletters, List.reverse_reverse]
  · rfl

theorem count_letters (n : Nat) : count (letters n) = n + 1 := by
  rw [letters_natCast, count_lettersReversed]

theorem isLetter_of_mem_letters {n : Nat} {c : Char} (h : c ∈ letters n) : IsLetter c := by
  rw [letters_natCast, List.mem_reverse] at h
  exact isLetter_of_mem_lettersReversed h

theorem letters_of_count {cs : List Char} (h : ∀ c ∈ cs, IsLetter c) {n : Nat}
    (hn : count cs = n + 1) : letters n = cs :=
  count_inj (fun _ => isLetter_of_mem_letters) h ((count_letters n).trans hn.symm)

theorem length_letters_le {n : Nat} (h : n ≤ maxU128) : (letters n).length ≤ 28 := by
  have hbound := (count_bounds fun _ => isLetter_of_mem_letters (n := n)).1
  rw [count_letters] at hbound
  have hmax : 25 * (maxU128 + 1) + 1 < 26 ^ 29 := by decide
  have hpow : 26 ^ (letters n).length < 26 ^ 29 := by omega
  have := (Nat.pow_lt_pow_iff_right (by decide)).1 hpow
  omega

/-! ## Order -/

theorem count_lt_of_length_lt {cs ds : List Char} (hc : ∀ c ∈ cs, IsLetter c)
    (hd : ∀ d ∈ ds, IsLetter d) (h : cs.length < ds.length) : count cs < count ds := by
  have hmost := (count_bounds hc).2
  have hleast := (count_bounds hd).1
  have hpow : 26 ^ (cs.length + 1) ≤ 26 ^ ds.length := Nat.pow_le_pow_right (by decide) h
  omega

/-- Of two names of one length the number is decided by the first letter in which they differ. -/
theorem count_lt_of_lt {cs ds : List Char} (hc : ∀ c ∈ cs, IsLetter c)
    (hd : ∀ d ∈ ds, IsLetter d) (hlength : cs.length = ds.length) (h : cs < ds) :
    count cs < count ds := by
  induction cs generalizing ds with
  | nil =>
    rw [List.length_nil, eq_comm, List.length_eq_zero_iff] at hlength
    simp [hlength] at h
  | cons c cs ih =>
    cases ds with
    | nil => simp at hlength
    | cons d ds =>
      have hcs := fun e he => hc e (List.mem_cons_of_mem c he)
      have hds := fun e he => hd e (List.mem_cons_of_mem d he)
      have hrest : cs.length = ds.length := Nat.succ_inj.1 hlength
      rw [count_cons, count_cons, hrest]
      rcases List.cons_lt_cons_iff.1 h with hlt | ⟨rfl, hlt⟩
      · have hdigits : digit c + 1 ≤ digit d := by
          have hc' := isLetter_iff.1 (hc c List.mem_cons_self)
          have hlt' : c.toNat < d.toNat := hlt
          unfold digit
          omega
        have hfirst := Nat.mul_le_mul_left (26 ^ ds.length) hdigits
        have hmost := (count_bounds hcs).2
        have hleast := (count_bounds hds).1
        rw [Nat.pow_succ, hrest] at hmost
        rw [Nat.mul_add] at hfirst
        omega
      · have := ih hcs hds hrest hlt
        omega

/-- Names denote numbers in the order of length and then of the alphabet. -/
theorem count_lt_count_iff {cs ds : List Char} (hc : ∀ c ∈ cs, IsLetter c)
    (hd : ∀ d ∈ ds, IsLetter d) :
    count cs < count ds ↔ cs.length < ds.length ∨ cs.length = ds.length ∧ cs < ds := by
  constructor
  · intro h
    rcases lt_trichotomy cs.length ds.length with hshorter | hequal | hlonger
    · exact .inl hshorter
    · rcases lt_trichotomy cs ds with hlt | rfl | hgt
      · exact .inr ⟨hequal, hlt⟩
      · omega
      · have := count_lt_of_lt hd hc hequal.symm hgt
        omega
    · have := count_lt_of_length_lt hd hc hlonger
      omega
  · rintro (hshorter | ⟨hequal, hlt⟩)
    · exact count_lt_of_length_lt hc hd hshorter
    · exact count_lt_of_lt hc hd hequal hlt

/-! ## Reading -/

/-- At least one letter, and letters only. -/
def IsName (text : String) : Prop :=
  text ≠ "" ∧ ∀ c ∈ text.toList, IsLetter c

/-- Letters that the reader takes: what they denote is not beyond the last name. -/
structure Taken (front : List Char) : Prop where
  letters : ∀ c ∈ front, IsLetter c
  inRange : count front ≤ maxU128 + 1

/-- What is wrong with text that names no rune. The reader blames the first character that it does
not take, because it is no letter or because the letters up to it are beyond the last name. -/
inductive Faulty (text : String) : Error → Prop where
  | empty (h : text = "") : Faulty text .emptyName
  | stranger {front back : List Char} {c : Char} (htext : text.toList = front ++ c :: back)
      (hfront : Taken front) (hc : ¬ IsLetter c) : Faulty text (.invalidLetter c text)
  | beyond {front back : List Char} {c : Char} (htext : text.toList = front ++ c :: back)
      (hfront : Taken front) (hc : IsLetter c) (h : maxU128 + 1 < count (front ++ [c])) :
      Faulty text (.tooLarge text)

/-- What the reader holds behind letters: the number of the rune that they name. -/
def held (front : List Char) : Option Nat :=
  if front = [] then none else some (count front - 1)

section

variable {name : String} {front : List Char}

theorem readLetters_stranger {c : Char} (hc : ¬ IsLetter c) (value : Option Nat)
    (rest : List Char) :
    readLetters name value (c :: rest) = .error (.invalidLetter c name) := by
  rw [readLetters, letterIndex?_of_not_isLetter hc]

theorem readLetters_letter (hfront : ∀ d ∈ front, IsLetter d) {c : Char} (hc : IsLetter c)
    (rest : List Char) :
    readLetters name (held front) (c :: rest) =
      if maxU128 + 1 < count (front ++ [c]) then .error (.tooLarge name)
      else readLetters name (held (front ++ [c])) rest := by
  have hdigit := hc.digit_bounds
  have hheld : held (front ++ [c]) = some (count (front ++ [c]) - 1) := if_neg (by simp)
  rw [hheld]
  by_cases hnil : front = []
  · rw [hnil, held, if_pos rfl, readLetters, letterIndex?_of_isLetter hc, List.nil_append,
      count_singleton]
    dsimp only
    exact if_congr (by omega) rfl rfl
  · have hnext : (count front - 1 + 1) * 26 + (digit c - 1) = count (front ++ [c]) - 1 := by
      have hpos := count_pos hfront hnil
      rw [count_concat]
      omega
    rw [held, if_neg hnil, readLetters, letterIndex?_of_isLetter hc]
    dsimp only
    rw [hnext]
    exact if_congr (by omega) rfl rfl

/-- The reader passes over letters that it takes and holds their number. -/
theorem readLetters_taken (hfront : Taken front) (rest : List Char) :
    readLetters name none (front ++ rest) = readLetters name (held front) rest := by
  induction front using List.reverseRecOn generalizing rest with
  | nil => rfl
  | append_singleton front c ih =>
    have hletters : ∀ d ∈ front, IsLetter d := fun d hd => hfront.letters d (by simp [hd])
    have hrange := (count_le_append front [c]).trans hfront.inRange
    rw [List.append_assoc, List.singleton_append, ih ⟨hletters, hrange⟩,
      readLetters_letter hletters (hfront.letters c (by simp)),
      if_neg (Nat.not_lt.2 hfront.inRange)]

end

/-- A text is taken as a whole, or one of its characters is the first that is not taken. -/
theorem taken_or_stopped (cs : List Char) :
    Taken cs ∨ ∃ front c back, cs = front ++ c :: back ∧ Taken front
      ∧ (¬ IsLetter c ∨ IsLetter c ∧ maxU128 + 1 < count (front ++ [c])) := by
  induction cs using List.reverseRecOn with
  | nil => exact .inl ⟨by simp, by simp [count_nil]⟩
  | append_singleton front c ih =>
    rcases ih with htaken | ⟨early, d, back, rfl, hearly, hd⟩
    · by_cases hc : IsLetter c
      · by_cases hrange : count (front ++ [c]) ≤ maxU128 + 1
        · refine .inl ⟨fun d hd => ?_, hrange⟩
          rcases List.mem_append.1 hd with hd | hd
          · exact htaken.letters d hd
          · rwa [List.mem_singleton.1 hd]
        · exact .inr ⟨front, c, [], rfl, htaken, .inr ⟨hc, Nat.not_le.1 hrange⟩⟩
      · exact .inr ⟨front, c, [], rfl, htaken, .inl hc⟩
    · exact .inr ⟨early, d, back ++ [c], by simp, hearly, hd⟩

theorem isName_or_faulty (text : String) :
    IsName text ∧ Taken text.toList ∨ ∃ e, Faulty text e := by
  by_cases hempty : text = ""
  · exact .inr ⟨_, .empty hempty⟩
  · rcases taken_or_stopped text.toList with htaken | ⟨front, c, back, htext, hfront, hc⟩
    · exact .inl ⟨⟨hempty, htaken.letters⟩, htaken⟩
    · rcases hc with hc | ⟨hc, hbeyond⟩
      · exact .inr ⟨_, .stranger htext hfront hc⟩
      · exact .inr ⟨_, .beyond htext hfront hc hbeyond⟩

theorem ofName_of_taken {text : String} (hname : IsName text) (htaken : Taken text.toList) :
    ofName text = .ok ⟨count text.toList - 1⟩ := by
  have hne : text.toList ≠ [] := mt String.toList_eq_nil_iff.1 hname.1
  have hread : readLetters text none text.toList = readLetters text (held text.toList) [] := by
    simpa using readLetters_taken htaken []
  rw [held, if_neg hne] at hread
  rw [ofName, hread]
  rfl

theorem ofName_of_faulty {text : String} {e : Error} (h : Faulty text e) :
    ofName text = .error e := by
  cases h with
  | empty h => rw [h]; rfl
  | stranger htext hfront hc =>
    rw [ofName, htext, readLetters_taken hfront, readLetters_stranger hc]
    rfl
  | beyond htext hfront hc hbeyond =>
    rw [ofName, htext, readLetters_taken hfront, readLetters_letter hfront.letters hc,
      if_pos hbeyond]
    rfl

/-- All that can be wrong with a name is that it is beyond the last one. -/
theorem ofName_of_beyond {text : String} (hname : IsName text)
    (h : maxU128 + 1 < count text.toList) : ofName text = .error (.tooLarge text) := by
  rcases taken_or_stopped text.toList with htaken | ⟨front, c, back, htext, hfront, hc⟩
  · have := htaken.inRange
    omega
  · have hletter : IsLetter c := hname.2 c (by simp [htext])
    rcases hc with hc | ⟨-, hbeyond⟩
    · exact absurd hletter hc
    · exact ofName_of_faulty (.beyond htext hfront hletter hbeyond)

/-- Exactly the names up to the last one are read. -/
theorem ofName_eq_ok_iff {text : String} {rune : Rune} :
    ofName text = .ok rune ↔
      IsName text ∧ count text.toList = rune.value + 1 ∧ rune.value ≤ maxU128 := by
  constructor
  · intro h
    rcases isName_or_faulty text with ⟨hname, htaken⟩ | ⟨e, hfaulty⟩
    · rw [ofName_of_taken hname htaken, Except.ok.injEq] at h
      have hpos := count_pos hname.2 (mt String.toList_eq_nil_iff.1 hname.1)
      have hrange := htaken.inRange
      rw [← h]
      exact ⟨hname, by dsimp only; omega, by dsimp only; omega⟩
    · rw [ofName_of_faulty hfaulty] at h
      simp at h
  · rintro ⟨hname, hcount, hrange⟩
    rw [ofName_of_taken hname ⟨hname.2, by omega⟩, hcount]
    rfl

theorem ofName_eq_error_iff {text : String} {e : Error} :
    ofName text = .error e ↔ Faulty text e := by
  constructor
  · intro h
    rcases isName_or_faulty text with ⟨hname, htaken⟩ | ⟨e', hfaulty⟩
    · rw [ofName_of_taken hname htaken] at h
      simp at h
    · rw [ofName_of_faulty hfaulty, Except.error.injEq] at h
      exact h ▸ hfaulty
  · exact ofName_of_faulty

/-! ## Names and numbers -/

theorem toList_name (rune : Rune) : rune.name.toList = letters rune.value :=
  String.toList_ofList

theorem isName_name (rune : Rune) : IsName rune.name := by
  have hletters : ∀ c ∈ rune.name.toList, IsLetter c := by
    intro c hc
    rw [toList_name] at hc
    exact isLetter_of_mem_letters hc
  refine ⟨fun hempty => ?_, hletters⟩
  have hcount := count_letters rune.value
  rw [← toList_name, hempty] at hcount
  simp [count_nil] at hcount

theorem ofName_name {rune : Rune} (h : rune.value ≤ maxU128) : ofName rune.name = .ok rune := by
  refine ofName_eq_ok_iff.2 ⟨isName_name rune, ?_, h⟩
  rw [toList_name, count_letters]

theorem name_of_ofName {text : String} {rune : Rune} (h : ofName text = .ok rune) :
    rune.name = text := by
  obtain ⟨hname, hcount, -⟩ := ofName_eq_ok_iff.1 h
  rw [name, letters_of_count hname.2 hcount, String.ofList_toList]

/-- Names and numbers of 128 bits correspond one to one. Every such number has a name of at most 28
letters, from which it is read again; exactly the names of such numbers are read, and written again
as they were; any other text is refused for its first fault; and the numbers are in the order of
length and then of the alphabet. -/
theorem name_numeration :
    (∀ rune : Rune, rune.value ≤ maxU128 →
      IsName rune.name ∧ rune.name.length ≤ 28 ∧ ofName rune.name = .ok rune)
    ∧ (∀ text, (∃ rune, ofName text = .ok rune) ↔ IsName text ∧ count text.toList - 1 ≤ maxU128)
    ∧ (∀ text, ¬ (IsName text ∧ count text.toList - 1 ≤ maxU128) →
      ∃ e, ofName text = .error e ∧ Faulty text e)
    ∧ (∀ text rune, ofName text = .ok rune →
      rune.value = count text.toList - 1 ∧ rune.name = text)
    ∧ (∀ s t a b, ofName s = .ok a → ofName t = .ok b →
      (a.value < b.value ↔ s.length < t.length ∨ s.length = t.length ∧ s < t)) := by
  have hread (text : String) :
      (∃ rune, ofName text = .ok rune) ↔ IsName text ∧ count text.toList - 1 ≤ maxU128 := by
    constructor
    · rintro ⟨rune, h⟩
      obtain ⟨hname, hcount, hrange⟩ := ofName_eq_ok_iff.1 h
      exact ⟨hname, by omega⟩
    · rintro ⟨hname, hrange⟩
      exact ⟨_, ofName_of_taken hname ⟨hname.2, by omega⟩⟩
  refine ⟨fun rune h => ?_, hread, fun text hno => ?_, fun text rune h => ?_,
    fun s t a b ha hb => ?_⟩
  · refine ⟨isName_name rune, ?_, ofName_name h⟩
    rw [← String.length_toList, toList_name]
    exact length_letters_le h
  · rcases hresult : ofName text with e | rune
    · exact ⟨e, rfl, ofName_eq_error_iff.1 hresult⟩
    · exact absurd ((hread text).1 ⟨rune, hresult⟩) hno
  · have hcount := (ofName_eq_ok_iff.1 h).2.1
    exact ⟨by omega, name_of_ofName h⟩
  · obtain ⟨hs, hcounts, -⟩ := ofName_eq_ok_iff.1 ha
    obtain ⟨ht, hcountt, -⟩ := ofName_eq_ok_iff.1 hb
    have horder := count_lt_count_iff hs.2 ht.2
    rw [hcounts, hcountt, Nat.add_lt_add_iff_right, String.length_toList,
      String.length_toList] at horder
    exact horder

/-- The last name has as many letters as a name can have. -/
theorem ofName_lastName :
    lastName.length = 28 ∧ (⟨maxU128⟩ : Rune).name = lastName
      ∧ ofName lastName = .ok ⟨maxU128⟩ := by
  have hname : (⟨maxU128⟩ : Rune).name = lastName := by decide
  have hread := (name_numeration.1 ⟨maxU128⟩ (Nat.le_refl _)).2.2
  rw [hname] at hread
  exact ⟨by decide, hname, hread⟩

end Runesmith.Rune
