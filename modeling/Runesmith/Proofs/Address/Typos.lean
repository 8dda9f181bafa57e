import Runesmith.Proofs.Address.Witness

/-!
# Mistyped witness addresses

The checksum of a witness address finds every slip that stays within six neighbouring letters behind
the one of the version.

* `Remainder.append_left_inj`: a step of the division forgets nothing of the remainder, because the
  last coefficient of the generator is not zero;
* `residue_window_inj`: so two messages that differ in at most six neighbouring symbols leave
  different remainders, whatever stands in front of them and behind them;
* `ofText_of_mistyped`: a text that differs from an address in this way is not an address.
-/

namespace Runesmith.Bech32

/-! ## Remainders of messages that differ in a window -/

namespace Remainder

theorem mul_generator_inj {a b : Symbol} (h : mul a generator.c0 = mul b generator.c0) : a = b := by
  have hall : ∀ a b : Symbol, mul a generator.c0 = mul b generator.c0 → a = b := by decide
  exact hall a b h

/-- Different remainders stay different when a message goes on. -/
theorem append_left_inj {r t : Remainder} {s : Symbol} : r.append s = t.append s ↔ r = t := by
  constructor
  · intro h
    simp only [append, add_def, scale, Remainder.mk.injEq, BitVec.xor_right_inj] at h
    obtain ⟨h4, h3, h2, h1, h0, hlast⟩ := h
    -- The symbol that was appended shows the first coefficient, and that the others.
    have h5 : r.c5 = t.c5 := mul_generator_inj hlast
    simp only [h5, BitVec.xor_left_inj] at h4 h3 h2 h1 h0
    ext1
    all_goals assumption
  · rintro rfl
    rfl

theorem foldl_append_left_inj {r t : Remainder} {message : List Symbol} :
    message.foldl append r = message.foldl append t ↔ r = t := by
  induction message generalizing r t with
  | nil => rfl
  | cons s rest ih => rw [List.foldl_cons, List.foldl_cons, ih, append_left_inj]

theorem add_right_inj {r t u : Remainder} : r + t = r + u ↔ t = u := by
  rw [add_eq_iff, ← (add_eq_iff r u (r + u)).1 rfl]

/-- Up to six symbols are told from each other by the remainder. -/
theorem foldl_append_right_inj {r : Remainder} {window other : List Symbol}
    (hlength : other.length = window.length) (hsix : window.length ≤ 6) :
    other.foldl append r = window.foldl append r ↔ other = window := by
  constructor
  · intro h
    -- Zeros fill up both messages to six symbols, which are a polynomial of their own.
    have hwindow : (window ++ List.replicate (6 - window.length) 0).length = 6 := by
      rw [List.length_append, List.length_replicate]
      omega
    have hother : (other ++ List.replicate (6 - window.length) 0).length = 6 := by
      rw [List.length_append, List.length_replicate]
      omega
    obtain ⟨w, hw⟩ := exists_symbols hwindow
    obtain ⟨o, ho⟩ := exists_symbols hother
    have hfilled : o.symbols.foldl append r = w.symbols.foldl append r := by
      rw [ho, hw, List.foldl_append, List.foldl_append, h]
    rw [foldl_append_tail, foldl_append_tail, add_right_inj, ← symbols_inj, ho, hw] at hfilled
    exact List.append_cancel_right hfilled
  · rintro rfl
    rfl

end Remainder

/-- Messages that differ in at most six neighbouring symbols leave different remainders. -/
theorem residue_window_inj {front window other behind : List Symbol}
    (hlength : other.length = window.length) (hsix : window.length ≤ 6) :
    residue (front ++ other ++ behind) = residue (front ++ window ++ behind) ↔ other = window := by
  simp only [residue, List.foldl_append, Remainder.foldl_append_left_inj,
    Remainder.foldl_append_right_inj hlength hsix]

/-! ## Letters -/

theorem letter_inj {s t : Symbol} : letter s = letter t ↔ s = t := by
  constructor
  · intro h
    have hvalue := symbolValue?_letter s
    rw [h, symbolValue?_letter t] at hvalue
    exact (BitVec.eq_of_toNat_eq (Option.some.inj hvalue)).symm
  · rintro rfl
    rfl

theorem letter_mem_alphabet (s : Symbol) : letter s ∈ alphabet := by
  have hall : ∀ s : Symbol, letter s ∈ alphabet := by decide
  exact hall s

theorem exists_letter_of_mem {c : Char} (h : c ∈ alphabet) : ∃ s, c = letter s := by
  have hsome : (symbolValue? c).isSome := by
    rw [symbolValue?, List.isSome_idxOf?]
    exact h
  obtain ⟨n, hn⟩ := Option.isSome_iff_exists.1 hsome
  obtain ⟨s, hs, -⟩ := exists_letter hn
  exact ⟨s, hs⟩

end Runesmith.Bech32

namespace Runesmith.Address

open Bech32

/-! ## Slips -/

/-- Letters behind the `1` and what was typed for them. The letter of the version was typed, and
each that was not was replaced by the letter of another symbol; all that were replaced are within
six neighbouring ones, and there is at least one. -/
structure Mistyped (data typed : List Char) : Prop where
  length_eq : typed.length = data.length
  version : typed[0]? = data[0]?
  letters : ∀ (i : Nat) (c : Char), typed[i]? = some c → data[i]? ≠ some c → c ∈ alphabet
  window : ∃ first, ∀ i : Nat, typed[i]? ≠ data[i]? → first ≤ i ∧ i < first + 6
  ne : typed ≠ data

/-- What was typed differs from the letters in a window behind the first of them. -/
theorem Mistyped.exists_window {data typed : List Char} (h : Mistyped data typed) :
    ∃ front window other behind, data = front ++ window ++ behind
      ∧ typed = front ++ other ++ behind ∧ front ≠ [] ∧ other.length = window.length
      ∧ window.length ≤ 6 := by
  obtain ⟨first, hwindow⟩ := h.window
  -- The window may begin at the version, but then the version is not among what was replaced.
  have hsame : ∀ i, i < max first 1 ∨ max first 1 + 6 ≤ i → typed[i]? = data[i]? := by
    intro i hi
    by_contra hne
    have hin := hwindow i hne
    have hzero : i ≠ 0 := by
      rintro rfl
      exact hne h.version
    omega
  have hfront : typed.take (max first 1) = data.take (max first 1) := by
    apply List.ext_getElem?
    intro i
    by_cases hi : i < max first 1
    · rw [List.getElem?_take_of_lt hi, List.getElem?_take_of_lt hi, hsame i (.inl hi)]
    · rw [List.getElem?_take_eq_none (by omega), List.getElem?_take_eq_none (by omega)]
  have hbehind : (typed.drop (max first 1)).drop 6 = (data.drop (max first 1)).drop 6 := by
    apply List.ext_getElem?
    intro i
    simp only [List.getElem?_drop]
    exact hsame _ (.inr (by omega))
  refine ⟨data.take (max first 1), (data.drop (max first 1)).take 6,
    (typed.drop (max first 1)).take 6, (data.drop (max first 1)).drop 6, ?_, ?_, ?_, ?_, ?_⟩
  · rw [List.append_assoc, List.take_append_drop, List.take_append_drop]
  · rw [← hfront, ← hbehind, List.append_assoc, List.take_append_drop, List.take_append_drop]
  · intro hnil
    have hempty : data = [] := by
      rcases List.take_eq_nil_iff.1 hnil with hzero | hempty
      · omega
      · exact hempty
    have hlength := h.length_eq
    rw [hempty, List.length_nil, List.length_eq_zero_iff] at hlength
    exact h.ne (hlength.trans hempty.symm)
  · simp only [List.length_take, List.length_drop, h.length_eq]
  · exact List.length_take_le 6 _

/-- Of letters, letters were typed. -/
theorem Mistyped.mem_alphabet {data typed : List Char} (h : Mistyped data typed)
    (hdata : ∀ c ∈ data, c ∈ alphabet) : ∀ c ∈ typed, c ∈ alphabet := by
  intro c hc
  obtain ⟨i, hi⟩ := List.mem_iff_getElem?.1 hc
  by_cases hsame : data[i]? = some c
  · exact hdata c (List.mem_of_getElem? hsame)
  · exact h.letters i c hi hsame

/-! ## Texts with a slip -/

theorem exists_symbols_of_letters {cs : List Char} (h : ∀ c ∈ cs, c ∈ alphabet) :
    ∃ symbols : List Symbol, cs = symbols.map letter := by
  induction cs with
  | nil => exact ⟨[], rfl⟩
  | cons c rest ih =>
    obtain ⟨s, rfl⟩ := exists_letter_of_mem (h c (by simp))
    obtain ⟨symbols, rfl⟩ := ih fun d hd => h d (by simp [hd])
    exact ⟨s :: symbols, rfl⟩

/-- The first of the symbols is the version that is decoded. -/
theorem Decodes.head?_eq {hrp : String} {values : List Nat} {version : Nat} {program : Bytes}
    (h : Decodes hrp values version program) : values.head? = some version := by
  obtain ⟨groups, hdata, -⟩ := h.data
  rw [← List.take_append_drop (values.length - checksumLength) values, hdata]
  rfl

/-- Two addresses of one prefix and one version differ in more than six neighbouring letters. -/
theorem eq_of_decodes {hrp : String} (hascii : Text.IsAscii hrp)
    {front window other behind : List Symbol} {version version' : Nat} {program program' : Bytes}
    (hfront : front ≠ []) (hlength : other.length = window.length) (hsix : window.length ≤ 6)
    (h : Decodes hrp ((front ++ window ++ behind).map BitVec.toNat) version program)
    (h' : Decodes hrp ((front ++ other ++ behind).map BitVec.toNat) version' program') :
    other = window := by
  have hversion : version' = version := by
    have hhead := h.head?_eq
    have hhead' := h'.head?_eq
    cases front with
    | nil => exact absurd rfl hfront
    | cons s rest => exact Option.some.inj (hhead'.symm.trans hhead)
  have hresidue : ∀ {symbols : List Symbol} {v : Nat} {p : Bytes},
      Decodes hrp (symbols.map BitVec.toNat) v p →
        (residue (prefixSymbols hrp ++ symbols)).pack = target v := by
    intro symbols v p hdecodes
    rw [← polymod_map_toNat, List.map_append, ← expand_of_ascii hascii]
    exact hdecodes.remainder
  have hpack := hresidue h'
  rw [hversion, ← hresidue h] at hpack
  have hsame := congrArg Remainder.ofNat hpack
  rw [Remainder.ofNat_pack, Remainder.ofNat_pack, ← List.append_assoc, ← List.append_assoc,
    ← List.append_assoc, ← List.append_assoc, residue_window_inj hlength hsix] at hsame
  exact hsame

section

variable {hrp : String} {networks : List Network} (hmem : (hrp, networks) ∈ witnessPrefixes)

include hmem

/-- Letters behind a prefix and the `1` are text in lower case. -/
theorem lower_of_letters {data : List Char} (h : ∀ c ∈ data, c ∈ alphabet) :
    Text.lower (hrp ++ "1" ++ String.ofList data) = hrp ++ "1" ++ String.ofList data := by
  obtain ⟨symbols, rfl⟩ := exists_symbols_of_letters h
  rw [Text.lower_of_ascii fun _ hc => (text_facts hmem hc).1]
  exact Text.toLower_eq_self_iff.2 fun _ hc => (text_facts hmem hc).2.2

/-- In lower case, what is accepted behind a prefix is the letters of symbols that decode. -/
theorem exists_decodes {text : String} {data : List Char} {address : Address}
    (htext : Text.trim text = hrp ++ "1" ++ String.ofList data) (hone : '1' ∉ data)
    (hlower : Text.lower (Text.trim text) = Text.trim text) (h : ofText text = .ok address) :
    ∃ symbols : List Symbol, ∃ version program, data = symbols.map letter
      ∧ Decodes hrp (symbols.map BitVec.toNat) version program := by
  rw [ofText_of_split hmem htext (by rwa [String.toList_ofList]) (lower_hrp hmem)] at h
  have hsplit : splitLastOne (Text.lower (Text.trim text)).toList = (hrp.toList, data) := by
    rw [hlower, htext]
    simp only [String.toList_append, String.toList_ofList, List.append_assoc]
    exact splitLastOne_append hone
  cases hfound : witnessProgram (Text.trim text) with
  | error e =>
    rw [hfound] at h
    cases h
  | ok found =>
    obtain ⟨-, symbols, hdata, hdecodes⟩ := decodes_of_witnessProgram hsplit hfound
    rw [String.ofList_toList] at hdecodes
    exact ⟨symbols, found.1, found.2, hdata, hdecodes⟩

end

/-- Letters that are typed in a window decode together with what they were typed for only if they
are the same. -/
theorem eq_of_mistyped {hrp : String} (hascii : Text.IsAscii hrp) {data typed : List Char}
    (h : Mistyped data typed) {symbols others : List Symbol} {version version' : Nat}
    {program program' : Bytes} (hdata : data = symbols.map letter)
    (htyped : typed = others.map letter)
    (hdecodes : Decodes hrp (symbols.map BitVec.toNat) version program) :
    ¬Decodes hrp (others.map BitVec.toNat) version' program' := by
  intro hdecodes'
  obtain ⟨front, window, other, behind, hcut, hcut', hfront, hlength, hsix⟩ := h.exists_window
  rw [hdata] at hcut
  rw [htyped] at hcut'
  obtain ⟨most, last, rfl, hmost, hlast⟩ := List.map_eq_append_iff.1 hcut
  obtain ⟨first, middle, rfl, hfirst, hmiddle⟩ := List.map_eq_append_iff.1 hmost
  obtain ⟨most', last', rfl, hmost', hlast'⟩ := List.map_eq_append_iff.1 hcut'
  obtain ⟨first', middle', rfl, hfirst', hmiddle'⟩ := List.map_eq_append_iff.1 hmost'
  have hinj : ∀ {ss us : List Symbol}, ss.map letter = us.map letter → ss = us :=
    (List.map_inj_right fun _ _ => letter_inj.1).1
  have hsame : first' = first := hinj (hfirst'.trans hfirst.symm)
  have hsame' : last' = last := hinj (hlast'.trans hlast.symm)
  rw [hsame, hsame'] at hdecodes'
  rw [← hfirst, ne_eq, List.map_eq_nil_iff] at hfront
  rw [← hmiddle, ← hmiddle', List.length_map, List.length_map] at hlength
  rw [← hmiddle, List.length_map] at hsix
  have hwindow : middle' = middle := eq_of_decodes hascii hfront hlength hsix hdecodes hdecodes'
  exact h.ne (by rw [hdata, htyped, hsame, hsame', hwindow])

/-! ## Addresses with a slip -/

/-- No text is an address that differs from an address in lower case by letters typed for others,
all within six neighbouring ones behind the version. Blanks around the texts play no part. -/
theorem ofText_of_mistyped {hrp : String} {networks : List Network}
    (hmem : (hrp, networks) ∈ witnessPrefixes) {text other : String} {data typed : List Char}
    (htext : Text.trim text = hrp ++ "1" ++ String.ofList data) (hone : '1' ∉ data)
    (hlower : Text.lower (Text.trim text) = Text.trim text) {address : Address}
    (haccepted : ofText text = .ok address)
    (hother : Text.trim other = hrp ++ "1" ++ String.ofList typed) (h : Mistyped data typed) :
    ∃ e, ofText other = .error e := by
  obtain ⟨symbols, version, program, hdata, hdecodes⟩ :=
    exists_decodes hmem htext hone hlower haccepted
  have hletters : ∀ c ∈ typed, c ∈ alphabet := by
    apply h.mem_alphabet
    intro c hc
    rw [hdata] at hc
    obtain ⟨s, -, rfl⟩ := List.mem_map.1 hc
    exact letter_mem_alphabet s
  have hone' : '1' ∉ typed := fun hmem => absurd (hletters _ hmem) (by decide)
  have hlower' : Text.lower (Text.trim other) = Text.trim other := by
    rw [hother]
    exact lower_of_letters hmem hletters
  cases hresult : ofText other with
  | error e => exact ⟨e, rfl⟩
  | ok address' =>
    obtain ⟨others, version', program', htyped, hdecodes'⟩ :=
      exists_decodes hmem hother hone' hlower' hresult
    exact absurd hdecodes' (eq_of_mistyped (isAscii_hrp hmem) h hdata htyped hdecodes)

/-- The letters of the address of the private key one. -/
def keyOneLetters : List Char :=
  "qw508d6qejxtdg4y5r3zarvary0c5xw7kv8f3t4".toList

/-- The same with six of them mistyped. -/
def slippedLetters : List Char :=
  "qw508d6qejpzry9x5r3zarvary0c5xw7kv8f3t4".toList

theorem mistyped_slippedLetters : Mistyped keyOneLetters slippedLetters where
  length_eq := by decide
  version := by decide
  letters := by
    have hall : (slippedLetters.all fun c => decide (c ∈ alphabet)) = true := by decide +kernel
    intro i c hc _
    exact of_decide_eq_true (List.all_eq_true.1 hall c (List.mem_of_getElem? hc))
  window := by
    have hall : ∀ i < 39, slippedLetters[i]? ≠ keyOneLetters[i]? → 10 ≤ i ∧ i < 10 + 6 := by
      decide +kernel
    refine ⟨10, fun i hne => ?_⟩
    by_cases hi : i < 39
    · exact hall i hi hne
    · have hnone : ∀ cs : List Char, cs.length = 39 → cs[i]? = none := by
        intro cs hlength
        rw [List.getElem?_eq_none_iff]
        omega
      rw [hnone _ (by decide), hnone _ (by decide)] at hne
      exact absurd rfl hne
  ne := by decide

/-- The address of the key with six letters mistyped is no address. -/
theorem ofText_slippedLetters :
    ("bc", [.mainnet]) ∈ witnessPrefixes
      ∧ Text.trim ("bc1" ++ String.ofList keyOneLetters)
        = "bc" ++ "1" ++ String.ofList keyOneLetters
      ∧ '1' ∉ keyOneLetters
      ∧ Text.lower (Text.trim ("bc1" ++ String.ofList keyOneLetters))
        = Text.trim ("bc1" ++ String.ofList keyOneLetters)
      ∧ ofText ("bc1" ++ String.ofList keyOneLetters)
        = .ok ⟨"bc1" ++ String.ofList keyOneLetters, Script.witness 0 keyOneHash, [.mainnet]⟩
      ∧ Text.trim ("bc1" ++ String.ofList slippedLetters)
        = "bc" ++ "1" ++ String.ofList slippedLetters
      ∧ Mistyped keyOneLetters slippedLetters
      ∧ ∃ e, ofText ("bc1" ++ String.ofList slippedLetters) = .error e := by
  have hmem : ("bc", [.mainnet]) ∈ witnessPrefixes := by decide
  have htext : Text.trim ("bc1" ++ String.ofList keyOneLetters)
      = "bc" ++ "1" ++ String.ofList keyOneLetters := by decide +kernel
  have hone : '1' ∉ keyOneLetters := by decide
  have hlower : Text.lower (Text.trim ("bc1" ++ String.ofList keyOneLetters))
      = Text.trim ("bc1" ++ String.ofList keyOneLetters) := by decide +kernel
  have haccepted : ofText ("bc1" ++ String.ofList keyOneLetters)
      = .ok ⟨"bc1" ++ String.ofList keyOneLetters, Script.witness 0 keyOneHash, [.mainnet]⟩ := by
    decide +kernel
  have hother : Text.trim ("bc1" ++ String.ofList slippedLetters)
      = "bc" ++ "1" ++ String.ofList slippedLetters := by decide +kernel
  exact ⟨hmem, htext, hone, hlower, haccepted, hother, mistyped_slippedLetters,
    ofText_of_mistyped hmem htext hone hlower haccepted hother mistyped_slippedLetters⟩

end Runesmith.Address
