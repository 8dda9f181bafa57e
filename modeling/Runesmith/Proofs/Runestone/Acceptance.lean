import Runesmith.Proofs.Runestone.Decipher

/-!
# The grammar of runestones

Deciphering looks for flaws by taking fields off queues and asking what is left. The messages that
have no flaw are described here without taking anything: by the values that each tag may have.

* `flawless_iff_admissible`: nothing is left of queues exactly if they are admissible;
* `decipher_runestone_iff`: a transaction carries a runestone exactly if its first script with the
  header is grammatical, and a cenotaph exactly if it is not.
-/

namespace Runesmith.Runestone

open Fields (Queues)

/-! ## Admissible queues -/

/-- The flags that a message may set: turbo and terms belong to an etching. -/
def knownFlags : List Nat := [0, 1, 3, 5, 7]

/-- The even tags of an etching. -/
def etchedTags : List Nat := [Tag.rune, Tag.premine]

/-- The tags of terms that may have any value. -/
def mintedTags : List Nat := [Tag.cap, Tag.amount]

/-- The tags of terms that bound heights. -/
def boundTags : List Nat := [Tag.heightStart, Tag.heightEnd, Tag.offsetStart, Tag.offsetEnd]

/-- The even tags that mean something. -/
def knownTags : List Nat :=
  [Tag.flags, Tag.mint, Tag.pointer] ++ etchedTags ++ mintedTags ++ boundTags

/-- How many values a tag may have that needs a flag. -/
def room (queues : Queues) (flag : Nat) : Nat :=
  if (flagsOf queues).testBit flag then 1 else 0

/-- The values that the even tags of a message may have. -/
structure Admissible (outputs : Nat) (queues : Queues) : Prop where
  flags : (queues Tag.flags).length ≤ 1 ∧ ∀ flags ∈ queues Tag.flags, flags ∈ knownFlags
  mint : queues Tag.mint = [] ∨
    ∃ block tx, queues Tag.mint = [block, tx] ∧ RuneId.IsPlace block tx
  pointer : (queues Tag.pointer).length ≤ 1 ∧
    ∀ p ∈ queues Tag.pointer, p < outputs ∧ p ≤ maxU32
  etched : ∀ tag ∈ etchedTags, (queues tag).length ≤ room queues Flag.etching
  minted : ∀ tag ∈ mintedTags, (queues tag).length ≤ room queues Flag.terms
  bounded : ∀ tag ∈ boundTags,
    (queues tag).length ≤ room queues Flag.terms ∧ ∀ value ∈ queues tag, value ≤ maxU64
  unknown : ∀ tag, tag % 2 = 0 → tag ∉ knownTags → queues tag = []
  supply : (queues Tag.premine).headD 0
    + (queues Tag.cap).headD 0 * (queues Tag.amount).headD 0 ≤ maxU128

/-! ## Flags -/

theorem take_fst (flag flags : Nat) : (Flag.take flag flags).1 = flags.testBit flag := by
  unfold Flag.take
  cases flags.testBit flag <;> rfl

theorem take_snd (flag flags : Nat) :
    (Flag.take flag flags).2 = flags - 2 ^ flag * (flags / 2 ^ flag % 2) := by
  unfold Flag.take
  split
  · rename_i h
    rw [Nat.testBit_eq_decide_div_mod_eq, decide_eq_true_eq] at h
    rw [h, Nat.mul_one]
    rfl
  · rename_i h
    rw [Nat.testBit_eq_decide_div_mod_eq, decide_eq_true_eq] at h
    have hzero : flags / 2 ^ flag % 2 = 0 := by omega
    rw [hzero, Nat.mul_zero, Nat.sub_zero]

/-- No flag is left exactly if the flags are known. -/
theorem headerOf_flags_eq_zero_iff {outputs : Nat} {queues : Queues} :
    (headerOf outputs queues).flags = 0 ↔ flagsOf queues ∈ knownFlags := by
  have hform : (headerOf outputs queues).flags
      = if (Flag.take Flag.etching (flagsOf queues)).1 then
          (Flag.take Flag.turbo
            (Flag.take Flag.terms (Flag.take Flag.etching (flagsOf queues)).2).2).2
        else (Flag.take Flag.etching (flagsOf queues)).2 := rfl
  rw [hform]
  -- Taking a flag clears its bit, so that this is arithmetic of the three lowest bits.
  simp only [take_fst, take_snd, Nat.testBit_eq_decide_div_mod_eq, decide_eq_true_eq, knownFlags,
    List.mem_cons, List.not_mem_nil, or_false, Flag.etching, Flag.terms, Flag.turbo]
  clear hform
  split
  · omega
  · omega

theorem mem_knownFlags {flags : Nat} :
    flags ∈ knownFlags ↔ flags = 0 ∨ flags = 1 ∨ flags = 3 ∨ flags = 5 ∨ flags = 7 := by
  simp [knownFlags]

/-- Known flags announce terms only together with an etching, which finds them announced. -/
theorem take_terms_of_known {flags : Nat} (h : flags ∈ knownFlags) :
    if flags.testBit Flag.etching then
      (Flag.take Flag.terms (Flag.take Flag.etching flags).2).1 = flags.testBit Flag.terms
    else flags.testBit Flag.terms = false := by
  rcases mem_knownFlags.1 h with rfl | rfl | rfl | rfl | rfl <;> rfl

/-- The tags that are taken, for flags that are known. -/
theorem takenTags_of_known {flags : Nat} (h : flags ∈ knownFlags) :
    takenTags flags = Tag.pointer :: Tag.mint ::
      ((if flags.testBit Flag.terms then termTags else [])
        ++ (if flags.testBit Flag.etching then plainTags else []) ++ [Tag.flags]) := by
  rcases mem_knownFlags.1 h with rfl | rfl | rfl | rfl | rfl <;> rfl

theorem mem_takenTags_iff {flags tag : Nat} (h : flags ∈ knownFlags) :
    tag ∈ takenTags flags ↔ tag ∈ [Tag.flags, Tag.mint, Tag.pointer]
      ∨ (flags.testBit Flag.etching ∧ tag ∈ plainTags)
      ∨ (flags.testBit Flag.terms ∧ tag ∈ termTags) := by
  rw [takenTags_of_known h]
  cases flags.testBit Flag.etching <;> cases flags.testBit Flag.terms <;> simp <;> grind

theorem mem_takenTags_of_plain {flags tag : Nat} (h : flags ∈ knownFlags) (htag : tag ∈ plainTags) :
    tag ∈ takenTags flags ↔ flags.testBit Flag.etching := by
  have hother : ∀ t ∈ plainTags, t ∉ [Tag.flags, Tag.mint, Tag.pointer] ∧ t ∉ termTags := by decide
  simp only [mem_takenTags_iff h, hother tag htag, htag, and_true, and_false, false_or, or_false]

theorem mem_takenTags_of_term {flags tag : Nat} (h : flags ∈ knownFlags) (htag : tag ∈ termTags) :
    tag ∈ takenTags flags ↔ flags.testBit Flag.terms := by
  have hother : ∀ t ∈ termTags, t ∉ [Tag.flags, Tag.mint, Tag.pointer] ∧ t ∉ plainTags := by decide
  simp only [mem_takenTags_iff h, hother tag htag, htag, and_true, and_false, false_or]

/-! ## What is left of a queue -/

theorem leftOne_eq_nil_iff {accepts : Nat → Bool} {queue : List Nat} :
    Fields.leftOne accepts queue = [] ↔ queue.length ≤ 1 ∧ ∀ value ∈ queue, accepts value := by
  rcases queue with _ | ⟨value, _ | ⟨second, rest⟩⟩
  · simp [Fields.leftOne]
  · simp [Fields.leftOne]
  · simp only [Fields.leftOne]
    split <;> simp

theorem leftTwo_eq_nil_iff {accepts : Nat → Nat → Bool} {queue : List Nat} :
    Fields.leftTwo accepts queue = [] ↔
      queue = [] ∨ ∃ first second, queue = [first, second] ∧ accepts first second := by
  rcases queue with _ | ⟨first, _ | ⟨second, _ | ⟨third, rest⟩⟩⟩
  · simp [Fields.leftTwo]
  · simp [Fields.leftTwo]
  · show (if accepts first second then [] else [first, second]) = [] ↔ _
    constructor
    · intro h
      split at h
      · exact .inr ⟨first, second, rfl, ‹_›⟩
      · cases h
    · rintro (h | ⟨_, _, h, haccepts⟩)
      · cases h
      · cases h
        exact if_pos haccepts
  · simp only [Fields.leftTwo]
    split <;> simp

section

variable {outputs tag : Nat} {queues : Queues}

/-- A field of one value is used up if it is allowed, alone and in its bounds. -/
theorem left_eq_nil_iff {flag : Nat} (hmint : tag ≠ Tag.mint)
    (htaken : tag ∈ takenTags (flagsOf queues) ↔ (flagsOf queues).testBit flag) :
    leftAfter outputs (takenTags (flagsOf queues)) queues tag = [] ↔
      (queues tag).length ≤ room queues flag ∧ ∀ value ∈ queues tag, accepts outputs tag value := by
  unfold room
  -- A field that no flag announces is not taken, so its queue has to be empty.
  by_cases h : (flagsOf queues).testBit flag
  · rw [leftAfter_of_mem (htaken.2 h), leftAt, if_neg hmint, leftOne_eq_nil_iff, if_pos h]
  · rw [leftAfter_of_not_mem (mt htaken.1 h), if_neg h, Nat.le_zero, List.length_eq_zero_iff]
    constructor
    · intro hnil
      rw [hnil]
      exact ⟨rfl, by simp⟩
    · exact And.left

theorem left_mint_eq_nil_iff :
    leftAfter outputs (takenTags (flagsOf queues)) queues Tag.mint = [] ↔
      queues Tag.mint = [] ∨
        ∃ block tx, queues Tag.mint = [block, tx] ∧ RuneId.IsPlace block tx := by
  rw [leftAfter_of_mem (by simp [takenTags]), leftAt, if_pos rfl, leftTwo_eq_nil_iff]
  simp only [RuneId.isSome_ofInts?]

theorem left_pointer_eq_nil_iff :
    leftAfter outputs (takenTags (flagsOf queues)) queues Tag.pointer = [] ↔
      (queues Tag.pointer).length ≤ 1 ∧ ∀ p ∈ queues Tag.pointer, p < outputs ∧ p ≤ maxU32 := by
  have haccepts : ∀ p, accepts outputs Tag.pointer p = true ↔ p < outputs ∧ p ≤ maxU32 := by
    intro p
    show decide (p ≤ maxU32 ∧ p < outputs) = true ↔ _
    rw [decide_eq_true_eq, and_comm]
  rw [leftAfter_of_mem (by simp [takenTags]), leftAt, if_neg (by decide), leftOne_eq_nil_iff]
  simp only [haccepts]

theorem left_flags_eq_nil_iff :
    leftAfter outputs (takenTags (flagsOf queues)) queues Tag.flags = [] ↔
      (queues Tag.flags).length ≤ 1 := by
  rw [leftAfter_of_mem (by simp [takenTags]), leftAt, if_neg (by decide), leftOne_eq_nil_iff]
  exact and_iff_left fun _ _ => rfl

/-- Flags that stand alone are what the message sets. -/
theorem flagsOf_mem_knownFlags_iff (h : (queues Tag.flags).length ≤ 1) :
    flagsOf queues ∈ knownFlags ↔ ∀ flags ∈ queues Tag.flags, flags ∈ knownFlags := by
  unfold flagsOf Fields.Queues.first
  rcases hqueue : queues Tag.flags with _ | ⟨flags, _ | ⟨second, rest⟩⟩
  · simp [knownFlags]
  · simp
  · rw [hqueue] at h
    simp at h

end

/-! ## Admissible queues have no flaw -/

section

variable {outputs tag : Nat} {queues : Queues}

theorem left_etched_eq_nil_iff (hknown : flagsOf queues ∈ knownFlags)
    (htag : tag ∈ etchedTags) :
    leftAfter outputs (takenTags (flagsOf queues)) queues tag = [] ↔
      (queues tag).length ≤ room queues Flag.etching := by
  have hplain : ∀ t ∈ etchedTags, t ∈ plainTags ∧ t ≠ Tag.mint := by decide
  rw [left_eq_nil_iff (hplain tag htag).2 (mem_takenTags_of_plain hknown (hplain tag htag).1)]
  refine and_iff_left fun value _ => ?_
  simp only [etchedTags, List.mem_cons, List.not_mem_nil, or_false] at htag
  rcases htag with rfl | rfl <;> rfl

theorem left_minted_eq_nil_iff (hknown : flagsOf queues ∈ knownFlags)
    (htag : tag ∈ mintedTags) :
    leftAfter outputs (takenTags (flagsOf queues)) queues tag = [] ↔
      (queues tag).length ≤ room queues Flag.terms := by
  have hterm : ∀ t ∈ mintedTags, t ∈ termTags ∧ t ≠ Tag.mint := by decide
  rw [left_eq_nil_iff (hterm tag htag).2 (mem_takenTags_of_term hknown (hterm tag htag).1)]
  refine and_iff_left fun value _ => ?_
  simp only [mintedTags, List.mem_cons, List.not_mem_nil, or_false] at htag
  rcases htag with rfl | rfl <;> rfl

theorem left_bounded_eq_nil_iff (hknown : flagsOf queues ∈ knownFlags)
    (htag : tag ∈ boundTags) :
    leftAfter outputs (takenTags (flagsOf queues)) queues tag = [] ↔
      (queues tag).length ≤ room queues Flag.terms ∧ ∀ value ∈ queues tag, value ≤ maxU64 := by
  have hterm : ∀ t ∈ boundTags, t ∈ termTags ∧ t ≠ Tag.mint := by decide
  have haccepts : ∀ value, accepts outputs tag value = true ↔ value ≤ maxU64 := by
    intro value
    simp only [boundTags, List.mem_cons, List.not_mem_nil, or_false] at htag
    rcases htag with rfl | rfl | rfl | rfl <;> exact decide_eq_true_iff
  rw [left_eq_nil_iff (hterm tag htag).2 (mem_takenTags_of_term hknown (hterm tag htag).1)]
  simp only [haccepts]

/-- A tag that means nothing is taken by no field. -/
theorem left_unknown_eq_nil_iff (hknown : flagsOf queues ∈ knownFlags) (heven : tag % 2 = 0)
    (htag : tag ∉ knownTags) :
    leftAfter outputs (takenTags (flagsOf queues)) queues tag = [] ↔ queues tag = [] := by
  have hthree : ∀ t ∈ [Tag.flags, Tag.mint, Tag.pointer], t ∈ knownTags := by decide
  have hplain : ∀ t ∈ plainTags, t % 2 = 0 → t ∈ knownTags := by decide
  have hterm : ∀ t ∈ termTags, t ∈ knownTags := by decide
  rw [leftAfter_of_not_mem]
  rw [mem_takenTags_iff hknown]
  rintro (h | ⟨-, h⟩ | ⟨-, h⟩)
  · exact htag (hthree tag h)
  · exact htag (hplain tag h heven)
  · exact htag (hterm tag h)

theorem first_some_getD (tag : Nat) : (queues.first tag some).getD 0 = (queues tag).headD 0 := by
  unfold Queues.first
  cases queues tag <;> rfl

theorem supply_ne_none_iff (etching : Etching) :
    etching.supply ≠ none ↔
      etching.premine.getD 0 + (match etching.terms with
        | some terms => terms.cap.getD 0 * terms.amount.getD 0
        | none => 0) ≤ maxU128 := by
  have hbound : ∀ total : Nat,
      (if total ≤ maxU128 then some total else none) ≠ none ↔ total ≤ maxU128 := by
    intro total
    by_cases h : total ≤ maxU128
    · rw [if_pos h]
      exact iff_of_true (Option.some_ne_none _) h
    · rw [if_neg h]
      exact iff_of_false (fun hne => hne rfl) h
  exact hbound _

/-- What may ever exist is told by the queues, where those that no flag announces are empty. -/
theorem supply_iff (hknown : flagsOf queues ∈ knownFlags)
    (hetched : (queues Tag.premine).length ≤ room queues Flag.etching)
    (hminted : (queues Tag.cap).length ≤ room queues Flag.terms) :
    (∀ etching ∈ (headerOf outputs queues).etching, etching.supply ≠ none) ↔
      (queues Tag.premine).headD 0
        + (queues Tag.cap).headD 0 * (queues Tag.amount).headD 0 ≤ maxU128 := by
  have hheader : (headerOf outputs queues).etching
      = if (Flag.take Flag.etching (flagsOf queues)).1 then
          some (etchingOf (Flag.take Flag.etching (flagsOf queues)).2 queues).1
        else none := rfl
  have hterms := take_terms_of_known hknown
  rw [hheader, take_fst]
  unfold room at hetched hminted
  -- What no flag announces has an empty queue and adds nothing.
  by_cases hetching : (flagsOf queues).testBit Flag.etching
  · rw [if_pos hetching] at hterms ⊢
    simp only [Option.mem_some_iff, forall_eq', supply_ne_none_iff]
    have hpremine : (etchingOf (Flag.take Flag.etching (flagsOf queues)).2 queues).1.premine
        = queues.first Tag.premine some := rfl
    have hannounced : (etchingOf (Flag.take Flag.etching (flagsOf queues)).2 queues).1.terms
        = if (flagsOf queues).testBit Flag.terms then some (termsOf queues) else none := by
      rw [← hterms]
      rfl
    rw [hpremine, hannounced, first_some_getD]
    by_cases hbit : (flagsOf queues).testBit Flag.terms
    · rw [if_pos hbit]
      show _ + (queues.first Tag.cap some).getD 0 * (queues.first Tag.amount some).getD 0 ≤ _ ↔ _
      rw [first_some_getD, first_some_getD]
    · rw [if_neg hbit, Nat.le_zero, List.length_eq_zero_iff] at hminted
      rw [if_neg hbit, hminted, List.headD_nil, Nat.zero_mul]
  · rw [if_neg hetching] at hterms hetched ⊢
    rw [if_neg (by rw [hterms]; decide), Nat.le_zero, List.length_eq_zero_iff] at hminted
    rw [Nat.le_zero, List.length_eq_zero_iff] at hetched
    rw [hetched, hminted]
    simp

end

/-- Nothing is left of queues exactly if they are admissible. -/
theorem flawless_iff_admissible {outputs : Nat} {queues : Queues} :
    Flawless outputs queues ↔ Admissible outputs queues := by
  constructor
  · rintro ⟨hsupply, hflags, htags⟩
    have hknown : flagsOf queues ∈ knownFlags := headerOf_flags_eq_zero_iff.1 hflags
    have halone := left_flags_eq_nil_iff.1 (htags Tag.flags rfl)
    have hetched : ∀ tag ∈ etchedTags,
        (queues tag).length ≤ room queues Flag.etching := fun tag htag =>
      (left_etched_eq_nil_iff hknown htag).1 (htags tag (by revert tag; decide))
    have hminted : ∀ tag ∈ mintedTags,
        (queues tag).length ≤ room queues Flag.terms := fun tag htag =>
      (left_minted_eq_nil_iff hknown htag).1 (htags tag (by revert tag; decide))
    exact {
      flags := ⟨halone, (flagsOf_mem_knownFlags_iff halone).1 hknown⟩
      mint := left_mint_eq_nil_iff.1 (htags Tag.mint rfl)
      pointer := left_pointer_eq_nil_iff.1 (htags Tag.pointer rfl)
      etched := hetched
      minted := hminted
      bounded := fun tag htag =>
        (left_bounded_eq_nil_iff hknown htag).1 (htags tag (by revert tag; decide))
      unknown := fun tag heven htag =>
        (left_unknown_eq_nil_iff hknown heven htag).1 (htags tag heven)
      supply := (supply_iff hknown (hetched _ (by decide)) (hminted _ (by decide))).1 hsupply }
  · intro h
    have hknown : flagsOf queues ∈ knownFlags := (flagsOf_mem_knownFlags_iff h.flags.1).2 h.flags.2
    refine ⟨?_, headerOf_flags_eq_zero_iff.2 hknown, ?_⟩
    · exact (supply_iff hknown (h.etched _ (by decide)) (h.minted _ (by decide))).2 h.supply
    · intro tag heven
      -- A tag with a meaning has a field that uses up its queue, any other tag has none.
      by_cases htag : tag ∈ knownTags
      · simp only [knownTags, List.mem_append, List.mem_cons, List.not_mem_nil, or_false] at htag
        rcases htag with (((rfl | rfl | rfl) | htag) | htag) | htag
        · exact left_flags_eq_nil_iff.2 h.flags.1
        · exact left_mint_eq_nil_iff.2 h.mint
        · exact left_pointer_eq_nil_iff.2 h.pointer
        · exact (left_etched_eq_nil_iff hknown htag).2 (h.etched tag htag)
        · exact (left_minted_eq_nil_iff hknown htag).2 (h.minted tag htag)
        · exact (left_bounded_eq_nil_iff hknown htag).2 (h.bounded tag htag)
      · exact (left_unknown_eq_nil_iff hknown heven htag).2 (h.unknown tag heven htag)

/-! ## Grammatical scripts -/

/-- What stands behind the header of a runestone: pushes of pieces, which together are integers,
which are pairs of a tag and a value with admissible values, and behind a tag zero edicts. -/
def Grammatical (outputs : Nat) (body : Bytes) : Prop :=
  ∃ pieces integers, ∃ fields : Fields, Script.Pushes body pieces
    ∧ Varint.DenotesAll pieces.flatten integers
    ∧ (∀ field ∈ fields, field.1 ≠ Tag.body)
    ∧ (integers = fields.integers
      ∨ ∃ said edicts, integers = fields.integers ++ Tag.body :: said
        ∧ Message.Says outputs .origin said edicts)
    ∧ Admissible outputs fields.values

theorem ofScript_runestone_iff {outputs : Nat} {body : Bytes} :
    (∃ r, ofScript outputs (header ++ body) = .runestone r) ↔ Grammatical outputs body := by
  have hdrop : (header ++ body).drop header.length = body := List.drop_left
  simp only [ofScript_eq_runestone_iff, ofIntegers_eq_runestone_iff, hdrop,
    Message.ofIntegers_eq_iff, flawless_iff_admissible]
  constructor
  · rintro ⟨r, pieces, integers, hpushes, hdenotes, edicts, fields, ⟨htags, hform⟩, hok, -⟩
    refine ⟨pieces, integers, fields, hpushes, hdenotes, htags, ?_, hok⟩
    rcases hform with ⟨hpairs, -⟩ | ⟨said, hsaid, hread⟩
    · exact .inl hpairs
    · exact .inr ⟨said, edicts, hsaid, hread⟩
  · rintro ⟨pieces, integers, fields, hpushes, hdenotes, htags, hpairs | ⟨said, edicts, hform⟩, hok⟩
    · exact ⟨_, pieces, integers, hpushes, hdenotes, [], fields, ⟨htags, .inl ⟨hpairs, rfl⟩⟩, hok,
        rfl⟩
    · exact ⟨_, pieces, integers, hpushes, hdenotes, edicts, fields,
        ⟨htags, .inr ⟨said, hform⟩⟩, hok, rfl⟩

/-- A transaction that has a script with the header has a first one. It carries a runestone exactly
if that is grammatical behind the header, and a cenotaph exactly if it is not. -/
theorem decipher_runestone_iff (tx : Transaction)
    (h : ∃ output ∈ tx.outputs, header <+: output.script) :
    ∃ body, IsFirstScript tx (header ++ body)
      ∧ ((∃ r, decipher tx = some (.runestone r)) ↔ Grammatical tx.outputs.length body)
      ∧ ((∃ c, decipher tx = some (.cenotaph c)) ↔ ¬ Grammatical tx.outputs.length body) := by
  cases hscript : script? tx with
  | none =>
    rcases h with ⟨output, hmem, hheader⟩
    exact absurd hheader (script?_eq_none_iff.1 hscript output hmem)
  | some script =>
    have hfirst := script?_eq_some_iff.1 hscript
    rcases hfirst.1 with ⟨body, rfl⟩
    have hdecipher : decipher tx = some (ofScript tx.outputs.length (header ++ body)) := by
      rw [decipher, hscript]
      rfl
    refine ⟨body, hfirst, ?_⟩
    simp only [hdecipher, Option.some.injEq]
    rw [← ofScript_runestone_iff]
    cases ofScript tx.outputs.length (header ++ body) <;> simp

/-- A transaction that mints a rune. -/
def mintTx : Transaction where
  version := Transaction.currentVersion
  lockTime := 0
  inputs := []
  outputs := [⟨546, [0x51]⟩, ⟨0, [0x6A, 0x5D, 4, 20, 2, 20, 1]⟩]

theorem decipher_mintTx :
    (∃ output ∈ mintTx.outputs, header <+: output.script)
      ∧ ∃ body, IsFirstScript mintTx (header ++ body)
        ∧ ((∃ r, decipher mintTx = some (.runestone r)) ↔ Grammatical 2 body)
        ∧ ((∃ c, decipher mintTx = some (.cenotaph c)) ↔ ¬ Grammatical 2 body) := by
  have h : ∃ output ∈ mintTx.outputs, header <+: output.script :=
    ⟨⟨0, header ++ [4, 20, 2, 20, 1]⟩, by simp [mintTx, header, Script.opReturn, Script.op13], _,
      rfl⟩
  exact ⟨h, decipher_runestone_iff mintTx h⟩

end Runesmith.Runestone
