import Runesmith.Proofs.Runestone.Reordering

/-!
# Tags that mean nothing

A message may carry pairs whose tag no field reads. What they do to the artifact depends on the tag
alone, neither on the value nor on the place of the pair:

* no field reads them, so that the header stays the same (`headerOf_congr`);
* a pair with an odd tag changes nothing (`ofIntegers_of_unknown_odd`);
* a pair with an even tag makes a cenotaph, but the mint, the etched name and a flaw that was there
  before stay (`ofIntegers_of_unknown_even`);
* `decipher_of_inserted` says both of transactions.
-/

namespace Runesmith

namespace Artifact

/-- The rule that is broken, if one is. -/
def flaw? : Artifact → Option Flaw
  | .runestone _ => none
  | .cenotaph c => some c.flaw

/-- The rune that is minted, which counts in a cenotaph too. -/
def mint? : Artifact → Option RuneId
  | .runestone r => r.mint
  | .cenotaph c => c.mint

/-- The name that is etched, which counts in a cenotaph too. -/
def etched? : Artifact → Option Rune
  | .runestone r => r.etching.bind (·.rune)
  | .cenotaph c => c.etching

end Artifact

namespace Runestone

open Fields (Queues)

/-! ## Queues that no field reads -/

/-- The tags that some field reads. -/
def fieldTags : List Nat :=
  Tag.pointer :: Tag.mint :: (termTags ++ plainTags ++ [Tag.flags])

theorem takenTags_subset (flags : Nat) : takenTags flags ⊆ fieldTags := by
  intro tag htag
  unfold takenTags etchingTags at htag
  unfold fieldTags
  split at htag
  · split at htag
    · exact htag
    · simp only [List.mem_cons, List.mem_append, List.nil_append] at htag ⊢
      tauto
  · simp only [List.mem_cons, List.mem_append, List.nil_append] at htag ⊢
    tauto

/-- A tag that means nothing: an odd one besides those of an etching, or an even one beyond that of
the pointer. -/
theorem not_mem_fieldTags {tag : Nat} (h : (tag % 2 = 1 ∧ tag ∉ [1, 3, 5]) ∨ 22 < tag) :
    tag ∉ fieldTags := by
  have hall : ∀ known ∈ fieldTags, known ≤ 22 ∧ (known % 2 = 1 → known ∈ [1, 3, 5]) := by decide
  intro hmem
  obtain ⟨hle, hodd⟩ := hall tag hmem
  rcases h with ⟨h, hnone⟩ | h
  · exact hnone (hodd h)
  · omega

section

variable {queues others : Queues} (h : ∀ tag ∈ fieldTags, others tag = queues tag)

include h

theorem first_congr {α : Type} {tag : Nat} (htag : tag ∈ fieldTags) (parse : Nat → Option α) :
    others.first tag parse = queues.first tag parse := by
  rw [Queues.first, h tag htag]
  rfl

theorem flagsOf_congr : flagsOf others = flagsOf queues := by
  rw [flagsOf, first_congr h (by decide)]
  rfl

theorem termsOf_congr : termsOf others = termsOf queues := by
  simp (disch := decide) only [termsOf, first_congr h]

theorem etchingOf_congr (flags : Nat) : etchingOf flags others = etchingOf flags queues := by
  simp (disch := decide) only [etchingOf, termsOf_congr h, first_congr h]

/-- What a message says is told by the queues that some field reads. -/
theorem headerOf_congr (outputs : Nat) : headerOf outputs others = headerOf outputs queues := by
  have hmint : others Tag.mint = queues Tag.mint := h Tag.mint (by decide)
  simp (disch := decide) only [headerOf, flagsOf_congr h, etchingOf_congr h, first_congr h,
    Queues.firstTwo, hmint]

end

/-! ## One pair more -/

/-- One pair more, in front of another pair, of the body, of a lone last integer, or of nothing. -/
def Inserted (tag value : Nat) (integers others : List Nat) : Prop :=
  ∃ fields : Fields, ∃ rest, (∀ field ∈ fields, field.1 ≠ Tag.body)
    ∧ integers = fields.integers ++ rest ∧ others = fields.integers ++ tag :: value :: rest

/-- The pair is one field more, and the rest of the message stays the same. -/
theorem Inserted.message {tag value : Nat} {integers others : List Nat} (outputs : Nat)
    (h : Inserted tag value integers others) (htag : tag ≠ Tag.body) :
    ∃ flaw edicts, ∃ front back : Fields,
      Message.ofIntegers outputs integers = ⟨flaw, edicts, front ++ back⟩
      ∧ Message.ofIntegers outputs others = ⟨flaw, edicts, front ++ (tag, value) :: back⟩ := by
  obtain ⟨fields, rest, hfields, rfl, rfl⟩ := h
  refine ⟨(Message.ofIntegers outputs rest).flaw, (Message.ofIntegers outputs rest).edicts, fields,
    (Message.ofIntegers outputs rest).fields, Message.ofIntegers_append hfields rest, ?_⟩
  rw [Message.ofIntegers_append hfields, Message.ofIntegers_pair htag]

/-- One pair more makes only the queue of its tag longer. -/
theorem values_insert_of_ne {tag other : Nat} (h : other ≠ tag) (value : Nat)
    (front back : Fields) :
    (front ++ (tag, value) :: back).values other = (front ++ back).values other := by
  rw [Fields.values_append, Fields.values_append, Fields.values_cons, if_neg (Ne.symm h)]

/-! ## Judging with one pair more -/

section

variable (message : Message) (header : Header) (left : Fields)

theorem flaw?_verdict : (verdict message header left).flaw? = flaw? message header left := by
  unfold verdict
  cases flaw? message header left <;> rfl

theorem mint?_verdict : (verdict message header left).mint? = header.mint := by
  unfold verdict
  cases flaw? message header left <;> rfl

theorem etched?_verdict :
    (verdict message header left).etched? = header.etching.bind (·.rune) := by
  unfold verdict
  cases flaw? message header left <;> rfl

end

section

variable {outputs tag value : Nat} {integers others : List Nat}

/-- With a pair more that no field reads, the header is the same, and of every other tag the same
is left; of its own tag the pair itself is left. -/
theorem verdicts_of_inserted (outputs : Nat) (h : Inserted tag value integers others)
    (htag : tag ∉ fieldTags) (hbody : tag ≠ Tag.body) :
    ∃ flaw edicts header, ∃ fields more left left' : Fields,
      ofIntegers outputs integers = verdict ⟨flaw, edicts, fields⟩ header left
      ∧ ofIntegers outputs others = verdict ⟨flaw, edicts, more⟩ header left'
      ∧ (∀ other, other ≠ tag → left'.values other = left.values other)
      ∧ value ∈ left'.values tag := by
  obtain ⟨flaw, edicts, front, back, hmessage, hother⟩ := h.message outputs hbody
  obtain ⟨left, hleft, hverdict⟩ := exists_verdict hmessage
  obtain ⟨left', hleft', hverdict'⟩ := exists_verdict hother
  have hqueues : ∀ other, other ≠ tag →
      Fields.values (front ++ (tag, value) :: back) other = (front ++ back).values other :=
    fun other hne => values_insert_of_ne hne value front back
  have hread : ∀ known ∈ fieldTags,
      Fields.values (front ++ (tag, value) :: back) known = (front ++ back).values known := by
    intro known hknown
    apply hqueues
    rintro rfl
    exact htag hknown
  refine ⟨flaw, edicts, headerOf outputs (front ++ back).values, front ++ back,
    front ++ (tag, value) :: back, left, left', hverdict, ?_, ?_, ?_⟩
  · rw [hverdict', headerOf_congr hread]
  · intro other hne
    rw [hleft', hleft, flagsOf_congr hread]
    dsimp only
    rw [leftAfter, leftAfter, hqueues other hne]
  · rw [hleft', leftAfter_of_not_mem fun hmem => htag (takenTags_subset _ hmem)]
    exact Fields.mem_values.2 (List.mem_append_right _ List.mem_cons_self)

/-- An odd tag that means nothing changes nothing. -/
theorem ofIntegers_of_unknown_odd (h : Inserted tag value integers others) (hodd : tag % 2 = 1)
    (hunknown : tag ∉ [1, 3, 5]) : ofIntegers outputs others = ofIntegers outputs integers := by
  have hbody : tag ≠ Tag.body := by
    rintro rfl
    cases hodd
  obtain ⟨flaw, edicts, header, fields, more, left, left', hverdict, hverdict', hsame, -⟩ :=
    verdicts_of_inserted outputs h (not_mem_fieldTags (.inl ⟨hodd, hunknown⟩)) hbody
  have heven : left'.hasEvenTag = left.hasEvenTag := by
    apply Fields.hasEvenTag_congr
    intro other hother
    apply hsame
    rintro rfl
    omega
  rw [hverdict, hverdict', verdict, verdict, flaw?, flaw?, heven]

/-- An even tag that means nothing makes a cenotaph, in which everything else that counts stays. -/
theorem ofIntegers_of_unknown_even (h : Inserted tag value integers others) (heven : tag % 2 = 0)
    (hunknown : 22 < tag) :
    ofIntegers outputs others = .cenotaph
      ⟨(ofIntegers outputs integers).flaw?.getD .unrecognizedEvenTag,
        (ofIntegers outputs integers).mint?, (ofIntegers outputs integers).etched?⟩ := by
  have hbody : tag ≠ Tag.body := Nat.ne_of_gt (Nat.zero_lt_of_lt hunknown)
  obtain ⟨flaw, edicts, header, fields, more, left, left', hverdict, hverdict', -, hleft⟩ :=
    verdicts_of_inserted outputs h (not_mem_fieldTags (.inr hunknown)) hbody
  have hleftEven : left'.hasEvenTag = true := by
    by_contra hnone
    rw [Bool.not_eq_true, Fields.hasEvenTag_eq_false_iff] at hnone
    rw [hnone tag heven] at hleft
    cases hleft
  -- The rule on even tags is the last one: a flaw that was found without it is found again.
  have hflaw : flaw? ⟨flaw, edicts, more⟩ header left'
      = some ((flaw? ⟨flaw, edicts, fields⟩ header left).getD .unrecognizedEvenTag) := by
    simp only [flaw?, hleftEven, if_true]
    cases flaw with
    | some flaw => rfl
    | none =>
      split
      · rfl
      split
      · rfl
      · cases left.hasEvenTag <;> rfl
  rw [hverdict, hverdict', flaw?_verdict, mint?_verdict, etched?_verdict, verdict, hflaw]

end

/-! ## Transactions with one pair more -/

/-- A pair with a tag that means nothing stands anywhere among the pairs of a message. If the tag is
odd, the artifact is the same as without it. If the tag is even, the artifact is a cenotaph with the
same mint and the same etched name, and with the flaw that there was before, or, if there was none,
for the even tag. -/
theorem decipher_of_inserted {tx other : Transaction} {integers others : List Nat}
    {tag value : Nat} (hcount : other.outputs.length = tx.outputs.length)
    (hcarries : Carries tx integers) (hother : Carries other others)
    (h : Inserted tag value integers others) :
    ∃ artifact, decipher tx = some artifact
      ∧ (tag % 2 = 1 → tag ∉ [1, 3, 5] → decipher other = some artifact)
      ∧ (tag % 2 = 0 → 22 < tag → decipher other = some (.cenotaph
          ⟨artifact.flaw?.getD .unrecognizedEvenTag, artifact.mint?, artifact.etched?⟩)) := by
  refine ⟨_, decipher_of_carries hcarries, ?_, ?_⟩
  · intro hodd hunknown
    rw [decipher_of_carries hother, hcount, ofIntegers_of_unknown_odd h hodd hunknown]
  · intro heven hunknown
    rw [decipher_of_carries hother, hcount, ofIntegers_of_unknown_even h heven hunknown]

/-! ## A message with one pair more -/

/-- An etching of a name and the first half of a mint. -/
def etchFields : Fields := [(2, 1), (4, 77), (20, 2)]

/-- The second half of the mint and a transfer. -/
def mintTail : List Nat := [20, 300, 0, 2, 300, 7, 1]

/-- A transaction with this message and room for two bytes in the middle of the mint. -/
def etchTx (middle : Bytes) : Transaction where
  version := Transaction.currentVersion
  lockTime := 0
  inputs := []
  outputs := [⟨0, [0x6A, 0x5D, UInt8.ofNat (15 + middle.length), 2, 1, 4, 77, 20, 2] ++ middle
    ++ [20, 172, 2, 0, 2, 172, 2, 7, 1]⟩, ⟨546, [0x51]⟩]

/-- The tag 127 changes nothing, the tag 24 burns the name and the mint. -/
theorem decipher_etchTx :
    (etchTx [127, 9]).outputs.length = (etchTx []).outputs.length
      ∧ (etchTx [24, 9]).outputs.length = (etchTx []).outputs.length
      ∧ Carries (etchTx []) (etchFields.integers ++ mintTail)
      ∧ Carries (etchTx [127, 9]) (etchFields.integers ++ 127 :: 9 :: mintTail)
      ∧ Carries (etchTx [24, 9]) (etchFields.integers ++ 24 :: 9 :: mintTail)
      ∧ Inserted 127 9 (etchFields.integers ++ mintTail)
        (etchFields.integers ++ 127 :: 9 :: mintTail)
      ∧ Inserted 24 9 (etchFields.integers ++ mintTail) (etchFields.integers ++ 24 :: 9 :: mintTail)
      ∧ decipher (etchTx [127, 9]) = decipher (etchTx [])
      ∧ ∃ id : RuneId, decipher (etchTx [24, 9])
        = some (.cenotaph ⟨.unrecognizedEvenTag, some id, some ⟨77⟩⟩) := by
  have hplain : Carries (etchTx []) (etchFields.integers ++ mintTail) :=
    carries_iff.2 ⟨_, _, script?_eq_some_iff.1 rfl, by cbv, by cbv⟩
  have hodd : Carries (etchTx [127, 9]) (etchFields.integers ++ 127 :: 9 :: mintTail) :=
    carries_iff.2 ⟨_, _, script?_eq_some_iff.1 rfl, by cbv, by cbv⟩
  have heven : Carries (etchTx [24, 9]) (etchFields.integers ++ 24 :: 9 :: mintTail) :=
    carries_iff.2 ⟨_, _, script?_eq_some_iff.1 rfl, by cbv, by cbv⟩
  have hinserted : ∀ tag, Inserted tag 9 (etchFields.integers ++ mintTail)
      (etchFields.integers ++ tag :: 9 :: mintTail) :=
    fun tag => ⟨etchFields, mintTail, by decide, rfl, rfl⟩
  have hcount : ∀ middle, (etchTx middle).outputs.length = (etchTx []).outputs.length :=
    fun _ => rfl
  obtain ⟨artifact, hartifact, hsame, -⟩ :=
    decipher_of_inserted (hcount [127, 9]) hplain hodd (hinserted 127)
  obtain ⟨artifact', hartifact', -, hburnt⟩ :=
    decipher_of_inserted (hcount [24, 9]) hplain heven (hinserted 24)
  obtain ⟨id, hid⟩ : ∃ id, decipher (etchTx []) = some (.runestone
      ⟨[⟨id, 7, 1⟩], some ⟨none, none, some ⟨77⟩, none, none, none, false⟩, some id, none⟩) :=
    ⟨⟨2, 300, by decide, by decide, by decide⟩, by cbv⟩
  rw [hid] at hartifact'
  cases hartifact'
  refine ⟨rfl, rfl, hplain, hodd, heven, hinserted 127, hinserted 24, ?_, id, ?_⟩
  · rw [hartifact, hsame (by decide) (by decide)]
  · exact hburnt (by decide) (by decide)

end Runestone

end Runesmith
