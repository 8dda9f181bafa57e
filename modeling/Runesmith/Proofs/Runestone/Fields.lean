import Runesmith.Runestone.Decipher

/-!
# The queues of a message

The fields of a message are read off the queues of its tags: a field takes the front of its own
queue and no other. What is taken, and what is left over, is stated here by the queues alone, for a
single field and from it for all fields of a message.
-/

namespace Runesmith

namespace Fields

/-! ## One queue -/

theorem values_nil (tag : Nat) : values [] tag = [] := rfl

theorem values_cons (field : Nat × Nat) (rest : Fields) (tag : Nat) :
    values (field :: rest) tag
      = if field.1 = tag then field.2 :: values rest tag else values rest tag := by
  unfold values
  by_cases h : field.1 = tag <;> simp [h]

theorem mem_values {fields : Fields} {tag value : Nat} :
    value ∈ fields.values tag ↔ (tag, value) ∈ fields := by
  simp [values]

/-- Discarding pairs of one tag shortens the queue of that tag. -/
theorem values_discard (tag count : Nat) (fields : Fields) (t : Nat) :
    (discard tag count fields).values t
      = if t = tag then (fields.values tag).drop count else fields.values t := by
  fun_induction discard tag count fields with
  | case1 fields =>
    by_cases h : t = tag <;> simp [h]
  | case2 => simp [values_nil]
  | case3 count field rest hfield ih =>
    rw [ih, values_cons, values_cons, hfield]
    by_cases h : t = tag
    · simp [h]
    · simp [h, Ne.symm h]
  | case4 count field rest hfield ih =>
    rw [values_cons, ih, values_cons, values_cons, if_neg hfield]
    by_cases h : t = tag
    · simp [h, hfield]
    · simp [h]

/-- No even tag is left exactly if the queue of every even tag is empty. -/
theorem hasEvenTag_eq_false_iff {fields : Fields} :
    fields.hasEvenTag = false ↔ ∀ tag, tag % 2 = 0 → fields.values tag = [] := by
  unfold hasEvenTag
  rw [List.any_eq_false]
  constructor
  · intro h tag htag
    rw [List.eq_nil_iff_forall_not_mem]
    intro value hvalue
    have := h (tag, value) (mem_values.1 hvalue)
    simp [htag] at this
  · rintro h ⟨tag, value⟩ hmem
    intro heven
    have hempty := h tag (by simpa using heven)
    have hvalue := mem_values.2 hmem
    rw [hempty] at hvalue
    simp at hvalue

/-! ## Taking one or two values -/

/-- What a field of one value leaves of its queue. -/
def leftOne (accepts : Nat → Bool) : List Nat → List Nat
  | [] => []
  | value :: rest => if accepts value then rest else value :: rest

/-- What a field of two values leaves of its queue. -/
def leftTwo (accepts : Nat → Nat → Bool) : List Nat → List Nat
  | first :: second :: rest => if accepts first second then rest else first :: second :: rest
  | queue => queue

section

variable {α : Type}

theorem takeOne_fst (tag : Nat) (parse : Nat → Option α) (fields : Fields) :
    (takeOne tag parse fields).1 = (fields.values tag).head?.bind parse := by
  unfold takeOne take
  cases h : fields.values tag with
  | nil => simp
  | cons value rest =>
    cases hv : parse value <;> simp [hv]

theorem values_takeOne (tag : Nat) (parse : Nat → Option α) (fields : Fields) (t : Nat) :
    (takeOne tag parse fields).2.values t
      = if t = tag then leftOne (fun v => (parse v).isSome) (fields.values tag)
        else fields.values t := by
  unfold takeOne take
  cases h : fields.values tag with
  | nil =>
    by_cases ht : t = tag <;> simp [ht, h, leftOne]
  | cons value rest =>
    cases hv : parse value with
    | none => by_cases ht : t = tag <;> simp [hv, ht, h, leftOne]
    | some x => by_cases ht : t = tag <;> simp [hv, ht, h, leftOne, values_discard]

theorem takeTwo_fst (tag : Nat) (parse : Nat → Nat → Option α) (fields : Fields) :
    (takeTwo tag parse fields).1 = match fields.values tag with
      | first :: second :: _ => parse first second
      | _ => none := by
  unfold takeTwo take
  rcases h : fields.values tag with _ | ⟨first, _ | ⟨second, rest⟩⟩
  · simp
  · simp
  · cases hv : parse first second <;> simp [hv]

theorem values_takeTwo (tag : Nat) (parse : Nat → Nat → Option α) (fields : Fields) (t : Nat) :
    (takeTwo tag parse fields).2.values t
      = if t = tag then leftTwo (fun a b => (parse a b).isSome) (fields.values tag)
        else fields.values t := by
  unfold takeTwo take
  rcases h : fields.values tag with _ | ⟨first, _ | ⟨second, rest⟩⟩
  · by_cases ht : t = tag <;> simp [ht, h, leftTwo]
  · by_cases ht : t = tag <;> simp [ht, h, leftTwo]
  · cases hv : parse first second with
    | none => by_cases ht : t = tag <;> simp [hv, ht, h, leftTwo]
    | some x => by_cases ht : t = tag <;> simp [hv, ht, h, leftTwo, values_discard]

end

/-! ## Reading off queues -/

/-- The queues of all tags. -/
abbrev Queues := Nat → List Nat

/-- The first value of a queue, as a field reads it. -/
def Queues.first {α : Type} (queues : Queues) (tag : Nat) (parse : Nat → Option α) : Option α :=
  (queues tag).head?.bind parse

/-- The first two values of a queue, as a field reads them. -/
def Queues.firstTwo {α : Type} (queues : Queues) (tag : Nat) (parse : Nat → Nat → Option α) :
    Option α :=
  match queues tag with
  | first :: second :: _ => parse first second
  | _ => none

/-- On fields with these queues an action has this result and leaves those queues. -/
def Reads {α : Type} (action : StateM Fields α) (queues : Queues) (result : α) (left : Queues) :
    Prop :=
  ∀ fields : Fields, fields.values = queues →
    (action fields).1 = result ∧ (action fields).2.values = left

namespace Reads

variable {α β : Type} {queues left : Queues}

theorem pure (x : α) : Reads (Pure.pure x) queues x queues := by
  intro fields h
  exact ⟨rfl, h⟩

theorem bind {action : StateM Fields α} {next : α → StateM Fields β} {x : α} {y : β}
    {middle : Queues} (hx : Reads action queues x middle) (hy : Reads (next x) middle y left) :
    Reads (action >>= next) queues y left := by
  intro fields h
  rcases hx fields h with ⟨hresult, hmiddle⟩
  have hnext := hy (action fields).2 hmiddle
  rw [← hresult] at hnext
  exact hnext

theorem map {action : StateM Fields α} (f : α → β) {x : α} (hx : Reads action queues x left) :
    Reads (f <$> action) queues (f x) left := by
  intro fields h
  rcases hx fields h with ⟨hresult, hleft⟩
  exact ⟨congrArg f hresult, hleft⟩

end Reads

end Fields

namespace Runestone

open Fields (Queues Reads leftOne leftTwo)

/-! ## Fields that were taken -/

/-- Is a value one that the field of its tag can use? -/
def accepts (outputs tag value : Nat) : Bool :=
  if tag = Tag.divisibility then value ≤ maxDivisibility
  else if tag = Tag.spacers then value ≤ maxSpacers
  else if tag = Tag.symbol then (symbol? value).isSome
  else if tag ∈ [Tag.heightStart, Tag.heightEnd, Tag.offsetStart, Tag.offsetEnd] then
    value ≤ maxU64
  else if tag = Tag.pointer then value ≤ maxU32 ∧ value < outputs
  else true

/-- What the field of a tag leaves of its queue. Only the mint takes two values. -/
def leftAt (outputs tag : Nat) (queue : List Nat) : List Nat :=
  if tag = Tag.mint then leftTwo (fun block tx => (RuneId.ofInts? block tx).isSome) queue
  else leftOne (accepts outputs tag) queue

/-- The queues that are left when the fields of these tags were taken. -/
def leftAfter (outputs : Nat) (taken : List Nat) (queues : Queues) : Queues := fun tag =>
  if tag ∈ taken then leftAt outputs tag (queues tag) else queues tag

section

variable {α : Type} {outputs tag : Nat} {taken : List Nat} {queues : Queues}

theorem leftAfter_of_mem (h : tag ∈ taken) :
    leftAfter outputs taken queues tag = leftAt outputs tag (queues tag) :=
  if_pos h

theorem leftAfter_of_not_mem (h : tag ∉ taken) :
    leftAfter outputs taken queues tag = queues tag :=
  if_neg h

/-- From an empty queue nothing is left. -/
theorem leftAfter_of_nil (h : queues tag = []) : leftAfter outputs taken queues tag = [] := by
  by_cases hmem : tag ∈ taken
  · rw [leftAfter_of_mem hmem, h, leftAt]
    split <;> rfl
  · rw [leftAfter_of_not_mem hmem, h]

/-- A field reads its own queue, which nobody else has touched. -/
theorem reads_takeOne {parse : Nat → Option α} (htag : tag ∉ taken) (hmint : tag ≠ Tag.mint)
    (hparse : ∀ v, (parse v).isSome = accepts outputs tag v) :
    Reads (Fields.takeOne tag parse) (leftAfter outputs taken queues) (queues.first tag parse)
      (leftAfter outputs (tag :: taken) queues) := by
  intro fields h
  have hqueue : fields.values tag = queues tag := by
    rw [h, leftAfter_of_not_mem htag]
  constructor
  · rw [Fields.takeOne_fst, hqueue]
    rfl
  · funext t
    rw [Fields.values_takeOne, hqueue, funext hparse]
    by_cases ht : t = tag
    · subst ht
      simp [leftAfter, leftAt, hmint]
    · simp [leftAfter, h, ht]

theorem reads_takeUpTo {limit : Nat} (htag : tag ∉ taken) (hmint : tag ≠ Tag.mint)
    (haccepts : ∀ v, accepts outputs tag v = decide (v ≤ limit)) :
    Reads (Fields.takeUpTo limit tag) (leftAfter outputs taken queues)
      (queues.first tag fun value => if value ≤ limit then some value else none)
      (leftAfter outputs (tag :: taken) queues) := by
  apply reads_takeOne htag hmint
  intro v
  rw [haccepts]
  by_cases h : v ≤ limit <;> simp [h]

theorem reads_takeMint (htag : Tag.mint ∉ taken) :
    Reads (Fields.takeTwo Tag.mint fun block tx => RuneId.ofInts? block tx)
      (leftAfter outputs taken queues)
      (queues.firstTwo Tag.mint fun block tx => RuneId.ofInts? block tx)
      (leftAfter outputs (Tag.mint :: taken) queues) := by
  intro fields h
  have hqueue : fields.values Tag.mint = queues Tag.mint := by
    rw [h, leftAfter_of_not_mem htag]
  constructor
  · rw [Fields.takeTwo_fst, hqueue]
    rfl
  · funext t
    rw [Fields.values_takeTwo, hqueue]
    by_cases ht : t = Tag.mint
    · subst ht
      simp [leftAfter, leftAt]
    · simp [leftAfter, h, ht]

end

/-! ## What a message says -/

/-- The terms that the queues of an etching tell. -/
def termsOf (queues : Queues) : Etching.Terms :=
  let bound tag := queues.first tag fun value => if value ≤ maxU64 then some value else none
  { amount := queues.first Tag.amount some
    cap := queues.first Tag.cap some
    height := (bound Tag.heightStart, bound Tag.heightEnd)
    offset := (bound Tag.offsetStart, bound Tag.offsetEnd) }

/-- The flags that a message sets. -/
def flagsOf (queues : Queues) : Nat :=
  (queues.first Tag.flags some).getD 0

/-- The etching that the queues tell, and the flags that mean nothing in it. -/
def etchingOf (flags : Nat) (queues : Queues) : Etching × Nat :=
  let (hasTerms, flags) := Flag.take Flag.terms flags
  let (turbo, flags) := Flag.take Flag.turbo flags
  ({ divisibility := queues.first Tag.divisibility fun value =>
        if value ≤ maxDivisibility then some value else none
     premine := queues.first Tag.premine some
     rune := queues.first Tag.rune fun value => some (Rune.mk value)
     spacers := queues.first Tag.spacers fun value =>
       if value ≤ maxSpacers then some value else none
     symbol := queues.first Tag.symbol symbol?
     terms := if hasTerms then some (termsOf queues) else none
     turbo := turbo }, flags)

/-- Everything that the queues tell. -/
def headerOf (outputs : Nat) (queues : Queues) : Header :=
  let (hasEtching, flags) := Flag.take Flag.etching (flagsOf queues)
  { etching := if hasEtching then some (etchingOf flags queues).1 else none
    flags := if hasEtching then (etchingOf flags queues).2 else flags
    mint := queues.firstTwo Tag.mint fun block tx => RuneId.ofInts? block tx
    pointer := queues.first Tag.pointer fun value =>
      if value ≤ maxU32 ∧ value < outputs then some value else none }

/-- The tags of the terms of an etching. -/
def termTags : List Nat :=
  [Tag.offsetEnd, Tag.offsetStart, Tag.heightEnd, Tag.heightStart, Tag.cap, Tag.amount]

/-- The tags of an etching besides those of its terms. -/
def plainTags : List Nat :=
  [Tag.symbol, Tag.spacers, Tag.rune, Tag.premine, Tag.divisibility]

/-- The tags of an etching with these flags; those of its terms are only looked at if the flags
announce them. -/
def etchingTags (flags : Nat) : List Nat :=
  (if (Flag.take Flag.terms flags).1 then termTags else []) ++ plainTags

theorem not_mem_etchingTags {tag flags : Nat} (h : tag ∉ termTags ++ plainTags)
    (hflags : tag ≠ Tag.flags) : tag ∉ etchingTags flags ++ [Tag.flags] := by
  rw [List.mem_append, not_or] at h
  unfold etchingTags
  split
  · simp only [List.mem_append, List.mem_singleton, not_or]
    exact ⟨h, hflags⟩
  · simp only [List.nil_append, List.mem_append, List.mem_singleton, not_or]
    exact ⟨h.2, hflags⟩

/-- The tags whose fields a message with these flags takes; those of an etching are only looked at
if there is one. -/
def takenTags (flags : Nat) : List Nat :=
  Tag.pointer :: Tag.mint ::
    ((if (Flag.take Flag.etching flags).1 then etchingTags (Flag.take Flag.etching flags).2
      else []) ++ [Tag.flags])

/-! ## Reading a message -/

section

variable (outputs : Nat) (queues : Queues)

theorem reads_takeTerms :
    Reads takeTerms (leftAfter outputs (plainTags ++ [Tag.flags]) queues) (termsOf queues)
      (leftAfter outputs (termTags ++ plainTags ++ [Tag.flags]) queues) := by
  -- One field after the other is taken, each from a queue that was not touched before.
  unfold takeTerms
  refine .bind (reads_takeOne (by decide) (by decide) fun _ => rfl) ?_
  refine .bind (reads_takeOne (by decide) (by decide) fun _ => rfl) ?_
  refine .bind (reads_takeUpTo (by decide) (by decide) fun _ => rfl) ?_
  refine .bind (reads_takeUpTo (by decide) (by decide) fun _ => rfl) ?_
  refine .bind (reads_takeUpTo (by decide) (by decide) fun _ => rfl) ?_
  refine .bind (reads_takeUpTo (by decide) (by decide) fun _ => rfl) ?_
  exact .pure _

theorem reads_takeEtching (flags : Nat) :
    Reads (takeEtching flags) (leftAfter outputs [Tag.flags] queues) (etchingOf flags queues)
      (leftAfter outputs (etchingTags flags ++ [Tag.flags]) queues) := by
  unfold takeEtching
  refine .bind (reads_takeUpTo (by decide) (by decide) fun _ => rfl) ?_
  refine .bind (reads_takeOne (by decide) (by decide) fun _ => rfl) ?_
  refine .bind (reads_takeOne (by decide) (by decide) fun _ => rfl) ?_
  refine .bind (reads_takeUpTo (by decide) (by decide) fun _ => rfl) ?_
  refine .bind (reads_takeOne (by decide) (by decide) fun _ => rfl) ?_
  rw [etchingOf, etchingTags]
  -- The terms are only looked at if a flag announces them.
  rcases Flag.take Flag.terms flags with ⟨_ | _, rest⟩
  · exact .bind (.pure none) (.pure _)
  · exact .bind (.map some (reads_takeTerms outputs queues)) (.pure _)

/-- What a message says depends on its queues alone, and so does what it leaves of them. -/
theorem reads_takeHeader :
    Reads (takeHeader outputs) queues (headerOf outputs queues)
      (leftAfter outputs (takenTags (flagsOf queues)) queues) := by
  -- At the start no field has been taken.
  have hnone : queues = leftAfter outputs [] queues := by
    funext tag
    simp [leftAfter]
  unfold takeHeader
  rw [headerOf, takenTags]
  conv => arg 2; rw [hnone]
  refine .bind (reads_takeOne (by decide) (by decide) fun _ => rfl) ?_
  rw [← flagsOf]
  dsimp only
  have hpointer : ∀ v, (if v ≤ maxU32 ∧ v < outputs then some v else none).isSome
      = accepts outputs Tag.pointer v := by
    intro v
    by_cases h : v ≤ maxU32 ∧ v < outputs
    · rw [if_pos h]
      exact (decide_eq_true h).symm
    · rw [if_neg h]
      exact (decide_eq_false h).symm
  -- Which tags are taken depends on whether the flags announce an etching.
  rcases Flag.take Flag.etching (flagsOf queues) with ⟨_ | _, rest⟩
  · dsimp only
    rw [if_neg Bool.false_ne_true]
    refine .bind (.pure (none, rest)) ?_
    refine .bind (reads_takeMint (by decide)) ?_
    exact .bind (reads_takeOne (by decide) (by decide) hpointer) (.pure _)
  · dsimp only
    rw [if_pos rfl]
    refine .bind (reads_takeEtching outputs queues rest) ?_
    refine .bind (.pure (some (etchingOf rest queues).1, (etchingOf rest queues).2)) ?_
    refine .bind (reads_takeMint (not_mem_etchingTags (by decide) (by decide))) ?_
    refine .bind (reads_takeOne ?_ (by decide) hpointer) (.pure _)
    exact List.not_mem_cons_of_ne_of_not_mem (by decide)
      (not_mem_etchingTags (by decide) (by decide))

end

end Runestone

end Runesmith
