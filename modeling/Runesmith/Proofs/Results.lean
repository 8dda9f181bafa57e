import Mathlib.Logic.Basic

/-!
# How results end

A result of several steps is a value if every step is, and else the error of the first step that
fails.

Some errors refuse an input, and are there to be told; any other error should not come out.
`Settles` says that a result is a value or a refusal unless something escapes, and what escapes
then. There is one rule for each way in which results are put together.
-/

namespace Runesmith

/-! ## Results of several steps -/

section

variable {ε ε' α β : Type} {result : Except ε α} {next : α → Except ε β} {wrap : ε → ε'}

theorem exists_ok_of_bind {y : β} (h : result >>= next = .ok y) :
    ∃ x, result = .ok x ∧ next x = .ok y := by
  cases result with
  | error e => cases h
  | ok x => exact ⟨x, rfl, h⟩

theorem error_of_bind {e : ε} (h : result >>= next = .error e) :
    result = .error e ∨ ∃ x, result = .ok x ∧ next x = .error e := by
  cases result with
  | error e' =>
    cases h
    exact .inl rfl
  | ok x => exact .inr ⟨x, rfl, h⟩

theorem error_of_mapError {e' : ε'} (h : result.mapError wrap = .error e') :
    ∃ e, result = .error e ∧ e' = wrap e := by
  cases result with
  | error e => exact ⟨e, rfl, (Except.error.inj h).symm⟩
  | ok x => cases h

/-- There is a value exactly if there is one that was forgotten. -/
theorem exists_ok_iff : (∃ x, result = .ok x) ↔ result.map (fun _ => ()) = .ok () := by
  cases result with
  | error e => exact iff_of_false nofun nofun
  | ok x => exact iff_of_true ⟨x, rfl⟩ rfl

/-- Telling an error in other words leaves the values alone. -/
theorem mapError_eq_ok_iff {x : α} : result.mapError wrap = .ok x ↔ result = .ok x := by
  cases result with
  | error e => exact iff_of_false nofun nofun
  | ok y => exact ⟨fun h => congrArg Except.ok (Except.ok.inj h), congrArg _⟩

end

/-- Checks in a row end with an error exactly if one of them does, behind others that pass. -/
theorem forM_eq_error_iff {ε α : Type} {check : α → Except ε Unit} {items : List α} {e : ε} :
    forM items check = .error e ↔ ∃ before x after, items = before ++ x :: after
      ∧ (∀ y ∈ before, check y = .ok ()) ∧ check x = .error e := by
  induction items with
  | nil =>
    refine iff_of_false nofun ?_
    rintro ⟨before, x, after, hsplit, -⟩
    cases before <;> cases hsplit
  | cons y rest ih =>
    rw [List.forM_cons]
    cases hy : check y with
    | error e' =>
      constructor
      · intro h
        exact ⟨[], y, rest, rfl, by simp, hy.trans (congrArg _ (Except.error.inj h))⟩
      · rintro ⟨before, x, after, hsplit, hbefore, hx⟩
        rcases List.cons_eq_append_iff.1 hsplit with ⟨rfl, hhead⟩ | ⟨tail, rfl, -⟩
        · cases hhead
          rw [hy] at hx
          exact congrArg _ (Except.error.inj hx)
        · rw [hbefore y List.mem_cons_self] at hy
          cases hy
    | ok _ =>
      refine ih.trans ?_
      constructor
      · rintro ⟨before, x, after, rfl, hbefore, hx⟩
        exact ⟨y :: before, x, after, rfl, List.forall_mem_cons.2 ⟨hy, hbefore⟩, hx⟩
      · rintro ⟨before, x, after, hsplit, hbefore, hx⟩
        rcases List.cons_eq_append_iff.1 hsplit with ⟨rfl, hhead⟩ | ⟨tail, rfl, htail⟩
        · cases hhead
          rw [hy] at hx
          cases hx
        · exact ⟨tail, x, after, htail, (List.forall_mem_cons.1 hbefore).2, hx⟩

/-- Checks in a row pass if each of them does. -/
theorem forM_eq_ok_iff {ε α : Type} {check : α → Except ε Unit} {items : List α} :
    forM items check = .ok () ↔ ∀ x ∈ items, check x = .ok () := by
  induction items with
  | nil => exact iff_of_true rfl (by simp)
  | cons y rest ih =>
    rw [List.forM_cons, List.forall_mem_cons, ← ih]
    cases check y with
    | error e => exact iff_of_false nofun (by rintro ⟨h, -⟩; cases h)
    | ok _ => exact (and_iff_right rfl).symm

/-! ## Refusals and what escapes -/

/-- A result is a value or a refusal, unless some error escapes: then, and only then, it is that
error, which is no refusal. -/
inductive Settles {ε α : Type} (refusal escapes : ε → Prop) : Except ε α → Prop where
  | ok {x : α} (h : ∀ e, ¬ escapes e) : Settles refusal escapes (.ok x)
  | refused {e : ε} (hown : refusal e) (h : ∀ e', ¬ escapes e') : Settles refusal escapes (.error e)
  | escaped {e : ε} (hforeign : ¬ refusal e) (h : ∀ e', escapes e' ↔ e' = e) :
      Settles refusal escapes (.error e)

/-- The errors that escape are those that a result ends with and that are no refusals. -/
theorem settles_iff {ε α : Type} {refusal escapes : ε → Prop} {result : Except ε α} :
    Settles refusal escapes result ↔ ∀ e, escapes e ↔ result = .error e ∧ ¬ refusal e := by
  constructor
  · rintro (h | ⟨hown, h⟩ | ⟨hforeign, h⟩) e
    · exact iff_of_false (h e) nofun
    · refine iff_of_false (h e) ?_
      rintro ⟨heq, hnot⟩
      cases heq
      exact hnot hown
    · rw [h e]
      constructor
      · rintro rfl
        exact ⟨rfl, hforeign⟩
      · rintro ⟨heq, -⟩
        cases heq
        rfl
  · intro h
    cases result with
    | ok x => exact .ok fun e he => nomatch ((h e).1 he).1
    | error e =>
      by_cases hown : refusal e
      · refine .refused hown fun e' he => ?_
        obtain ⟨heq, hnot⟩ := (h e').1 he
        cases heq
        exact hnot hown
      · refine .escaped hown fun e' => ?_
        rw [h e']
        constructor
        · rintro ⟨heq, -⟩
          cases heq
          rfl
        · rintro rfl
          exact ⟨rfl, hown⟩

namespace Settles

variable {ε ε' α β : Type} {refusal escapes escapes' : ε → Prop} {result : Except ε α}

/-- What escapes is what the result ends with. -/
theorem eq_error {e : ε} (h : Settles refusal escapes result) (he : escapes e) :
    result = .error e :=
  ((settles_iff.1 h e).1 he).1

theorem iff (h : Settles refusal escapes result) (hiff : ∀ e, escapes e ↔ escapes' e) :
    Settles refusal escapes' result :=
  settles_iff.2 fun e => (hiff e).symm.trans (settles_iff.1 h e)

/-- Nothing escapes where every error is a refusal. -/
theorem of_refusal (h : ∀ e, result = .error e → refusal e) :
    Settles refusal (fun _ => False) result :=
  settles_iff.2 fun e => iff_of_false id fun ⟨heq, hnot⟩ => hnot (h e heq)

/-- One result after another. -/
theorem bind {next : α → Except ε β} {escapesNext : α → ε → Prop}
    (h : Settles refusal escapes result)
    (hnext : ∀ x, result = .ok x → Settles refusal (escapesNext x) (next x)) :
    Settles refusal (fun e => escapes e ∨ ∃ x, result = .ok x ∧ escapesNext x e)
      (result >>= next) := by
  refine settles_iff.2 fun e => ?_
  rw [settles_iff.1 h e]
  cases result with
  | error e' =>
    constructor
    · rintro (⟨hfirst, hnot⟩ | ⟨x, hx, -⟩)
      · cases hfirst
        exact ⟨rfl, hnot⟩
      · cases hx
    · rintro ⟨hfirst, hnot⟩
      cases hfirst
      exact .inl ⟨rfl, hnot⟩
  | ok x =>
    have hx := settles_iff.1 (hnext x rfl) e
    constructor
    · rintro (⟨hfirst, -⟩ | ⟨x', hx', hescapes⟩)
      · cases hfirst
      · cases hx'
        exact hx.1 hescapes
    · exact fun hrest => .inr ⟨x, rfl, hx.2 hrest⟩

/-- What follows adds nothing if nothing escapes from it. -/
theorem andThen {next : α → Except ε β} (h : Settles refusal escapes result)
    (hnext : ∀ x, Settles refusal (fun _ => False) (next x)) :
    Settles refusal escapes (result >>= next) := by
  refine (h.bind fun x _ => hnext x).iff fun e => ?_
  constructor
  · rintro (hescapes | ⟨x, -, hnever⟩)
    · exact hescapes
    · exact hnever.elim
  · exact .inl

theorem map {f : α → β} (h : Settles refusal escapes result) :
    Settles refusal escapes (f <$> result) := by
  cases h with
  | ok h => exact .ok h
  | refused hown h => exact .refused hown h
  | escaped hforeign h => exact .escaped hforeign h

/-- A result with its error told in other words, which make a refusal of what was one. -/
theorem mapError {wrap : ε → ε'} {refusal' : ε' → Prop} (h : Settles refusal escapes result)
    (hwrap : ∀ e, refusal' (wrap e) ↔ refusal e) :
    Settles refusal' (fun e' => ∃ e, escapes e ∧ e' = wrap e) (result.mapError wrap) := by
  cases h with
  | ok h => exact .ok fun e' ⟨e, he, _⟩ => h e he
  | refused hown h => exact .refused ((hwrap _).2 hown) fun e' ⟨e, he, _⟩ => h e he
  | escaped hforeign h =>
    refine .escaped (mt (hwrap _).1 hforeign) fun e' => ?_
    constructor
    · rintro ⟨e, he, rfl⟩
      rw [(h e).1 he]
    · rintro rfl
      exact ⟨_, (h _).2 rfl, rfl⟩

/-- Checks in a row: what escapes from the first that does not pass escapes from all. -/
theorem forM {ι : Type} {check : ι → Except ε Unit} {escapesFrom : ι → ε → Prop}
    (h : ∀ x, Settles refusal (escapesFrom x) (check x)) (items : List ι) :
    Settles refusal (fun e => ∃ before x after, items = before ++ x :: after
      ∧ (∀ y ∈ before, check y = .ok ()) ∧ escapesFrom x e) (forM items check) := by
  refine settles_iff.2 fun e => ?_
  rw [forM_eq_error_iff]
  constructor
  · rintro ⟨before, x, after, hsplit, hbefore, hescapes⟩
    obtain ⟨hx, hforeign⟩ := (settles_iff.1 (h x) e).1 hescapes
    exact ⟨⟨before, x, after, hsplit, hbefore, hx⟩, hforeign⟩
  · rintro ⟨⟨before, x, after, hsplit, hbefore, hx⟩, hforeign⟩
    exact ⟨before, x, after, hsplit, hbefore, (settles_iff.1 (h x) e).2 ⟨hx, hforeign⟩⟩

/-- A result settles as it does when its value is forgotten. -/
theorem of_map {f : α → β} (h : Settles refusal escapes (result.map f)) :
    Settles refusal escapes result := by
  cases result with
  | ok x =>
    refine .ok fun e he => ?_
    cases h.eq_error he
  | error e =>
    cases h with
    | refused hown h => exact .refused hown h
    | escaped hforeign h => exact .escaped hforeign h

end Settles

end Runesmith
