import Mathlib.Order.Bounds.Basic
import Runesmith.Entry

/-!
# Who may mint at a height

The terms of a rune bound the heights of its mints up to four times: at either end by a height and
by a distance from the block of the etching, and any of the four may be missing. `HasStarted` and
`IsBeforeEnd` say so bound by bound; the entry combines them into one start and one end.

* `hasStarted_iff`, `isBeforeEnd_iff`: the combined bounds say the same as the single ones.
* `mintable_early`, `mintable_late`, `mintable_within`: what is answered in front of the window,
  behind it and in it.
* `mintable_judged`: the answer is the one that the rules give, with consequences for other heights.
-/

namespace Runesmith.Entry

/-! ## Bounds -/

/-- The height is not below a bound at the start. -/
structure HasStarted (entry : Entry) (terms : Terms) (height : Int) : Prop where
  absolute : ∀ bound, terms.height.1 = some bound → bound ≤ height
  relative : ∀ distance, terms.offset.1 = some distance → entry.block + distance ≤ height

/-- The height is below the bounds at the end. -/
structure IsBeforeEnd (entry : Entry) (terms : Terms) (height : Int) : Prop where
  absolute : ∀ bound, terms.height.2 = some bound → height < bound
  relative : ∀ distance, terms.offset.2 = some distance → height < entry.block + distance

section

variable {entry : Entry} {terms : Terms} (h : entry.terms = some terms) {height : Int}

include h

theorem hasStarted_iff :
    HasStarted entry terms height ↔ ∀ start ∈ entry.start, start ≤ height := by
  have hsplit : HasStarted entry terms height ↔
      (∀ distance, terms.offset.1 = some distance → entry.block + distance ≤ height)
        ∧ ∀ bound, terms.height.1 = some bound → bound ≤ height :=
    ⟨fun hbounds => ⟨hbounds.2, hbounds.1⟩, fun hbounds => ⟨hbounds.2, hbounds.1⟩⟩
  rw [hsplit, start, h, Option.bind_some]
  cases terms.offset.1 <;> cases terms.height.1 <;> simp [combine]

theorem isBeforeEnd_iff :
    IsBeforeEnd entry terms height ↔ ∀ stop ∈ entry.stop, height < stop := by
  have hsplit : IsBeforeEnd entry terms height ↔
      (∀ distance, terms.offset.2 = some distance → height < entry.block + distance)
        ∧ ∀ bound, terms.height.2 = some bound → height < bound :=
    ⟨fun hbounds => ⟨hbounds.2, hbounds.1⟩, fun hbounds => ⟨hbounds.2, hbounds.1⟩⟩
  rw [hsplit, stop, h, Option.bind_some]
  cases terms.offset.2 <;> cases terms.height.2 <;> simp [combine]

/-- The start is the least height at which the terms allow a mint. -/
theorem isLeast_start {start : Int} (hstart : entry.start = some start) :
    IsLeast {k | HasStarted entry terms k} start := by
  have hset : {k | HasStarted entry terms k} = Set.Ici start := by
    ext k
    simp [hasStarted_iff h, hstart]
  rw [hset]
  exact isLeast_Ici

/-- The end is the least height at which the terms allow none any more. -/
theorem isLeast_stop {stop : Int} (hstop : entry.stop = some stop) :
    IsLeast {k | ¬ IsBeforeEnd entry terms k} stop := by
  have hset : {k | ¬ IsBeforeEnd entry terms k} = Set.Ici stop := by
    ext k
    simp [isBeforeEnd_iff h, hstop]
  rw [hset]
  exact isLeast_Ici

theorem exists_start (hearly : ¬ HasStarted entry terms height) :
    ∃ start, entry.start = some start ∧ height < start := by
  simpa [hasStarted_iff h] using hearly

theorem exists_stop (hlate : ¬ IsBeforeEnd entry terms height) :
    ∃ stop, entry.stop = some stop ∧ stop ≤ height := by
  simpa [isBeforeEnd_iff h] using hlate

end

/-! ## Judgement -/

/-- How a mint at a height is judged. Of several reasons against it the first one counts, in the
order of the rules. -/
inductive Judged (entry : Entry) (height : Int) : Except Refusal Int → Prop where
  | withoutTerms (h : entry.terms = none) : Judged entry height (.error .notMintable)
  | early {terms : Terms} {start : Int} (h : entry.terms = some terms)
      (hearly : ¬ HasStarted entry terms height)
      (hstart : IsLeast {k | HasStarted entry terms k} start) :
      Judged entry height (.error (.notStarted start))
  | late {terms : Terms} {stop : Int} (h : entry.terms = some terms)
      (hstarted : HasStarted entry terms height) (hlate : ¬ IsBeforeEnd entry terms height)
      (hstop : IsLeast {k | ¬ IsBeforeEnd entry terms k} stop) :
      Judged entry height (.error (.ended stop))
  | exhausted {terms : Terms} (h : entry.terms = some terms)
      (hstarted : HasStarted entry terms height) (hbefore : IsBeforeEnd entry terms height)
      (hcap : terms.cap.getD 0 ≤ entry.mints) :
      Judged entry height (.error (.capReached (terms.cap.getD 0)))
  | allowed {terms : Terms} (h : entry.terms = some terms)
      (hstarted : HasStarted entry terms height) (hbefore : IsBeforeEnd entry terms height)
      (hcap : entry.mints < terms.cap.getD 0) : Judged entry height (.ok (terms.amount.getD 0))

section

variable {entry : Entry} {terms : Terms} (h : entry.terms = some terms) {height : Int}

include h

theorem mintable_early {start : Int} (hstart : entry.start = some start) (hearly : height < start) :
    entry.mintable height = .error (.notStarted start) := by
  have hfilter : entry.start.filter (height < ·) = some start := by simp [hstart, hearly]
  rw [mintable, h]
  dsimp only
  rw [hfilter]

theorem mintable_late (hstarted : HasStarted entry terms height) {stop : Int}
    (hstop : entry.stop = some stop) (hlate : stop ≤ height) :
    entry.mintable height = .error (.ended stop) := by
  have hfront : entry.start.filter (height < ·) = none := by
    simpa [Option.filter_eq_none_iff] using (hasStarted_iff h).1 hstarted
  have hback : entry.stop.filter (· ≤ height) = some stop := by simp [hstop, hlate]
  rw [mintable, h]
  dsimp only
  rw [hfront, hback]

theorem mintable_within (hstarted : HasStarted entry terms height)
    (hbefore : IsBeforeEnd entry terms height) :
    entry.mintable height =
      if terms.cap.getD 0 ≤ entry.mints then .error (.capReached (terms.cap.getD 0))
      else .ok (terms.amount.getD 0) := by
  have hfront : entry.start.filter (height < ·) = none := by
    simpa [Option.filter_eq_none_iff] using (hasStarted_iff h).1 hstarted
  have hback : entry.stop.filter (· ≤ height) = none := by
    simpa [Option.filter_eq_none_iff] using (isBeforeEnd_iff h).1 hbefore
  rw [mintable, h]
  dsimp only
  rw [hfront, hback]

end

theorem mintable_withoutTerms {entry : Entry} (h : entry.terms = none) (height : Int) :
    entry.mintable height = .error .notMintable := by
  rw [mintable, h]

section

variable {entry : Entry} {height : Int}

/-- The answer is one that the rules give. -/
theorem judged_mintable (entry : Entry) (height : Int) :
    Judged entry height (entry.mintable height) := by
  cases h : entry.terms with
  | none =>
    rw [mintable_withoutTerms h]
    exact .withoutTerms h
  | some terms =>
    by_cases hstarted : HasStarted entry terms height
    · by_cases hbefore : IsBeforeEnd entry terms height
      · rw [mintable_within h hstarted hbefore]
        split
        · rename_i hcap
          exact .exhausted h hstarted hbefore hcap
        · rename_i hcap
          exact .allowed h hstarted hbefore (Int.not_le.1 hcap)
      · obtain ⟨stop, hstop, hlate⟩ := exists_stop h hbefore
        rw [mintable_late h hstarted hstop hlate]
        exact .late h hstarted hbefore (isLeast_stop h hstop)
    · obtain ⟨start, hstart, hearly⟩ := exists_start h hstarted
      rw [mintable_early h hstart hearly]
      exact .early h hstarted (isLeast_start h hstart)

/-- The rules give no other answer. -/
theorem Judged.mintable_eq {verdict : Except Refusal Int} (h : Judged entry height verdict) :
    entry.mintable height = verdict := by
  cases h with
  | withoutTerms h => exact mintable_withoutTerms h height
  | early h hnot hstart =>
    obtain ⟨start, hsome, hearly⟩ := exists_start h hnot
    rw [hstart.unique (isLeast_start h hsome)]
    exact mintable_early h hsome hearly
  | late h hstarted hnot hstop =>
    obtain ⟨stop, hsome, hlate⟩ := exists_stop h hnot
    rw [hstop.unique (isLeast_stop h hsome)]
    exact mintable_late h hstarted hsome hlate
  | exhausted h hstarted hbefore hcap => rw [mintable_within h hstarted hbefore, if_pos hcap]
  | allowed h hstarted hbefore hcap =>
    rw [mintable_within h hstarted hbefore, if_neg (Int.not_le.2 hcap)]

/-- A mint that is refused for being early is refused so exactly below one height. -/
theorem notStarted_iff {start : Int} (h : entry.mintable height = .error (.notStarted start))
    (other : Int) {start' : Int} :
    entry.mintable other = .error (.notStarted start') ↔ other < start ∧ start' = start := by
  have hjudged := judged_mintable entry height
  rw [h] at hjudged
  cases hjudged with
  | @early terms _ hterms hnot hleast =>
    obtain ⟨_, hstart, -⟩ := exists_start hterms hnot
    obtain rfl := hleast.unique (isLeast_start hterms hstart)
    constructor
    · intro hother
      have hjudged' := judged_mintable entry other
      rw [hother] at hjudged'
      cases hjudged' with
      | early hterms' hnot' hleast' =>
        obtain rfl := Option.some.inj (hterms.symm.trans hterms')
        refine ⟨?_, hleast'.unique hleast⟩
        simpa [hasStarted_iff hterms, hstart] using hnot'
    · rintro ⟨hearly, rfl⟩
      exact mintable_early hterms hstart hearly

/-- A mint that is refused for being late is refused so at every greater height. -/
theorem ended_of_le {stop : Int} (h : entry.mintable height = .error (.ended stop)) {later : Int}
    (hlater : height ≤ later) : entry.mintable later = .error (.ended stop) := by
  have hjudged := judged_mintable entry height
  rw [h] at hjudged
  cases hjudged with
  | late hterms hstarted hnot hleast =>
    obtain ⟨_, hstop, hlate⟩ := exists_stop hterms hnot
    obtain rfl := hleast.unique (isLeast_stop hterms hstop)
    have hstarted' : HasStarted entry _ later := (hasStarted_iff hterms).2 fun start hstart =>
      ((hasStarted_iff hterms).1 hstarted start hstart).trans hlater
    exact mintable_late hterms hstarted' hstop (hlate.trans hlater)

end

/-- The answer at every height is the one that the rules give, and no other. So a mint is refused
for being early exactly below the least height at which the terms allow it, and once it is refused
for being late it is so for good. -/
theorem mintable_judged (entry : Entry) :
    (∀ height verdict, entry.mintable height = verdict ↔ Judged entry height verdict)
    ∧ (∀ height start, entry.mintable height = .error (.notStarted start) →
      ∀ other start', entry.mintable other = .error (.notStarted start') ↔
        other < start ∧ start' = start)
    ∧ (∀ height stop, entry.mintable height = .error (.ended stop) →
      ∀ later, height ≤ later → entry.mintable later = .error (.ended stop)) := by
  refine ⟨fun height verdict => ⟨?_, Judged.mintable_eq⟩, fun height start h other start' =>
    notStarted_iff h other, fun height stop h later => ended_of_le h⟩
  rintro rfl
  exact judged_mintable entry height

/-- A rune whose window is empty: both of its ends are the height zero. -/
def neverOpen : Entry where
  block := 840000
  spacedRune := ⟨⟨19009⟩, 0⟩
  divisibility := 0
  etching := ""
  mints := 0
  number := 0
  premine := 0
  burned := 0
  symbol := .null
  terms := some ⟨some 1, some 10, (some 0, some 0), (none, none)⟩
  timestamp := 0
  turbo := false

theorem mintable_neverOpen :
    neverOpen.mintable 0 = .error (.ended 0) ∧ neverOpen.mintable 840000 = .error (.ended 0)
      ∧ neverOpen.mintable (-1) = .error (.notStarted 0)
      ∧ neverOpen.mintable (-2) = .error (.notStarted 0) := by
  have hended : neverOpen.mintable 0 = .error (.ended 0) := rfl
  have hearly : neverOpen.mintable (-1) = .error (.notStarted 0) := rfl
  obtain ⟨-, hstart, hstop⟩ := mintable_judged neverOpen
  exact ⟨hended, hstop 0 0 hended 840000 (by decide), hearly,
    (hstart (-1) 0 hearly (-2) 0).2 ⟨by decide, rfl⟩⟩

end Runesmith.Entry
