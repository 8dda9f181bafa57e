import Mathlib.Logic.Basic
import Runesmith.Proofs.Config

/-!
# Two spellings of a variable

A variable of the node goes by two names. An environment that uses the first ones may be respelled
with the second ones.

* `respelled`, `respell`: a name, and surroundings with all names of the node, under the second
  spelling;
* `nodeVar_respell`: a variable that holds something says the same under both spellings;
* `nodeVar_of_blank`, `nodeVar_respell_of_blank`: an empty one gives way under the first spelling,
  as if it were not there, and is an empty text under the second.
-/

namespace Runesmith.Config

/-! ## Names -/

/-- The first spelling of a variable of the node. -/
def firstSpelling (suffix : String) : String := "BITCOIN_RPC_" ++ suffix

/-- The second spelling of a variable of the node. -/
def secondSpelling (suffix : String) : String := "RUNEMINT_RPC_" ++ suffix

/-- The name with the second spelling in the place of the first; any other name stays. -/
def respelled (name : String) : String :=
  if "BITCOIN_RPC_".toList <+: name.toList then
    secondSpelling (String.ofList (name.toList.drop "BITCOIN_RPC_".toList.length))
  else name

theorem respelled_firstSpelling (suffix : String) :
    respelled (firstSpelling suffix) = secondSpelling suffix := by
  have hstart : "BITCOIN_RPC_".toList <+: (firstSpelling suffix).toList := by
    rw [firstSpelling, String.toList_append]
    exact List.prefix_append ..
  rw [respelled, if_pos hstart, firstSpelling, String.toList_append, List.drop_left,
    String.ofList_toList]

theorem respelled_of_other {name : String} (h : ∀ suffix, name ≠ firstSpelling suffix) :
    respelled name = name := by
  rw [respelled, if_neg]
  intro hstart
  rcases hstart with ⟨rest, hrest⟩
  apply h (String.ofList rest)
  rw [firstSpelling, ← String.toList_inj, String.toList_append, @String.toList_ofList rest, hrest]

theorem firstSpelling_ne_secondSpelling (suffix other : String) :
    firstSpelling suffix ≠ secondSpelling other := by
  intro h
  have hhead := congrArg (fun name : String => name.toList.head?) h
  rw [firstSpelling, secondSpelling] at hhead
  simp at hhead

theorem secondSpelling_inj {suffix other : String}
    (h : secondSpelling suffix = secondSpelling other) : suffix = other := by
  rw [← String.toList_inj, secondSpelling, secondSpelling, String.toList_append,
    String.toList_append] at h
  exact String.toList_inj.1 (List.append_cancel_left h)

/-- A name is respelled exactly if it is a first spelling. -/
theorem respelled_cases (name : String) :
    (∃ suffix, name = firstSpelling suffix ∧ respelled name = secondSpelling suffix)
      ∨ ((∀ suffix, name ≠ firstSpelling suffix) ∧ respelled name = name) := by
  by_cases h : ∃ suffix, name = firstSpelling suffix
  · rcases h with ⟨suffix, rfl⟩
    exact .inl ⟨suffix, rfl, respelled_firstSpelling suffix⟩
  · exact .inr ⟨not_exists.1 h, respelled_of_other (not_exists.1 h)⟩

theorem respelled_ne_firstSpelling (name suffix : String) :
    respelled name ≠ firstSpelling suffix := by
  rcases respelled_cases name with ⟨other, -, hsecond⟩ | ⟨hother, hsame⟩
  · rw [hsecond]
    exact (firstSpelling_ne_secondSpelling suffix other).symm
  · rw [hsame]
    exact hother suffix

/-- The second spelling stands in the place of the first, or was there already. -/
theorem respelled_eq_secondSpelling_iff {name suffix : String} (h : name ≠ secondSpelling suffix) :
    respelled name = secondSpelling suffix ↔ name = firstSpelling suffix := by
  constructor
  · intro hrespelled
    rcases respelled_cases name with ⟨other, hname, hsecond⟩ | ⟨-, hsame⟩
    · rw [hname, secondSpelling_inj (hsecond.symm.trans hrespelled)]
    · exact absurd (hsame.symm.trans hrespelled) h
  · intro hname
    rw [hname, respelled_firstSpelling]

/-! ## Environments -/

/-- No variable of the node goes by its second name. -/
def UsesFirst (env : List (String × String)) : Prop :=
  ∀ v ∈ env, ∀ suffix, v.1 ≠ secondSpelling suffix

/-- The same surroundings, with every variable of the node under its second name. -/
def respell (s : Surroundings) : Surroundings :=
  { s with env := s.env.map fun v => (respelled v.1, v.2) }

/-- A variable of the node that is set, and set to nothing. -/
def IsBlank (s : Surroundings) (suffix : String) : Prop :=
  s.var? (firstSpelling suffix) = some ""

theorem var?_respell_firstSpelling (s : Surroundings) (suffix : String) :
    (respell s).var? (firstSpelling suffix) = none := by
  rw [Surroundings.var?, Option.map_eq_none_iff, List.find?_eq_none]
  intro v hv
  rcases List.mem_map.1 hv with ⟨w, -, rfl⟩
  rw [decide_eq_true_eq]
  exact respelled_ne_firstSpelling w.1 suffix

section

variable {s : Surroundings} (h : UsesFirst s.env) (suffix : String)

include h

theorem var?_secondSpelling : s.var? (secondSpelling suffix) = none := by
  rw [Surroundings.var?, Option.map_eq_none_iff, List.find?_eq_none]
  intro v hv
  rw [decide_eq_true_eq]
  exact h v hv suffix

theorem var?_respell_secondSpelling :
    (respell s).var? (secondSpelling suffix) = s.var? (firstSpelling suffix) := by
  unfold Surroundings.var? respell
  dsimp only
  -- Each variable is found under its new name exactly if it was under the old one.
  generalize s.env = env at h
  induction env with
  | nil => rfl
  | cons v rest ih =>
    rcases List.forall_mem_cons.1 h with ⟨hv, hrest⟩
    have hname := respelled_eq_secondSpelling_iff (hv suffix)
    rw [List.map_cons, List.find?_cons, List.find?_cons]
    by_cases hfirst : v.1 = firstSpelling suffix
    · rw [decide_eq_true (hname.2 hfirst), decide_eq_true hfirst]
      rfl
    · rw [decide_eq_false (fun hsecond => hfirst (hname.1 hsecond)), decide_eq_false hfirst]
      exact ih hrest

/-- Under the first spelling an empty variable gives way. -/
theorem nodeVar_of_blank (hblank : IsBlank s suffix) : nodeVar s suffix = .null := by
  have hsecond := var?_secondSpelling h suffix
  unfold IsBlank firstSpelling at hblank
  unfold secondSpelling at hsecond
  rw [nodeVar, nodeVar.second, hblank, hsecond]
  rfl

theorem nodeVar_respell_eq :
    nodeVar (respell s) suffix = ofVar (s.var? (firstSpelling suffix)) := by
  have hfirst := var?_respell_firstSpelling s suffix
  have hsecond := var?_respell_secondSpelling h suffix
  unfold firstSpelling at hfirst
  unfold secondSpelling at hsecond
  rw [nodeVar, nodeVar.second, hfirst, hsecond]

/-- Under the second spelling it is an empty text. -/
theorem nodeVar_respell_of_blank (hblank : IsBlank s suffix) :
    nodeVar (respell s) suffix = .str "" := by
  rw [nodeVar_respell_eq h, hblank]
  rfl

/-- Any other variable says the same under both spellings. -/
theorem nodeVar_respell (hfull : ¬IsBlank s suffix) :
    nodeVar (respell s) suffix = nodeVar s suffix := by
  have hsecond := var?_secondSpelling h suffix
  unfold secondSpelling at hsecond
  rw [nodeVar_respell_eq h]
  cases htext : s.var? (firstSpelling suffix) with
  | none =>
    unfold firstSpelling at htext
    rw [nodeVar, htext]
    dsimp only
    rw [nodeVar.second, hsecond]
  | some text =>
    have hsome : ¬text.isEmpty := by
      intro hempty
      rw [IsBlank, htext, String.isEmpty_iff.1 hempty] at hfull
      exact hfull rfl
    unfold firstSpelling at htext
    rw [nodeVar, htext]
    dsimp only
    rw [if_neg hsome]
    rfl

end

end Runesmith.Config
