import Runesmith.Proofs.Wallet.Vetting

/-!
# Locked coins

What has been achieved when locking ends. If it succeeds, every coin that the node lists as unspent
is locked or vouched for (`unspent_of_locks`); if the index fails about one, none is locked at all
(`unknown_of_locks`); and locking once more at once locks nothing (`again_of_locks`).
-/

namespace Runesmith.NodeWallet

section

variable {node : Node} {locks coins : List Coin} {made first rest : History}
  {result : Except Failure (List Coin)}

/-! ## After locking -/

/-- While coins are vetted and locked, the node and the index are asked, and nothing else is
called. -/
theorem kinds_of_locks (h : Locks node made result) :
    ∀ x ∈ made, x.call.kind ∈ [Call.Kind.post, .coinInfo] := by
  have hvets : Trace.All (Vets node) (·.call.kind ∈ [Call.Kind.post, .coinInfo]) :=
    all_vets (by simp [Call.kind]) (by simp [Call.kind]) (by simp [Call.kind])
  have hlocks : ∀ {made params outcome}, node.Posts "lockunspent" params made outcome →
      ∀ x ∈ made, x.call.kind ∈ [Call.Kind.post, .coinInfo] := by
    rintro made params outcome ⟨reply, rfl, -⟩
    simp [Call.kind]
  cases h with
  | unvetted h => exact hvets _ _ h
  | nothing h => exact hvets _ _ h
  | refused h _ hlock _ => exact List.forall_mem_append.2 ⟨hvets _ _ h, hlocks hlock⟩
  | locked h _ hlock _ => exact List.forall_mem_append.2 ⟨hvets _ _ h, hlocks hlock⟩

/-- No transaction is funded meanwhile. -/
theorem kind_of_locks (h : Locks node made result) : ∀ x ∈ made, x.call.kind ≠ .fund := by
  intro x hx hfund
  have hkinds := kinds_of_locks h x hx
  rw [hfund] at hkinds
  simp at hkinds

theorem Vetted.append_lock {params : Json} {outcome : Except Failure Json}
    (h : Vetted node locks first coins) (hlock : node.Posts "lockunspent" params rest outcome) :
    Vetted node locks (first ++ rest) coins := by
  have hmethod := method_of_posts hlock
  rcases h with ⟨⟨reply, hlisted⟩, hanswered, hjudged⟩
  refine ⟨⟨reply, List.mem_append_left _ hlisted⟩, ?_, ?_⟩
  · intro coin e hmem
    rcases List.mem_append.1 hmem with hmem | hmem
    · exact hanswered coin e hmem
    · cases hmethod _ hmem
  · refine .append (hjudged.mono ?_) (allUnspent_of_not_listed fun x hx => ?_)
    · rintro coin (hheld | ⟨info, hmem, hcarries⟩)
      · exact .inl hheld
      · exact .inr ⟨info, List.mem_append_left _ hmem, hcarries⟩
    · rw [hmethod x hx]
      decide

/-- Locking fails before it locks anything, or all coins have been vetted. -/
theorem vetted_of_locks (h : Locks node made result) (htruthful : Truthful locks made) :
    ((∃ e, result = .error e) ∧ ∀ x ∈ made, x.method? ≠ some "lockunspent")
      ∨ ∃ coins, Vetted node locks made coins ∧ ∀ locked, result = .ok locked → locked = coins := by
  cases h with
  | unvetted h => exact .inl ⟨⟨_, rfl⟩, no_lock_of_vets h⟩
  | nothing h =>
    refine .inr ⟨_, vetted_of_vets h htruthful, fun locked hlocked => ?_⟩
    cases hlocked
    rfl
  | refused hvets _ h _ =>
    refine .inr ⟨_, (vetted_of_vets hvets htruthful.left).append_lock h, fun locked hlocked => ?_⟩
    cases hlocked
  | locked hvets _ h _ =>
    refine .inr ⟨_, (vetted_of_vets hvets htruthful.left).append_lock h, fun locked hlocked => ?_⟩
    cases hlocked
    rfl

theorem vetted_of_locked (h : Locks node made (.ok coins)) (htruthful : Truthful locks made) :
    Vetted node locks made coins := by
  rcases vetted_of_locks h htruthful with ⟨⟨e, he⟩, -⟩ | ⟨vetted, hvetted, hcoins⟩
  · cases he
  · rw [hcoins coins rfl]
    exact hvetted

/-- The coins that were returned are locked now. -/
theorem locksAfter_of_locks (h : Locks node made (.ok coins)) :
    locksAfter locks made = locks ++ coins := by
  cases h with
  | nothing h => rw [locksAfter_of_no_lock (no_lock_of_vets h), List.append_nil]
  | locked hvets _ h htrue =>
    rw [locksAfter_append, locksAfter_of_no_lock (no_lock_of_vets hvets)]
    exact locksAfter_of_locked h htrue

/-- Every coin that the node lists as unspent is locked now, or carries nothing. -/
theorem unspent_of_locks (h : Locks node made (.ok coins)) (htruthful : Truthful locks made) :
    AllUnspent made fun coin => Held (locksAfter locks made) coin ∨ Vouched made coin := by
  rw [locksAfter_of_locks h]
  refine (vetted_of_locked h htruthful).judged.mono ?_
  rintro coin (hheld | ⟨info, hmem, hnothing | hlocked⟩)
  · exact .inl (held_append.2 (.inl hheld))
  · exact .inr ⟨info, hmem, hnothing⟩
  · exact .inl (held_append.2 (.inr (held_of_mem hlocked)))

/-- If the index fails about a coin, so does locking, and nothing is locked. -/
theorem unknown_of_locks {coin : Coin} {e : Failure} (h : Locks node made result)
    (htruthful : Truthful locks made) (hmem : ⟨.coinInfo coin, .error e⟩ ∈ made) :
    (∃ e, result = .error e) ∧ ∀ x ∈ made, x.method? ≠ some "lockunspent" := by
  rcases vetted_of_locks h htruthful with hfailed | ⟨coins, hvetted, -⟩
  · exact hfailed
  · exact absurd hmem (hvetted.answered coin e)

/-- If locking succeeds, the node agreed to every lock. -/
theorem agrees_of_locks {call : Http.Call} {reply : Option Http.Response}
    (h : Locks node made (.ok coins)) (hmem : ⟨.post call, reply⟩ ∈ made)
    (hmethod : call.method = "lockunspent") : agrees reply = true := by
  have hlock : Exchange.method? ⟨.post call, reply⟩ = some "lockunspent" := by
    rw [← hmethod]
    rfl
  cases h with
  | nothing h => exact absurd hlock (no_lock_of_vets h _ hmem)
  | locked hvets _ h htrue =>
    rcases List.mem_append.1 hmem with hmem | hmem
    · exact absurd hlock (no_lock_of_vets hvets _ hmem)
    · rcases h with ⟨other, rfl, hother⟩
      cases List.mem_singleton.1 hmem
      rw [agrees, ← hother]
      exact htrue

/-! ## Locking once more -/

/-- Nothing changed between two runs: the node lists the same unspent coins, and the index answers
the same about a coin. Locked coins can be listed. -/
structure Unchanged (first second : History) : Prop where
  unspent : ∀ call reply other, ⟨.post call, reply⟩ ∈ first → ⟨.post call, other⟩ ∈ second →
    call.method = "listunspent" → other = reply
  coinInfo : ∀ coin answer other, ⟨.coinInfo coin, answer⟩ ∈ first →
    ⟨.coinInfo coin, other⟩ ∈ second → other = answer
  locked : ∀ call reply, ⟨.post call, reply⟩ ∈ second → call.method = "listlockunspent" →
    ∃ coins, listedIn reply = .ok coins

theorem Unchanged.left {second : History} (h : Unchanged first (second ++ rest)) :
    Unchanged first second where
  unspent call reply other hfirst hsecond :=
    h.unspent call reply other hfirst (List.mem_append_left _ hsecond)
  coinInfo coin answer other hfirst hsecond :=
    h.coinInfo coin answer other hfirst (List.mem_append_left _ hsecond)
  locked call reply hsecond := h.locked call reply (List.mem_append_left _ hsecond)

/-- The node lists again what it has listed before. -/
theorem Unchanged.itemsIn_eq {second : History} {reply : Option Http.Response}
    (h : Unchanged first second) (hvetted : Vetted node locks first coins)
    (hmem : ⟨.post (node.request "listunspent" unspentParams), reply⟩ ∈ second) :
    ∃ items, itemsIn reply = .ok items ∧ ∀ item ∈ items, ∃ coin, coinOf item = .ok coin
      ∧ (Held locks coin
        ∨ ∃ info, ⟨.coinInfo coin, .ok info⟩ ∈ first ∧ (CarriesNothing info ∨ coin ∈ coins)) := by
  rcases hvetted.listed with ⟨earlier, hearlier⟩
  rw [h.unspent _ earlier reply hearlier hmem rfl]
  exact hvetted.judged _ earlier hearlier rfl

/-- Vetting once more finds nothing to lock. -/
theorem again_of_vets {second : History} (hfirst : Locks node first (.ok coins))
    (hsecond : Vets node second result) (htruthful : Truthful locks (first ++ second))
    (hunchanged : Unchanged first second) : result = .ok [] := by
  have hvetted := vetted_of_locked hfirst htruthful.left
  have hlater := htruthful.right
  rw [locksAfter_of_locks hfirst] at hlater
  cases hsecond with
  | notListed h =>
    rcases h with ⟨reply, rfl, hreply⟩
    rcases hunchanged.locked _ reply List.mem_cons_self rfl with ⟨locked, hlocked⟩
    rw [listedIn, ← hreply] at hlocked
    cases hlocked
  | misread h hread =>
    rcases h with ⟨reply, rfl, hreply⟩
    rcases hunchanged.locked _ reply List.mem_cons_self rfl with ⟨locked, hlocked⟩
    rw [listedIn, ← hreply] at hlocked
    change (coinsOf _).mapError _ = _ at hlocked
    rw [hread] at hlocked
    cases hlocked
  | noUnspent _ h =>
    rcases h with ⟨reply, rfl, hreply⟩
    rcases hunchanged.itemsIn_eq hvetted (List.mem_append_right _ List.mem_cons_self)
      with ⟨items, hitems, -⟩
    rw [itemsIn, ← hreply] at hitems
    cases hitems
  | misreadUnspent _ h hread =>
    rcases h with ⟨reply, rfl, hreply⟩
    rcases hunchanged.itemsIn_eq hvetted (List.mem_append_right _ List.mem_cons_self)
      with ⟨items, hitems, -⟩
    rw [itemsIn, ← hreply] at hitems
    change (Json.elements _).mapError _ = _ at hitems
    rw [hread] at hitems
    cases hitems
  | judged hlocked hunspent h =>
    -- The list has the coins that the first run locked, so that every coin is settled.
    have hheld := listed_iff_held hlocked hlater
    rcases itemsIn_of_lists hunspent with ⟨reply, rfl, hreply⟩
    rcases hunchanged.itemsIn_eq hvetted
        (List.mem_append_right _ (List.mem_append_left _ List.mem_cons_self))
      with ⟨items, hitems, hall⟩
    rw [hreply] at hitems
    cases hitems
    refine passed_of_judges h fun item hitem => ?_
    rcases hall item hitem with ⟨coin, hcoin, hcoinHeld | ⟨info, hmem, hnothing | hcoinLocked⟩⟩
    · exact ⟨coin, hcoin, .inl ((hheld coin).2 (held_append.2 (.inl hcoinHeld)))⟩
    · refine ⟨coin, hcoin, .inr fun answer hanswer => ⟨info, ?_, hnothing⟩⟩
      exact hunchanged.coinInfo coin _ answer hmem (by simp [hanswer])
    · exact ⟨coin, hcoin, .inl ((hheld coin).2 (held_append.2 (.inr (held_of_mem hcoinLocked))))⟩

/-- Locking once more, with nothing changed in between, locks nothing. -/
theorem again_of_locks {second : History} (hfirst : Locks node first (.ok coins))
    (hsecond : Locks node second result) (htruthful : Truthful locks (first ++ second))
    (hunchanged : Unchanged first second) :
    result = .ok [] ∧ ∀ x ∈ second, x.method? ≠ some "lockunspent" := by
  -- Vetting finds nothing, and without coins to lock no call follows.
  cases hsecond with
  | unvetted h => cases again_of_vets hfirst h htruthful hunchanged
  | nothing h => exact ⟨rfl, no_lock_of_vets h⟩
  | refused h hsome _ _ =>
    rw [← List.append_assoc] at htruthful
    cases again_of_vets hfirst h htruthful.left hunchanged.left
    exact absurd rfl hsome
  | locked h hsome _ _ =>
    rw [← List.append_assoc] at htruthful
    cases again_of_vets hfirst h htruthful.left hunchanged.left
    exact absurd rfl hsome

end

end Runesmith.NodeWallet
