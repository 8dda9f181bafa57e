import Runesmith.Proofs.Wallet.LockSet

/-!
# Vetted coins

When locking succeeds, every unspent coin that the node listed is locked, or the index vouched that
it carries nothing. When the index fails about a coin, nothing is locked at all.
-/

namespace Runesmith.NodeWallet

/-! ## What the index says about a coin -/

/-- A coin is indexed and has neither inscriptions nor runes. -/
def CarriesNothing (info : Json) : Prop :=
  ∃ members, info = .obj members
    ∧ ((Json.find? members "indexed").getD .null).isTruthy = true
    ∧ ((Json.find? members "inscriptions").getD .null).isTruthy = false
    ∧ ((Json.find? members "runes").getD .null).isTruthy = false

theorem isCardinal_eq_true_iff {info : Json} :
    Index.isCardinal info = .ok true ↔ CarriesNothing info := by
  cases info with
  | obj members =>
    have hcardinal : Index.isCardinal (.obj members)
        = if !((Json.find? members "indexed").getD .null).isTruthy then .ok false
          else .ok (!((Json.find? members "inscriptions").getD .null).isTruthy
            && !((Json.find? members "runes").getD .null).isTruthy) := rfl
    rw [hcardinal]
    constructor
    · intro h
      split at h
      · cases h
      · rename_i hindexed
        simp only [Except.ok.injEq, Bool.and_eq_true, Bool.not_eq_true'] at h hindexed
        exact ⟨members, rfl, by simpa using hindexed, h.1, h.2⟩
    · rintro ⟨found, hfound, hindexed, hinscriptions, hrunes⟩
      cases hfound
      rw [hindexed, hinscriptions, hrunes]
      rfl
  | _ =>
    constructor
    · intro h
      cases h
    · rintro ⟨members, hmembers, -⟩
      cases hmembers

/-- The index vouched that a coin carries nothing. -/
def Vouched (made : History) (coin : Coin) : Prop :=
  ∃ info, ⟨.coinInfo coin, .ok info⟩ ∈ made ∧ CarriesNothing info

/-! ## Judged coins -/

section

variable {locked : List Coin} {items : List Json} {made : History}

theorem asks_of_judges {result : Except Failure (List Coin)}
    (h : Judges locked items made result) :
    ∀ x ∈ made, ∃ coin answer, x = ⟨.coinInfo coin, answer⟩ := by
  induction h with
  | nil => simp
  | misread => simp
  | skipped _ _ _ ih => exact ih
  | unknown => exact List.forall_mem_singleton.2 ⟨_, _, rfl⟩
  | misjudged => exact List.forall_mem_singleton.2 ⟨_, _, rfl⟩
  | cardinal _ _ _ _ ih => exact List.forall_mem_cons.2 ⟨⟨_, _, rfl⟩, ih⟩
  | carrying _ _ _ _ ih => exact List.forall_mem_cons.2 ⟨⟨_, _, rfl⟩, ih⟩

/-- If judging comes to an end, the index answered about every coin that it was asked about. -/
theorem answered_of_judges {coins : List Coin} (h : Judges locked items made (.ok coins)) :
    ∀ coin e, ⟨.coinInfo coin, .error e⟩ ∉ made := by
  generalize hresult : Except.ok coins = result at h
  induction h generalizing coins with
  | nil => simp
  | misread => cases hresult
  | skipped _ _ _ ih => exact ih hresult
  | unknown => cases hresult
  | misjudged => cases hresult
  | cardinal _ _ _ _ ih =>
    intro coin e hmem
    rcases List.mem_cons.1 hmem with hmem | hmem
    · cases hmem
    · exact ih hresult coin e hmem
  | @carrying _ _ _ _ _ outcome _ _ _ _ ih =>
    intro coin e hmem
    rcases List.mem_cons.1 hmem with hmem | hmem
    · cases hmem
    · cases outcome with
      | error => cases hresult
      | ok more => exact ih rfl coin e hmem

/-- A listed coin was locked before, or the index answered about it, and it carries nothing or is
one of these coins. -/
def Accounted (locked : List Coin) (made : History) (coins : List Coin) (item : Json) : Prop :=
  ∃ coin, coinOf item = .ok coin ∧ (locked.any coin.same = true
    ∨ ∃ info, ⟨.coinInfo coin, .ok info⟩ ∈ made ∧ (CarriesNothing info ∨ coin ∈ coins))

theorem Accounted.mono {item : Json} {more : History} {coins others : List Coin}
    (h : Accounted locked made coins item) (hmade : made ⊆ more) (hcoins : coins ⊆ others) :
    Accounted locked more others item := by
  rcases h with ⟨coin, hcoin, hlocked | ⟨info, hmem, hnothing | hjudged⟩⟩
  · exact ⟨coin, hcoin, .inl hlocked⟩
  · exact ⟨coin, hcoin, .inr ⟨info, hmade hmem, .inl hnothing⟩⟩
  · exact ⟨coin, hcoin, .inr ⟨info, hmade hmem, .inr (hcoins hjudged)⟩⟩

/-- Judging accounts for every coin. -/
theorem accounted_of_judges {coins : List Coin} (h : Judges locked items made (.ok coins)) :
    ∀ item ∈ items, Accounted locked made coins item := by
  generalize hresult : Except.ok coins = result at h
  induction h generalizing coins with
  | nil => simp
  | misread => cases hresult
  | skipped hcoin hlocked _ ih =>
    exact List.forall_mem_cons.2 ⟨⟨_, hcoin, .inl hlocked⟩, ih hresult⟩
  | unknown => cases hresult
  | misjudged => cases hresult
  | cardinal hcoin _ hinfo _ ih =>
    -- What is known about the rest stays true with one more answer in front.
    refine List.forall_mem_cons.2 ⟨⟨_, hcoin, .inr ⟨_, List.mem_cons_self, .inl ?_⟩⟩, ?_⟩
    · exact isCardinal_eq_true_iff.1 hinfo
    · intro item hitem
      exact (ih hresult item hitem).mono (List.subset_cons_self ..) (List.Subset.refl _)
  | @carrying _ _ _ _ _ outcome hcoin _ _ _ ih =>
    cases outcome with
    | error => cases hresult
    | ok more =>
      cases hresult
      refine List.forall_mem_cons.2 ⟨⟨_, hcoin, .inr ⟨_, List.mem_cons_self, .inr ?_⟩⟩, ?_⟩
      · exact List.mem_cons_self
      · intro item hitem
        exact (ih rfl item hitem).mono (List.subset_cons_self ..) (List.subset_cons_self ..)

/-- A listed coin needs no lock: it has one, or carries nothing by whatever the index answers. -/
def Settled (locked : List Coin) (made : History) (item : Json) : Prop :=
  ∃ coin, coinOf item = .ok coin ∧ (locked.any coin.same = true
    ∨ ∀ answer, ⟨.coinInfo coin, answer⟩ ∈ made → ∃ info, answer = .ok info ∧ CarriesNothing info)

theorem Settled.carriesNothing {item : Json} {coin : Coin} {answer : Except Failure Json}
    (h : Settled locked made item) (hcoin : coinOf item = .ok coin)
    (hfree : locked.any coin.same = false) (hmem : ⟨.coinInfo coin, answer⟩ ∈ made) :
    ∃ info, answer = .ok info ∧ CarriesNothing info := by
  rcases h with ⟨other, hother, hlocked | hanswers⟩
  all_goals
    rw [hcoin] at hother
    cases hother
  · rw [hfree] at hlocked
    cases hlocked
  · exact hanswers answer hmem

/-- Judging passes over coins that need no lock. -/
theorem passed_of_judges {result : Except Failure (List Coin)}
    (h : Judges locked items made result) (hsettled : ∀ item ∈ items, Settled locked made item) :
    result = .ok [] := by
  induction h with
  | nil => rfl
  | misread hread =>
    rcases (List.forall_mem_cons.1 hsettled).1 with ⟨coin, hcoin, -⟩
    rw [hread] at hcoin
    cases hcoin
  | skipped _ _ _ ih => exact ih (List.forall_mem_cons.1 hsettled).2
  | unknown hcoin hfree =>
    rcases (List.forall_mem_cons.1 hsettled).1.carriesNothing hcoin hfree List.mem_cons_self
      with ⟨info, hanswer, -⟩
    cases hanswer
  | misjudged hcoin hfree hinfo =>
    rcases (List.forall_mem_cons.1 hsettled).1.carriesNothing hcoin hfree List.mem_cons_self
      with ⟨info, hanswer, hnothing⟩
    cases hanswer
    rw [isCardinal_eq_true_iff.2 hnothing] at hinfo
    cases hinfo
  | cardinal _ _ _ _ ih =>
    refine ih fun item hitem => ?_
    rcases (List.forall_mem_cons.1 hsettled).2 item hitem with ⟨coin, hcoin, hneeds⟩
    exact ⟨coin, hcoin, hneeds.imp_right fun hanswers answer hmem =>
      hanswers answer (List.mem_cons_of_mem _ hmem)⟩
  | carrying hcoin hfree hinfo =>
    rcases (List.forall_mem_cons.1 hsettled).1.carriesNothing hcoin hfree List.mem_cons_self
      with ⟨info, hanswer, hnothing⟩
    cases hanswer
    rw [isCardinal_eq_true_iff.2 hnothing] at hinfo
    cases hinfo

end

/-! ## Listed coins -/

/-- The items of the list that the node replied with. -/
def itemsIn (reply : Option Http.Response) : Except Failure (List Json) :=
  Node.reading reply >>= fun answer => answer.elements.mapError .mismatch

/-- Whatever the node listed as unspent can be read, and every coin in it has a property. -/
def AllUnspent (made : History) (p : Coin → Prop) : Prop :=
  ∀ call reply, ⟨.post call, reply⟩ ∈ made → call.method = "listunspent" →
    ∃ items, itemsIn reply = .ok items ∧ ∀ item ∈ items, ∃ coin, coinOf item = .ok coin ∧ p coin

section

variable {made first rest : History} {p q : Coin → Prop}

theorem AllUnspent.mono (h : AllUnspent made p) (hpq : ∀ coin, p coin → q coin) :
    AllUnspent made q := by
  intro call reply hmem hmethod
  rcases h call reply hmem hmethod with ⟨items, hitems, hall⟩
  refine ⟨items, hitems, fun item hitem => ?_⟩
  rcases hall item hitem with ⟨coin, hcoin, hp⟩
  exact ⟨coin, hcoin, hpq coin hp⟩

theorem AllUnspent.append (hfirst : AllUnspent first p) (hrest : AllUnspent rest p) :
    AllUnspent (first ++ rest) p := by
  intro call reply hmem
  rcases List.mem_append.1 hmem with hmem | hmem
  · exact hfirst call reply hmem
  · exact hrest call reply hmem

theorem allUnspent_of_not_listed (h : ∀ x ∈ made, x.method? ≠ some "listunspent") :
    AllUnspent made p := by
  intro call reply hmem hmethod
  refine absurd ?_ (h _ hmem)
  rw [← hmethod]
  rfl

end

section

variable {node : Node} {locks : List Coin} {made first rest : History}

theorem method_of_posts {method : String} {params : Json} {result : Except Failure Json}
    (h : node.Posts method params made result) : ∀ x ∈ made, x.method? = some method := by
  rcases h with ⟨reply, rfl, -⟩
  intro x hx
  rw [List.mem_singleton.1 hx]
  rfl

/-- The coins that a truthful node lists are those that are locked. -/
theorem listed_iff_held {locked : List Coin} (h : ListsLocked node first locked)
    (htruthful : Truthful locks (first ++ rest)) (coin : Coin) :
    locked.any coin.same = true ↔ Held locks coin := by
  rcases h with ⟨answer, ⟨reply, rfl, hreply⟩, hlocked⟩
  refine htruthful [] _ reply rest locked rfl rfl ?_ coin
  rw [listedIn, ← hreply]
  show (coinsOf answer).mapError _ = _
  rw [hlocked]
  rfl

/-- What the node listed as unspent. -/
theorem itemsIn_of_lists {items : List Json} (h : ListsUnspent node made items) :
    ∃ reply, made = [⟨.post (node.request "listunspent" unspentParams), reply⟩]
      ∧ itemsIn reply = .ok items := by
  rcases h with ⟨answer, ⟨reply, rfl, hreply⟩, hitems⟩
  refine ⟨reply, rfl, ?_⟩
  rw [itemsIn, ← hreply]
  show answer.elements.mapError _ = _
  rw [hitems]
  rfl

/-! ## Vetted coins -/

/-- Vetting lists coins and asks the index about them. -/
theorem all_vets {p : Exchange → Prop}
    (hlocked : ∀ reply, p ⟨.post (node.request "listlockunspent" .null), reply⟩)
    (hunspent : ∀ reply, p ⟨.post (node.request "listunspent" unspentParams), reply⟩)
    (hinfo : ∀ coin answer, p ⟨.coinInfo coin, answer⟩) : Trace.All (Vets node) p := by
  have hfirst : ∀ {made result}, node.Posts "listlockunspent" .null made result →
      ∀ x ∈ made, p x := by
    rintro made result ⟨reply, rfl, -⟩
    exact List.forall_mem_singleton.2 (hlocked reply)
  have hsecond : ∀ {made result}, node.Posts "listunspent" unspentParams made result →
      ∀ x ∈ made, p x := by
    rintro made result ⟨reply, rfl, -⟩
    exact List.forall_mem_singleton.2 (hunspent reply)
  intro made result h
  cases h with
  | notListed h => exact hfirst h
  | misread h => exact hfirst h
  | noUnspent hlisted h =>
    rcases hlisted with ⟨_, hlisted, -⟩
    exact List.forall_mem_append.2 ⟨hfirst hlisted, hsecond h⟩
  | misreadUnspent hlisted h =>
    rcases hlisted with ⟨_, hlisted, -⟩
    exact List.forall_mem_append.2 ⟨hfirst hlisted, hsecond h⟩
  | judged hlisted hasked h =>
    rcases hlisted with ⟨_, hlisted, -⟩
    rcases hasked with ⟨_, hasked, -⟩
    refine List.forall_mem_append.2 ⟨hfirst hlisted,
      List.forall_mem_append.2 ⟨hsecond hasked, fun x hx => ?_⟩⟩
    rcases asks_of_judges h x hx with ⟨coin, answer, rfl⟩
    exact hinfo coin answer

/-- What is called while coins are vetted locks and releases none. -/
theorem no_lock_of_vets {result : Except Failure (List Coin)} (h : Vets node made result) :
    ∀ x ∈ made, x.method? ≠ some "lockunspent" :=
  all_vets (by simp [Exchange.method?, Node.request]) (by simp [Exchange.method?, Node.request])
    (by simp [Exchange.method?]) made result h

/-- What is known once coins have been vetted: the index answered whenever it was asked, and every
coin that the node lists was locked, carries nothing or is to be locked. -/
structure Vetted (node : Node) (locks : List Coin) (made : History) (coins : List Coin) : Prop where
  listed : ∃ reply, ⟨.post (node.request "listunspent" unspentParams), reply⟩ ∈ made
  answered : ∀ coin e, ⟨.coinInfo coin, .error e⟩ ∉ made
  judged : AllUnspent made fun coin => Held locks coin
    ∨ ∃ info, ⟨.coinInfo coin, .ok info⟩ ∈ made ∧ (CarriesNothing info ∨ coin ∈ coins)

theorem vetted_of_vets {coins : List Coin} (h : Vets node made (.ok coins))
    (htruthful : Truthful locks made) : Vetted node locks made coins := by
  rcases h with _ | _ | _ | _ | ⟨hlocked, hunspent, hjudges⟩
  have hheld := listed_iff_held hlocked htruthful
  rcases itemsIn_of_lists hunspent with ⟨reply, rfl, hitems⟩
  rcases hlocked with ⟨_, ⟨locksReply, rfl, -⟩, -⟩
  refine ⟨⟨_, List.mem_append_right _ (List.mem_append_left _ List.mem_cons_self)⟩, ?_, ?_⟩
  · intro coin e hmem
    rcases List.mem_append.1 hmem with hmem | hmem
    · cases List.mem_singleton.1 hmem
    rcases List.mem_append.1 hmem with hmem | hmem
    · cases List.mem_singleton.1 hmem
    exact answered_of_judges hjudges coin e hmem
  · refine .append (allUnspent_of_not_listed (by simp [Exchange.method?, Node.request]))
      (.append ?_ (allUnspent_of_not_listed ?_))
    · intro call other hmem hmethod
      cases List.mem_singleton.1 hmem
      refine ⟨_, hitems, fun item hitem => ?_⟩
      rcases accounted_of_judges hjudges item hitem
        with ⟨coin, hcoin, hany | ⟨info, hmem, hcarries⟩⟩
      · exact ⟨coin, hcoin, .inl ((hheld coin).1 hany)⟩
      · exact ⟨coin, hcoin, .inr ⟨info, by simp [hmem], hcarries⟩⟩
    · intro x hx
      rcases asks_of_judges hjudges x hx with ⟨coin, answer, rfl⟩
      simp [Exchange.method?]

end

end Runesmith.NodeWallet
