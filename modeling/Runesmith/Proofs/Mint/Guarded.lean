import Runesmith.Proofs.Mint.Stages
import Runesmith.Proofs.Wallet.Locked

/-!
# Guarded runs

A mint with the wallet of a node locks what must not be spent, and funds its transaction only then.

* `Guarded` says what follows for the coins of the wallet, whatever a run calls;
* `Guarded.among` leaves out the calls that have nothing to do with coins;
* `guarded_of_funds` and `guarded_of_runs` put this together for the stages and for whole runs.
-/

namespace Runesmith.Mint

open NodeWallet

/-! ## A mint with the wallet of a node -/

/-- A mint with the wallet of a node, which calls on its surroundings for everything else. -/
def throughNode (around : Behaviour) (node : Node) (targetPostage : Postage) : Mint Observed where
  index := around.index
  wallet := (NodeWallet.mk node around.index).toWallet around.transport
  node := around.completion
  targetPostage := targetPostage

/-- What the wallet of a node does takes requests to the node, and every other action one call. -/
def nodeTraces (node : Node) : Traces :=
  { oneCall with
    lockNonCardinal := Locks node
    release := Releases node
    changeScript := fun made _ => ∀ x ∈ made, OnlyAsks node x
    network := fun made _ => ∀ x ∈ made, OnlyAsks node x }

theorem follows_throughNode (around : Behaviour) (node : Node) (targetPostage : Postage) :
    Follows (throughNode around node targetPostage) (nodeTraces node) where
  runesIndexed _ := ⟨_, rfl, rfl⟩
  chainHeight _ := ⟨_, rfl, rfl⟩
  lookup _ _ := ⟨_, rfl, rfl⟩
  lockNonCardinal := leads_lockNonCardinal around node
  release coins := leads_release around node coins
  changeScript := leads_changeScript around node
  network := leads_network around node
  fund _ _ _ := ⟨_, rfl, rfl⟩
  sign _ _ := ⟨_, rfl, rfl⟩
  broadcast _ _ := ⟨_, rfl, rfl⟩

/-! ## Guarded runs -/

/-- What a wallet with locked coins may expect of a run. -/
structure Guarded (node : Node) (locks : List Coin) (made : History) : Prop where
  /-- When a transaction is funded, the node has listed what is unspent, and every coin that it
  lists is locked or vouched for. -/
  funded : ∀ before tx feeRate answer after, made = before ++ ⟨.fund tx feeRate, answer⟩ :: after →
    (∃ reply, ⟨.post (node.request "listunspent" unspentParams), reply⟩ ∈ before)
      ∧ AllUnspent made fun coin => Held (locksAfter locks before) coin ∨ Vouched before coin
  /-- If the index fails about a coin, nothing is funded, and nothing is locked or released. -/
  unknown : ∀ coin e, ⟨.coinInfo coin, .error e⟩ ∈ made →
    ∀ x ∈ made, x.call.kind ≠ .fund ∧ x.method? ≠ some "lockunspent"
  /-- If the node does not lock coins that it was asked to lock, nothing is funded. -/
  refused : ∀ call reply outputs, ⟨.post call, reply⟩ ∈ made → call.method = "lockunspent" →
    call.params = .arr [.bool false, outputs] → agrees reply = false →
      ∀ x ∈ made, x.call.kind ≠ .fund
  /-- Once coins are locked or released, or a transaction is funded, the index has answered about
  every coin that the node lists as unspent, but for those that were locked before. -/
  asked : (∃ x ∈ made, x.call.kind = .fund ∨ x.method? = some "lockunspent") →
    AllUnspent made fun coin => Held locks coin ∨ ∃ info, ⟨.coinInfo coin, .ok info⟩ ∈ made

/-- An exchange that has nothing to do with coins. -/
structure Quiet (x : Exchange) : Prop where
  kind : x.call.kind ≠ .fund ∧ x.call.kind ≠ .coinInfo
  method : ∀ method, x.method? = some method → method ∉ ["lockunspent", "listunspent"]

section

variable {node : Node} {locks : List Coin} {made first middle rest : History}

theorem Quiet.no_lock {x : Exchange} (h : Quiet x) : x.method? ≠ some "lockunspent" :=
  fun hmethod => h.method _ hmethod (by decide)

theorem allUnspent_of_quiet {p : Coin → Prop} (h : ∀ x ∈ made, Quiet x) : AllUnspent made p :=
  allUnspent_of_not_listed fun x hx hmethod => (h x hx).method _ hmethod (by decide)

/-- An element that is not in the first of two lists is in the second. -/
theorem split_of_not_mem_left {α : Type} {x : α} {first rest before after : List α}
    (h : first ++ rest = before ++ x :: after) (hx : x ∉ first) :
    ∃ middle, before = first ++ middle ∧ rest = middle ++ x :: after := by
  rcases List.append_eq_append_iff.1 h with ⟨middle, hbefore, hrest⟩ | ⟨middle, hfirst, hrest⟩
  · exact ⟨middle, hbefore, hrest⟩
  cases middle with
  | nil =>
    rw [List.append_nil] at hfirst
    exact ⟨[], by rw [hfirst, List.append_nil], hrest.symm⟩
  | cons y middle =>
    cases hrest
    rw [hfirst] at hx
    exact absurd (List.mem_append_right _ List.mem_cons_self) hx

theorem split_of_not_mem_right {α : Type} {x : α} {first rest before after : List α}
    (h : first ++ rest = before ++ x :: after) (hx : x ∉ rest) :
    ∃ middle, first = before ++ x :: middle := by
  rcases List.append_eq_append_iff.1 h with ⟨middle, -, hrest⟩ | ⟨middle, hfirst, hrest⟩
  · rw [hrest] at hx
    exact absurd (List.mem_append_right _ List.mem_cons_self) hx
  cases middle with
  | nil =>
    rw [List.nil_append] at hrest
    rw [← hrest] at hx
    exact absurd List.mem_cons_self hx
  | cons y middle =>
    cases hrest
    exact ⟨middle, hfirst⟩

/-- Nothing is to be guarded where no coin is listed, locked or spent. -/
theorem guarded_nil : Guarded node locks [] where
  funded before tx feeRate answer after hmade := by simp at hmade
  unknown := by simp
  refused := by simp
  asked := by simp

/-- Quiet exchanges around a guarded run leave it guarded. -/
theorem Guarded.among (h : Guarded node locks middle) (hfirst : ∀ x ∈ first, Quiet x)
    (hrest : ∀ x ∈ rest, Quiet x) : Guarded node locks (first ++ (middle ++ rest)) := by
  have hcases : ∀ x ∈ first ++ (middle ++ rest), x ∈ middle ∨ Quiet x :=
    List.forall_mem_append.2 ⟨fun x hx => .inr (hfirst x hx),
      List.forall_mem_append.2 ⟨fun x hx => .inl hx, fun x hx => .inr (hrest x hx)⟩⟩
  have hmem : ∀ x ∈ middle, x ∈ first ++ (middle ++ rest) :=
    fun x hx => List.mem_append_right _ (List.mem_append_left _ hx)
  have hall : ∀ p, AllUnspent middle p → AllUnspent (first ++ (middle ++ rest)) p :=
    fun p hp => (allUnspent_of_quiet hfirst).append (hp.append (allUnspent_of_quiet hrest))
  refine ⟨?_, ?_, ?_, ?_⟩
  · intro before tx feeRate answer after hmade
    have hnotFirst : ⟨.fund tx feeRate, answer⟩ ∉ first := fun hx => (hfirst _ hx).kind.1 rfl
    have hnotRest : ⟨.fund tx feeRate, answer⟩ ∉ rest := fun hx => (hrest _ hx).kind.1 rfl
    -- The funding stands in the middle part, behind all that was called before.
    rcases split_of_not_mem_left hmade hnotFirst with ⟨between, rfl, hbehind⟩
    rcases split_of_not_mem_right hbehind hnotRest with ⟨_, hmiddle⟩
    rcases h.funded _ _ _ _ _ hmiddle with ⟨⟨reply, hlisted⟩, hunspent⟩
    refine ⟨⟨reply, List.mem_append_right _ hlisted⟩, hall _ (hunspent.mono ?_)⟩
    rw [locksAfter_append, locksAfter_of_no_lock fun x hx => (hfirst x hx).no_lock]
    rintro coin (hheld | ⟨info, hinfo, hnothing⟩)
    · exact .inl hheld
    · exact .inr ⟨info, List.mem_append_right _ hinfo, hnothing⟩
  · intro coin e hunknown x hx
    rcases hcases _ hunknown with hunknown | hquiet
    · rcases hcases x hx with hx | hquiet
      · exact h.unknown coin e hunknown x hx
      · exact ⟨hquiet.kind.1, hquiet.no_lock⟩
    · exact absurd rfl hquiet.kind.2
  · intro call reply outputs hlock hmethod hparams hdenied x hx
    rcases hcases _ hlock with hlock | hquiet
    · rcases hcases x hx with hx | hquiet
      · exact h.refused call reply outputs hlock hmethod hparams hdenied x hx
      · exact hquiet.kind.1
    · exact absurd (by rw [← hmethod]; rfl) hquiet.no_lock
  · rintro ⟨x, hx, hcalled⟩
    rcases hcases x hx with hx | hquiet
    · refine hall _ ((h.asked ⟨x, hx, hcalled⟩).mono fun coin hcoin => hcoin.imp_right ?_)
      rintro ⟨info, hinfo⟩
      exact ⟨info, hmem _ hinfo⟩
    · rcases hcalled with hfund | hlock
      · exact absurd hfund hquiet.kind.1
      · exact absurd hlock hquiet.no_lock

/-! ## Guarded stages -/

/-- An exchange that releases coins. -/
def Frees (node : Node) (x : Exchange) : Prop :=
  ∃ coins reply, x = ⟨.post (node.request "lockunspent" (lockParams true coins)), reply⟩

theorem frees_of_releases {coins : List Coin} {result : Except Failure Unit}
    (h : Releases node coins made result) : ∀ x ∈ made, Frees node x := by
  have hposts : ∀ {outcome}, node.Posts "lockunspent" (lockParams true coins) made outcome →
      ∀ x ∈ made, Frees node x := by
    rintro outcome ⟨reply, rfl, -⟩ x hx
    exact ⟨coins, reply, List.mem_singleton.1 hx⟩
  cases h with
  | nothing => simp
  | failed _ h => exact hposts h
  | refused _ h => exact hposts h
  | released _ h => exact hposts h

theorem guarded_of_notLocked {e : Failure} (h : Locks node made (.error e))
    (htruthful : Truthful locks made) : Guarded node locks made where
  funded before tx feeRate answer after hmade :=
    absurd rfl (kind_of_locks h ⟨.fund tx feeRate, answer⟩ (by simp [hmade]))
  unknown coin e hunknown x hx :=
    ⟨kind_of_locks h x hx, (unknown_of_locks h htruthful hunknown).2 x hx⟩
  refused call reply outputs hlock hmethod hparams hdenied x hx := kind_of_locks h x hx
  asked := by
    rintro ⟨x, hx, hcalled⟩
    rcases vetted_of_locks h htruthful with ⟨-, hnone⟩ | ⟨coins, hvetted, -⟩
    · rcases hcalled with hfund | hlock
      · exact absurd hfund (kind_of_locks h x hx)
      · exact absurd hlock (hnone x hx)
    · refine hvetted.judged.mono fun coin hcoin => hcoin.imp_right ?_
      rintro ⟨info, hinfo, -⟩
      exact ⟨info, hinfo⟩

/-- Funding behind a lock is guarded, also when coins are released afterwards. -/
theorem guarded_of_locked {coins : List Coin} {tx : Transaction} {feeRate : FeeRate}
    {answer : Except Failure Transaction} (h : Locks node first (.ok coins))
    (hrest : ∀ x ∈ rest, Frees node x)
    (htruthful : Truthful locks (first ++ ⟨.fund tx feeRate, answer⟩ :: rest)) :
    Guarded node locks (first ++ ⟨.fund tx feeRate, answer⟩ :: rest) := by
  have hvetted := vetted_of_locked h htruthful.left
  have hall : ∀ p, AllUnspent first p →
      AllUnspent (first ++ ⟨.fund tx feeRate, answer⟩ :: rest) p := by
    refine fun p hp => hp.append (allUnspent_of_not_listed ?_)
    refine List.forall_mem_cons.2 ⟨by simp [Exchange.method?], fun x hx => ?_⟩
    rcases hrest x hx with ⟨coins, reply, rfl⟩
    simp [Exchange.method?, Node.request]
  -- Every exchange belongs to the locking, is the funding, or releases coins.
  have hpast : ∀ {x}, x ∈ first ++ ⟨.fund tx feeRate, answer⟩ :: rest →
      x ∈ first ∨ x = ⟨.fund tx feeRate, answer⟩ ∨ Frees node x := by
    intro x hx
    rcases List.mem_append.1 hx with hx | hx
    · exact .inl hx
    · exact .inr ((List.mem_cons.1 hx).imp_right (hrest x))
  refine ⟨?_, ?_, ?_, ?_⟩
  · intro before tx' feeRate' answer' after hmade
    have hnotFirst : ⟨.fund tx' feeRate', answer'⟩ ∉ first := fun hx => kind_of_locks h _ hx rfl
    rcases split_of_not_mem_left hmade hnotFirst with ⟨middle, rfl, hbehind⟩
    cases middle with
    | nil =>
      rw [List.append_nil]
      exact ⟨hvetted.listed, hall _ (unspent_of_locks h htruthful.left)⟩
    | cons y middle =>
      -- Behind the first funding there is nothing but releases.
      have hfund : ⟨.fund tx' feeRate', answer'⟩ ∈ rest := by
        rw [(List.cons.inj hbehind).2]
        exact List.mem_append_right _ List.mem_cons_self
      rcases hrest _ hfund with ⟨_, _, hfrees⟩
      cases hfrees
  · intro coin e hunknown
    rcases hpast hunknown with hunknown | hfund | ⟨_, _, hfrees⟩
    · exact absurd hunknown (hvetted.answered coin e)
    · cases hfund
    · cases hfrees
  · intro call reply outputs hlock hmethod hparams hdenied
    rcases hpast hlock with hlock | hfund | ⟨coins, _, hfrees⟩
    · rw [agrees_of_locks h hlock hmethod] at hdenied
      cases hdenied
    · cases hfund
    · cases hfrees
      cases hparams
  · intro _
    refine hall _ (hvetted.judged.mono fun coin hcoin => hcoin.imp_right ?_)
    rintro ⟨info, hinfo, -⟩
    exact ⟨info, List.mem_append_left _ hinfo⟩

theorem guarded_of_fundsLocked {skeleton : Transaction} {feeRate : FeeRate}
    {result : Except Failure Transaction}
    (h : FundsLocked (nodeTraces node) skeleton feeRate made result)
    (htruthful : Truthful locks made) : Guarded node locks made := by
  cases h with
  | notLocked hlock => exact guarded_of_notLocked hlock htruthful
  | funded hlock hfund =>
    rcases hfund with rfl
    exact guarded_of_locked hlock (by simp) htruthful
  | notFunded hlock hfund hrelease =>
    rcases hfund with rfl
    exact guarded_of_locked hlock (frees_of_releases hrelease) htruthful

/-! ## Quiet stages -/

theorem quiet_of_onlyAsks {x : Exchange} (h : OnlyAsks node x) : Quiet x := by
  rcases h with ⟨method, params, reply, rfl, hmethod⟩
  refine ⟨by simp [Call.kind], fun other hother => ?_⟩
  cases hother
  show method ∉ _
  rcases List.mem_cons.1 hmethod with rfl | hmethod
  · decide
  · rw [List.mem_singleton.1 hmethod]
    decide

theorem allBegin_quiet : AllBegin (nodeTraces node) Quiet where
  runesIndexed := Trace.all_oneCall fun _ => ⟨by simp [Call.kind], by simp [Exchange.method?]⟩
  chainHeight := Trace.all_oneCall fun _ => ⟨by simp [Call.kind], by simp [Exchange.method?]⟩
  lookup _ := Trace.all_oneCall fun _ => ⟨by simp [Call.kind], by simp [Exchange.method?]⟩
  changeScript _ _ h x hx := quiet_of_onlyAsks (h x hx)
  network _ _ h x hx := quiet_of_onlyAsks (h x hx)

theorem quiet_sign (tx : Transaction) : ((nodeTraces node).sign tx).All Quiet :=
  Trace.all_oneCall fun _ => ⟨by simp [Call.kind], by simp [Exchange.method?]⟩

theorem quiet_broadcast (tx : Transaction) : ((nodeTraces node).broadcast tx).All Quiet :=
  Trace.all_oneCall fun _ => ⟨by simp [Call.kind], by simp [Exchange.method?]⟩

/-! ## Whole runs -/

theorem guarded_of_funds {request : MintRequest} {targetPostage : Postage}
    {result : Except Stopped Funded} (h : Funds (nodeTraces node) request targetPostage made result)
    (htruthful : Truthful locks made) : Guarded node locks made := by
  have hbehind : ∀ {first rest : History} {skeleton : Transaction} {begun}
      {result : Except Failure Transaction},
      Begins (nodeTraces node) request targetPostage first begun →
      FundsLocked (nodeTraces node) skeleton request.feeRate rest result →
      Truthful locks (first ++ rest) → Guarded node locks (first ++ rest) := by
    intro first rest skeleton begun result hbegins hlocked htruthful
    -- Everything before locking is quiet, so the locks are still those of the start.
    have hquiet := all_begins allBegin_quiet request targetPostage first _ hbegins
    have hrest := htruthful.right
    rw [locksAfter_of_no_lock fun x hx => (hquiet x hx).no_lock] at hrest
    rw [← List.append_nil rest]
    exact (guarded_of_fundsLocked hlocked hrest).among hquiet (by simp)
  cases h with
  | notBegun hbegins =>
    rw [← List.append_nil made]
    have hquiet := all_begins allBegin_quiet request targetPostage made _ hbegins
    exact guarded_nil.among hquiet (by simp)
  | unfunded hbegins hlocked => exact hbehind hbegins hlocked htruthful
  | funded hbegins hlocked => exact hbehind hbegins hlocked htruthful

theorem guarded_of_runs {request : MintRequest} {targetPostage : Postage}
    {result : Except Stopped Result} (h : Runs (nodeTraces node) request targetPostage made result)
    (htruthful : Truthful locks made) : Guarded node locks made := by
  have hnone : ∀ x ∈ ([] : History), Quiet x := by simp
  cases h with
  | unfunded hfunds => exact guarded_of_funds hfunds htruthful
  | unsigned hfunds hsigned =>
    exact (guarded_of_funds hfunds htruthful.left).among hnone (quiet_sign _ _ _ hsigned)
  | mismatch hfunds hsigned _ =>
    exact (guarded_of_funds hfunds htruthful.left).among hnone (quiet_sign _ _ _ hsigned)
  | refused hfunds hsigned _ hrelayed =>
    exact (guarded_of_funds hfunds htruthful.left).among hnone
      (List.forall_mem_append.2 ⟨quiet_sign _ _ _ hsigned, quiet_broadcast _ _ _ hrelayed⟩)
  | minted hfunds hsigned _ hrelayed =>
    exact (guarded_of_funds hfunds htruthful.left).among hnone
      (List.forall_mem_append.2 ⟨quiet_sign _ _ _ hsigned, quiet_broadcast _ _ _ hrelayed⟩)

end

end Runesmith.Mint
