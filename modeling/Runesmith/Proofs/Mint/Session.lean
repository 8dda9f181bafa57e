import Mathlib
import Runesmith.Proofs.Mint.Spendable
import Runesmith.Proofs.Wallet.OwnLocks

/-!
# Mints that share a wallet

Any number of mints and prepared mints, one after the other, lock and release coins of one wallet.
Whenever funding fails, the locks are again what they were when the run started, and no run ever
releases a coin that it did not lock itself (`session_restores`).

* `noted` writes down which coins the wallet was asked to lock and to release;
* `Balanced` is what is known about the locks behind each part of a run.
-/

namespace Runesmith.Mint

open NodeWallet

/-! ## Mints with a wallet whose calls are written down -/

/-- An action that is written down, together with how it ended, when it has ended. -/
def noted {α : Type} (call : Call) (answer : Except Failure α → call.Answer)
    (action : Action Observed α) : Action Observed α := fun world =>
  ((action world).1, { (action world).2 with
    history := (action world).2.history ++ [⟨call, answer (action world).1⟩] })

theorem leads_noted {α : Type} {call : Call} {answer : Except Failure α → call.Answer}
    {action : Action Observed α} {P : Trace Failure α} (h : Leads action P) :
    Leads (noted call answer action) fun made result =>
      ∃ inner, made = inner ++ [⟨call, answer result⟩] ∧ P inner result := by
  intro world
  obtain ⟨inner, hhistory, hP⟩ := h world
  refine ⟨inner ++ [⟨call, answer (action world).1⟩], ?_, inner, rfl, hP⟩
  rw [← List.append_assoc, ← hhistory]
  rfl

/-- The wallet of a node, with a note of every call that locks or releases coins. -/
def notedWallet (around : Behaviour) (node : Node) : Wallet Observed :=
  let wallet := (NodeWallet.mk node around.index).toWallet around.transport
  { wallet with
    lockNonCardinal := noted .lockNonCardinal id wallet.lockNonCardinal
    release := fun coins => noted (.release coins) id (wallet.release coins) }

/-- A mint with the wallet of a node, which calls on its surroundings for everything else. -/
def sharing (around : Behaviour) (node : Node) (targetPostage : Postage) : Mint Observed :=
  { throughNode around node targetPostage with wallet := notedWallet around node }

def sharedTraces (node : Node) : Traces :=
  { nodeTraces node with
    lockNonCardinal := fun made result =>
      ∃ inner, made = inner ++ [⟨.lockNonCardinal, result⟩] ∧ Locks node inner result
    release := fun coins made result =>
      ∃ inner, made = inner ++ [⟨.release coins, result⟩] ∧ Releases node coins inner result }

theorem follows_sharing (around : Behaviour) (node : Node) (targetPostage : Postage) :
    Follows (sharing around node targetPostage) (sharedTraces node) :=
  { follows_throughNode around node targetPostage with
    lockNonCardinal := leads_noted (leads_lockNonCardinal around node)
    release := fun coins => leads_noted (leads_release around node coins) }

/-! ## What a run does to the locks -/

/-- An exchange that tells that funding failed. -/
def FundFailed (x : Exchange) : Prop :=
  ∃ tx feeRate e, x = ⟨.fund tx feeRate, .error e⟩

/-- What calls do to the locks that were held before them. -/
structure Balanced (reserve : Transaction → Set Coin) (locks : Set Coin) (made : History) :
    Prop where
  /-- If funding failed, the locks are what they were. -/
  restored : (∃ x ∈ made, FundFailed x) → lockSetAfter reserve locks made = locks
  /-- Nothing is released that was locked before. -/
  spared : ∀ x ∈ made, ∀ coin ∈ namedCoins true x, coin ∉ locks
  /-- If funding failed, exactly the coins that were locked are released, once. -/
  released : (∃ x ∈ made, FundFailed x) → ∃ coins outcome,
    made.of .lockNonCardinal = [⟨.lockNonCardinal, .ok coins⟩]
      ∧ made.of .release = [⟨.release coins, outcome⟩]
  /-- Otherwise nothing is released. -/
  unreleased : (¬ ∃ x ∈ made, FundFailed x) → made.of .release = []

section

variable {node : Node} {reserve : Transaction → Set Coin} {locks : Set Coin}
  {made first middle rest : History}

theorem not_fundFailed_of_kind {x : Exchange} (h : x.call.kind ≠ .fund) : ¬ FundFailed x := by
  rintro ⟨tx, feeRate, e, rfl⟩
  exact h rfl

/-- Where no transaction is funded and no coin is released, there is nothing to restore. -/
theorem balanced_of_unfunded (hkind : ∀ x ∈ made, ¬ FundFailed x)
    (hnamed : ∀ x ∈ made, namedCoins true x = ∅) (hrelease : made.of .release = []) :
    Balanced reserve locks made where
  restored := by
    rintro ⟨x, hx, hfailed⟩
    exact absurd hfailed (hkind x hx)
  spared := by
    intro x hx coin hcoin
    rw [hnamed x hx] at hcoin
    exact absurd hcoin (Set.notMem_empty coin)
  released := by
    rintro ⟨x, hx, hfailed⟩
    exact absurd hfailed (hkind x hx)
  unreleased _ := hrelease

theorem of_eq_nil_of_idle {kind : Call.Kind} (h : ∀ x ∈ made, Idle x)
    (hkind : kind ∈ [Call.Kind.fund, .lockNonCardinal, .release]) : made.of kind = [] := by
  rw [History.of_eq_nil_iff]
  intro x hx hsame
  rw [← hsame] at hkind
  exact (h x hx).kind hkind

/-- Idle exchanges around balanced calls leave them balanced. -/
theorem Balanced.among (h : Balanced reserve locks middle) (hfirst : ∀ x ∈ first, Idle x)
    (hrest : ∀ x ∈ rest, Idle x) : Balanced reserve locks (first ++ (middle ++ rest)) := by
  have hfailed : (∃ x ∈ first ++ (middle ++ rest), FundFailed x) ↔ ∃ x ∈ middle, FundFailed x := by
    constructor
    · rintro ⟨x, hx, hfailed⟩
      rcases List.mem_append.1 hx with hx | hx
      · exact absurd hfailed (not_fundFailed_of_kind (hfirst x hx).not_fund)
      rcases List.mem_append.1 hx with hx | hx
      · exact ⟨x, hx, hfailed⟩
      · exact absurd hfailed (not_fundFailed_of_kind (hrest x hx).not_fund)
    · rintro ⟨x, hx, hfailed⟩
      exact ⟨x, List.mem_append_right _ (List.mem_append_left _ hx), hfailed⟩
  have hof : ∀ {kind}, kind ∈ [Call.Kind.fund, .lockNonCardinal, .release] →
      History.of (first ++ (middle ++ rest)) kind = middle.of kind := by
    intro kind hkind
    rw [History.of_append, History.of_append, of_eq_nil_of_idle hfirst hkind,
      of_eq_nil_of_idle hrest hkind, List.nil_append, List.append_nil]
  have hnamed : ∀ {x}, Idle x → ∀ coin ∈ namedCoins true x, coin ∉ locks := by
    intro x hidle coin hcoin
    rw [namedCoins_of_method hidle.method] at hcoin
    exact absurd hcoin (Set.notMem_empty coin)
  refine ⟨?_, ?_, ?_, ?_⟩
  · intro hmiddle
    rw [lockSetAfter_append, lockSetAfter_append, lockSetAfter_of_idle hfirst,
      lockSetAfter_of_idle hrest]
    exact h.restored (hfailed.1 hmiddle)
  · exact List.forall_mem_append.2 ⟨fun x hx => hnamed (hfirst x hx),
      List.forall_mem_append.2 ⟨h.spared, fun x hx => hnamed (hrest x hx)⟩⟩
  · intro hmiddle
    rw [hof (by simp), hof (by simp)]
    exact h.released (hfailed.1 hmiddle)
  · intro hmiddle
    rw [hof (by simp)]
    exact h.unreleased fun hall => hmiddle (hfailed.2 hall)

/-- Locking leaves nothing to restore, and adds the coins that it returns. -/
theorem of_noted_lock {result : Except Failure (List Coin)} (h : Locks node first result) :
    History.of (first ++ [⟨.lockNonCardinal, result⟩]) .lockNonCardinal
        = [⟨.lockNonCardinal, result⟩]
      ∧ History.of (first ++ [⟨.lockNonCardinal, result⟩]) .release = [] := by
  have hnone : ∀ {kind}, kind ∉ [Call.Kind.post, .coinInfo] → first.of kind = [] := by
    intro kind hkind
    rw [History.of_eq_nil_iff]
    intro x hx hsame
    rw [← hsame] at hkind
    exact hkind (kinds_of_locks h x hx)
  rw [History.of_append, History.of_append, hnone (by decide), hnone (by decide)]
  exact ⟨rfl, rfl⟩

theorem of_noted_release {coins : List Coin} {result : Except Failure Unit}
    (h : Releases node coins first result) :
    History.of (first ++ [⟨.release coins, result⟩]) .lockNonCardinal = []
      ∧ History.of (first ++ [⟨.release coins, result⟩]) .release = [⟨.release coins, result⟩] := by
  have hnone : ∀ {kind}, kind ≠ .post → first.of kind = [] := by
    intro kind hkind
    rw [History.of_eq_nil_iff]
    intro x hx hsame
    rw [← hsame] at hkind
    exact hkind (kinds_of_releases h x hx)
  rw [History.of_append, History.of_append, hnone (by decide), hnone (by decide)]
  exact ⟨rfl, rfl⟩

/-- Locking neither fails to fund nor releases anything. -/
theorem all_noted_lock {result : Except Failure (List Coin)} (h : Locks node first result) :
    ∀ x ∈ first ++ [(⟨.lockNonCardinal, result⟩ : Exchange)],
      ¬ FundFailed x ∧ namedCoins true x = ∅ := by
  refine List.forall_mem_append.2 ⟨fun x hx => ⟨?_, namedCoins_of_locks h x hx⟩, ?_⟩
  · exact not_fundFailed_of_kind (kind_of_locks h x hx)
  · exact List.forall_mem_singleton.2 ⟨not_fundFailed_of_kind (by simp [Call.kind]), rfl⟩

theorem lockSetAfter_noted {call : Call} {answer : call.Answer}
    (hkind : call.kind ∈ [Call.Kind.lockNonCardinal, .release]) :
    lockSetAfter reserve locks (first ++ [⟨call, answer⟩]) = lockSetAfter reserve locks first := by
  rw [lockSetAfter_append]
  refine lockSetBehind_of_unnamed (reservedCoins_of_kind ?_) ?_
  · intro hfund
    rw [hfund] at hkind
    simp at hkind
  · cases call <;> simp_all [Call.kind, Exchange.method?]

/-- What is locked for a transaction that is not funded is released again. -/
theorem balanced_of_notFunded {skeleton : Transaction} {feeRate : FeeRate} {coins : List Coin}
    {e : Failure} {outcome : Except Failure Unit} (hlock : Locks node first (.ok coins))
    (hrelease : Releases node coins rest outcome)
    (hkeeps : KeepsLocks reserve locks ((first ++ [⟨.lockNonCardinal, .ok coins⟩])
      ++ ([⟨.fund skeleton feeRate, .error e⟩] ++ (rest ++ [⟨.release coins, outcome⟩])))) :
    Balanced reserve locks ((first ++ [⟨.lockNonCardinal, .ok coins⟩])
      ++ ([⟨.fund skeleton feeRate, .error e⟩] ++ (rest ++ [⟨.release coins, outcome⟩]))) := by
  have hnew : ∀ coin ∈ coins, coin ∉ locks := new_of_locks hlock hkeeps.left.left
  have hlocked : lockSetAfter reserve locks (first ++ [⟨.lockNonCardinal, .ok coins⟩])
      = locks ∪ {coin | coin ∈ coins} := by
    rw [lockSetAfter_noted (by simp [Call.kind]), lockSetAfter_of_locks hlock]
  have hfund : ∀ locks, lockSetAfter reserve locks [⟨.fund skeleton feeRate, .error e⟩] = locks :=
    fun locks => lockSetBehind_of_unnamed rfl (by simp [Exchange.method?])
  have hkept := hkeeps.right.right.left
  rw [hlocked, hfund] at hkept
  have hrestored : (locks ∪ {coin | coin ∈ coins}) \ {coin | coin ∈ coins} = locks := by
    rw [Set.union_sdiff_right, sdiff_eq_left, Set.disjoint_right]
    exact hnew
  have hof : ∀ (first middle rest : History) (kind : Call.Kind),
      History.of (first ++ (middle ++ rest)) kind
        = History.of first kind ++ (History.of middle kind ++ History.of rest kind) := by
    intro first middle rest kind
    rw [History.of_append, History.of_append]
  have hofLock := of_noted_lock hlock
  have hofRelease := of_noted_release hrelease
  refine ⟨fun _ => ?_, ?_, fun _ => ⟨coins, outcome, ?_, ?_⟩, fun hnone => ?_⟩
  · rw [lockSetAfter_append, lockSetAfter_append, hlocked, hfund,
      lockSetAfter_noted (by simp [Call.kind]), lockSetAfter_of_releases hrelease hkept, hrestored]
  · refine List.forall_mem_append.2 ⟨?_, List.forall_mem_append.2 ⟨?_, List.forall_mem_append.2
      ⟨?_, ?_⟩⟩⟩
    · intro x hx coin hcoin
      rw [(all_noted_lock hlock x hx).2] at hcoin
      exact absurd hcoin (Set.notMem_empty coin)
    · exact List.forall_mem_singleton.2 fun coin hcoin => absurd hcoin (Set.notMem_empty coin)
    · intro x hx coin hcoin
      exact hnew coin (namedCoins_of_releases hrelease x hx coin hcoin)
    · exact List.forall_mem_singleton.2 fun coin hcoin => absurd hcoin (Set.notMem_empty coin)
  · rw [hof, hofLock.1, hofRelease.1]
    rfl
  · rw [hof, hofLock.2, hofRelease.2]
    rfl
  · exact absurd ⟨_, List.mem_append_right _ List.mem_cons_self, skeleton, feeRate, e, rfl⟩ hnone

theorem balanced_of_fundsLocked {skeleton : Transaction} {feeRate : FeeRate}
    {result : Except Failure Transaction}
    (h : FundsLocked (sharedTraces node) skeleton feeRate made result)
    (hkeeps : KeepsLocks reserve locks made) : Balanced reserve locks made := by
  cases h with
  | notLocked hlock =>
    obtain ⟨inner, rfl, hlock⟩ := hlock
    exact balanced_of_unfunded (fun x hx => (all_noted_lock hlock x hx).1)
      (fun x hx => (all_noted_lock hlock x hx).2) (of_noted_lock hlock).2
  | funded hlock hfund =>
    obtain ⟨inner, rfl, hlock⟩ := hlock
    rcases hfund with rfl
    refine balanced_of_unfunded (List.forall_mem_append.2 ⟨?_, ?_⟩)
      (List.forall_mem_append.2 ⟨?_, ?_⟩) ?_
    · exact fun x hx => (all_noted_lock hlock x hx).1
    · refine List.forall_mem_singleton.2 ?_
      rintro ⟨tx, rate, e, hfailed⟩
      cases hfailed
    · exact fun x hx => (all_noted_lock hlock x hx).2
    · exact List.forall_mem_singleton.2 rfl
    · rw [History.of_append, (of_noted_lock hlock).2]
      rfl
  | notFunded hlock hfund hrelease =>
    obtain ⟨inner, rfl, hlock⟩ := hlock
    rcases hfund with rfl
    obtain ⟨last, rfl, hrelease⟩ := hrelease
    exact balanced_of_notFunded hlock hrelease hkeeps

/-! ## Whole runs -/

theorem idle_of_onlyAsks {x : Exchange} (h : OnlyAsks node x) : Idle x := by
  obtain ⟨method, params, reply, rfl, hmethod⟩ := h
  refine ⟨by simp [Call.kind], fun hlock => ?_⟩
  cases hlock
  simp at hmethod

theorem allBegin_idle : AllBegin (sharedTraces node) Idle where
  runesIndexed := Trace.all_oneCall fun _ => ⟨by simp [Call.kind], by simp [Exchange.method?]⟩
  chainHeight := Trace.all_oneCall fun _ => ⟨by simp [Call.kind], by simp [Exchange.method?]⟩
  lookup _ := Trace.all_oneCall fun _ => ⟨by simp [Call.kind], by simp [Exchange.method?]⟩
  changeScript _ _ h x hx := idle_of_onlyAsks (h x hx)
  network _ _ h x hx := idle_of_onlyAsks (h x hx)

theorem idle_sign (tx : Transaction) : ((sharedTraces node).sign tx).All Idle :=
  Trace.all_oneCall fun _ => ⟨by simp [Call.kind], by simp [Exchange.method?]⟩

theorem idle_broadcast (tx : Transaction) : ((sharedTraces node).broadcast tx).All Idle :=
  Trace.all_oneCall fun _ => ⟨by simp [Call.kind], by simp [Exchange.method?]⟩

theorem balanced_of_funds {request : MintRequest} {targetPostage : Postage}
    {result : Except Stopped Funded}
    (h : Funds (sharedTraces node) request targetPostage made result)
    (hkeeps : KeepsLocks reserve locks made) : Balanced reserve locks made := by
  have hbehind : ∀ {first rest : History} {skeleton : Transaction} {begun}
      {result : Except Failure Transaction},
      Begins (sharedTraces node) request targetPostage first begun →
      FundsLocked (sharedTraces node) skeleton request.feeRate rest result →
      KeepsLocks reserve locks (first ++ rest) → Balanced reserve locks (first ++ rest) := by
    intro first rest skeleton begun result hbegins hlocked hkeeps
    -- Everything before locking is idle, so the locks are still those of the start.
    have hidle := all_begins allBegin_idle request targetPostage first _ hbegins
    have hrest := hkeeps.right
    rw [lockSetAfter_of_idle hidle] at hrest
    rw [← List.append_nil rest]
    exact (balanced_of_fundsLocked hlocked hrest).among hidle (by simp)
  cases h with
  | notBegun hbegins =>
    have hidle := all_begins allBegin_idle request targetPostage made _ hbegins
    exact balanced_of_unfunded (fun x hx => not_fundFailed_of_kind (hidle x hx).not_fund)
      (fun x hx => namedCoins_of_method (hidle x hx).method) (of_eq_nil_of_idle hidle (by simp))
  | unfunded hbegins hlocked => exact hbehind hbegins hlocked hkeeps
  | funded hbegins hlocked => exact hbehind hbegins hlocked hkeeps

theorem balanced_of_runs {request : MintRequest} {targetPostage : Postage}
    {result : Except Stopped Result}
    (h : Runs (sharedTraces node) request targetPostage made result)
    (hkeeps : KeepsLocks reserve locks made) : Balanced reserve locks made := by
  have hnone : ∀ x ∈ ([] : History), Idle x := by simp
  cases h with
  | unfunded hfunds => exact balanced_of_funds hfunds hkeeps
  | unsigned hfunds hsigned =>
    exact (balanced_of_funds hfunds hkeeps.left).among hnone (idle_sign _ _ _ hsigned)
  | mismatch hfunds hsigned _ =>
    exact (balanced_of_funds hfunds hkeeps.left).among hnone (idle_sign _ _ _ hsigned)
  | refused hfunds hsigned _ hrelayed =>
    exact (balanced_of_funds hfunds hkeeps.left).among hnone
      (List.forall_mem_append.2 ⟨idle_sign _ _ _ hsigned, idle_broadcast _ _ _ hrelayed⟩)
  | minted hfunds hsigned _ hrelayed =>
    exact (balanced_of_funds hfunds hkeeps.left).among hnone
      (List.forall_mem_append.2 ⟨idle_sign _ _ _ hsigned, idle_broadcast _ _ _ hrelayed⟩)

end

/-! ## Sessions -/

/-- One run of someone who shares the wallet: the surroundings, the connection to the node, and what
is to be minted. -/
structure Turn where
  around : Behaviour
  node : Node
  targetPostage : Postage
  memory : NetworkMemory
  request : MintRequest
  /-- Is the mint to be relayed, or only prepared? -/
  relays : Bool

/-- What a run calls behind all that was called before. -/
def Turn.exchanges (turn : Turn) (history : History) : History :=
  let mint := sharing turn.around turn.node turn.targetPostage
  if turn.relays then made (mint.run turn.request) ⟨history, turn.memory⟩
  else made (mint.prepare turn.request) ⟨history, turn.memory⟩

/-- Everything that was called when all runs have ended, one after the other. -/
def session (history : History) : List Turn → History
  | [] => history
  | turn :: rest => session (history ++ turn.exchanges history) rest

theorem session_append (history : History) (first rest : List Turn) :
    session history (first ++ rest) = session (session history first) rest := by
  induction first generalizing history with
  | nil => rfl
  | cons turn more ih => exact ih _

theorem exists_session (history : History) (turns : List Turn) :
    ∃ more, session history turns = history ++ more := by
  induction turns generalizing history with
  | nil => exact ⟨[], (List.append_nil _).symm⟩
  | cons turn rest ih =>
    obtain ⟨more, hmore⟩ := ih (history ++ turn.exchanges history)
    exact ⟨turn.exchanges history ++ more, by rw [session, hmore, List.append_assoc]⟩

section

variable {reserve : Transaction → Set Coin} {locks : Set Coin}

/-- One run does not upset the locks. -/
theorem balanced_exchanges (turn : Turn) {history : History}
    (h : KeepsLocks reserve locks (turn.exchanges history)) :
    Balanced reserve locks (turn.exchanges history) := by
  have hfollows := follows_sharing turn.around turn.node turn.targetPostage
  unfold Turn.exchanges at h ⊢
  cases hrelays : turn.relays with
  | true =>
    rw [hrelays] at h
    exact balanced_of_runs ((leads_run hfollows turn.request).made ⟨history, turn.memory⟩).2 h
  | false =>
    rw [hrelays] at h
    have hprepares := ((leads_prepare hfollows turn.request).made ⟨history, turn.memory⟩).2
    obtain ⟨funded, hfunds⟩ := funds_of_prepares hprepares
    exact balanced_of_funds hfunds h

/-- What a run does to the locks that were held when it started: whatever goes wrong in it, it
releases the coins that it locked if funding failed, and never any others. -/
structure Restores (reserve : Transaction → Set Coin) (locks : Set Coin) (made : History) :
    Prop extends Balanced reserve locks made where
  /-- What was locked stays locked all the time. -/
  kept : ∀ before after, made = before ++ after → locks ⊆ lockSetAfter reserve locks before

theorem Balanced.restores {made : History} (h : Balanced reserve locks made) :
    Restores reserve locks made where
  toBalanced := h
  kept before after hmade := by
    refine subset_lockSetAfter (Set.Subset.refl locks) fun x hx => h.spared x ?_
    rw [hmade]
    exact List.mem_append_left _ hx

/-- However many runs share a wallet that keeps its locks, each of them restores the locks if its
funding fails, and releases no coin that was locked when it started. -/
theorem session_restores {turns : List Turn} (h : KeepsLocks reserve locks (session [] turns))
    {before after : List Turn} {turn : Turn} (hturns : turns = before ++ turn :: after) :
    Restores reserve (lockSetAfter reserve locks (session [] before))
      (turn.exchanges (session [] before)) := by
  obtain ⟨more, hmore⟩ :=
    exists_session (session [] before ++ turn.exchanges (session [] before)) after
  have hsession : session [] turns
      = session [] before ++ (turn.exchanges (session [] before) ++ more) := by
    rw [hturns, session_append, session, hmore, List.append_assoc]
  rw [hsession] at h
  exact (balanced_exchanges turn h.right.left).restores

end

/-! ## Two turns at one wallet -/

/-- What the node replies. Its coin with runes is locked and released in turn. -/
def sharedReplies (history : History) (method : String) : Option Http.Response :=
  if method = "listlockunspent" then
    let calls := history.filter (·.method? = some "lockunspent")
    replyOf ("[" ++ (if calls.length % 2 = 1 then runicText else "") ++ "]")
  else localReplies history method

/-- Nothing fails but funding, if it is to fail. -/
def sharedAnswers (funds : Bool) (history : History) : (call : Call) → call.Answer
  | .fund tx _ => if funds then .ok tx else .error (.funding (.transport .unreachable))
  | .post call => sharedReplies history call.method
  | call => localAnswers history call

/-- A prepared mint that is not funded. -/
def unfundedTurn : Turn :=
  ⟨sharedAnswers false, localNode, .sats 10000, none, openRequest, false⟩

/-- A mint that is. -/
def fundedTurn : Turn :=
  ⟨sharedAnswers true, localNode, .sats 20000, none, openRequest, true⟩

theorem keepsLocks_twoTurns :
    KeepsLocks (fun _ => ∅) ∅ (session [] [unfundedTurn, fundedTurn]) := by
  have hchecked : (listsAll [] (session [] [unfundedTurn, fundedTurn])
      && (session [] [unfundedTurn, fundedTurn]).all isPlain) = true := by
    decide +kernel
  rw [Bool.and_eq_true, List.all_eq_true] at hchecked
  have hkeeps := keepsLocks_of_truthful (by simp) hchecked.2 (truthful_of_listsAll hchecked.1)
  have hnone : {coin | coin ∈ ([] : List Coin)} = ∅ := Set.eq_empty_of_forall_notMem (by simp)
  rw [hnone] at hkeeps
  exact hkeeps

/-- The prepared mint locks the coin and releases it; the mint behind it locks it again. -/
theorem session_twoTurns :
    KeepsLocks (fun _ => ∅) ∅ (session [] [unfundedTurn, fundedTurn])
      ∧ ((unfundedTurn.exchanges []).filter (·.method? = some "lockunspent")).length = 2
      ∧ Restores (fun _ => ∅) ∅ (unfundedTurn.exchanges [])
      ∧ Restores (fun _ => ∅) (lockSetAfter (fun _ => ∅) ∅ (unfundedTurn.exchanges []))
        (fundedTurn.exchanges (unfundedTurn.exchanges [])) :=
  ⟨keepsLocks_twoTurns, by decide +kernel,
    session_restores keepsLocks_twoTurns
      (show [unfundedTurn, fundedTurn] = [] ++ unfundedTurn :: [fundedTurn] from rfl),
    session_restores keepsLocks_twoTurns
      (show [unfundedTurn, fundedTurn] = [unfundedTurn] ++ fundedTurn :: [] from rfl)⟩

end Runesmith.Mint
