import Mathlib
import Runesmith.Proofs.Wallet.Locked

/-!
# Own locks

The locks of a wallet as a set of coins. Coins that a mint locks were not locked before
(`new_of_locks`), so that releasing them leaves the set as it was; everything else that locking
and releasing call leaves the set alone.
-/

namespace Runesmith.NodeWallet

/-! ## The set of locked coins -/

/-- The coins that an exchange locks, or releases, because the node did what it was asked for. -/
def namedCoins (unlock : Bool) (x : Exchange) : Set Coin :=
  match x with
  | ⟨.post call, reply⟩ => {coin | call.method = "lockunspent" ∧ agrees reply = true
      ∧ ∃ items, call.params = .arr [.bool unlock, .arr items] ∧ coin ∈ coinsIn items}
  | _ => ∅

/-- The coins that are locked because a transaction that spends them was funded. -/
def reservedCoins (reserve : Transaction → Set Coin) (x : Exchange) : Set Coin :=
  match x with
  | ⟨.fund _ _, .ok tx⟩ => reserve tx
  | _ => ∅

/-- The locked coins behind an exchange. -/
def lockSetBehind (reserve : Transaction → Set Coin) (locks : Set Coin) (x : Exchange) : Set Coin :=
  (locks ∪ namedCoins false x ∪ reservedCoins reserve x) \ namedCoins true x

/-- The locked coins after all that was called. -/
def lockSetAfter (reserve : Transaction → Set Coin) (locks : Set Coin) (history : History) :
    Set Coin :=
  history.foldl (lockSetBehind reserve) locks

/-- A wallet that keeps a set of locked coins: it locks and releases whatever it is asked to, and
lists the coins in the set. -/
structure KeepsLocks (reserve : Transaction → Set Coin) (locks : Set Coin) (made : History) :
    Prop where
  agrees : ∀ call reply, ⟨.post call, reply⟩ ∈ made → call.method = "lockunspent" →
    agrees reply = true
  lists : ∀ before call reply after coins, made = before ++ ⟨.post call, reply⟩ :: after →
    call.method = "listlockunspent" → listedIn reply = .ok coins → ∀ coin : Coin,
      coins.any coin.same = true
        ↔ ∃ other ∈ lockSetAfter reserve locks before, other = coin ∨ coin.same other = true

section

variable {reserve : Transaction → Set Coin} {locks : Set Coin} {first rest made : History}

theorem lockSetAfter_append : lockSetAfter reserve locks (first ++ rest)
    = lockSetAfter reserve (lockSetAfter reserve locks first) rest :=
  List.foldl_append ..

theorem KeepsLocks.left (h : KeepsLocks reserve locks (first ++ rest)) :
    KeepsLocks reserve locks first where
  agrees call reply hmem := h.agrees call reply (List.mem_append_left _ hmem)
  lists before call reply after coins hmade := by
    refine h.lists before call reply (after ++ rest) coins ?_
    rw [hmade, List.append_assoc, List.cons_append]

theorem KeepsLocks.right (h : KeepsLocks reserve locks (first ++ rest)) :
    KeepsLocks reserve (lockSetAfter reserve locks first) rest where
  agrees call reply hmem := h.agrees call reply (List.mem_append_right _ hmem)
  lists before call reply after coins hmade := by
    rw [← lockSetAfter_append]
    refine h.lists (first ++ before) call reply after coins ?_
    rw [hmade, List.append_assoc]

/-! ## What leaves the set alone -/

/-- An exchange without a transaction that was funded and without a call about locks. -/
structure Idle (x : Exchange) : Prop where
  kind : x.call.kind ∉ [Call.Kind.fund, .lockNonCardinal, .release]
  method : x.method? ≠ some "lockunspent"

theorem namedCoins_of_method {unlock : Bool} {x : Exchange}
    (h : x.method? ≠ some "lockunspent") : namedCoins unlock x = ∅ := by
  rcases x with ⟨call, answer⟩
  cases call with
  | post call =>
    rw [Set.eq_empty_iff_forall_notMem]
    rintro coin ⟨hmethod, -⟩
    apply h
    rw [← hmethod]
    rfl
  | _ => rfl

theorem reservedCoins_of_kind {x : Exchange} (h : x.call.kind ≠ .fund) :
    reservedCoins reserve x = ∅ := by
  rcases x with ⟨call, answer⟩
  cases call with
  | fund tx feeRate => exact absurd rfl h
  | _ => rfl

theorem lockSetBehind_of_unnamed {x : Exchange} (hkind : reservedCoins reserve x = ∅)
    (hmethod : x.method? ≠ some "lockunspent") : lockSetBehind reserve locks x = locks := by
  rw [lockSetBehind, namedCoins_of_method hmethod, namedCoins_of_method hmethod, hkind,
    Set.union_empty, Set.union_empty, Set.sdiff_empty]

theorem lockSetAfter_of_no_lock (hkind : ∀ x ∈ made, x.call.kind ≠ .fund)
    (hmethod : ∀ x ∈ made, x.method? ≠ some "lockunspent") :
    lockSetAfter reserve locks made = locks := by
  induction made with
  | nil => rfl
  | cons x rest ih =>
    rw [List.forall_mem_cons] at hkind hmethod
    have hsame : lockSetBehind reserve locks x = locks :=
      lockSetBehind_of_unnamed (reservedCoins_of_kind hkind.1) hmethod.1
    rw [lockSetAfter, List.foldl_cons, hsame]
    exact ih hkind.2 hmethod.2

theorem Idle.not_fund {x : Exchange} (h : Idle x) : x.call.kind ≠ .fund := by
  intro hfund
  exact h.kind (by simp [hfund])

theorem lockSetAfter_of_idle (h : ∀ x ∈ made, Idle x) : lockSetAfter reserve locks made = locks :=
  lockSetAfter_of_no_lock (fun x hx => (h x hx).not_fund) fun x hx => (h x hx).method

/-- Coins stay locked as long as no call releases one of them. -/
theorem subset_lockSetAfter {kept : Set Coin} (hlocks : kept ⊆ locks)
    (h : ∀ x ∈ made, ∀ coin ∈ namedCoins true x, coin ∉ kept) :
    kept ⊆ lockSetAfter reserve locks made := by
  -- The set grows and shrinks behind every exchange, so it varies in the induction.
  induction made generalizing locks with
  | nil => exact hlocks
  | cons x rest ih =>
    rw [List.forall_mem_cons] at h
    refine ih ?_ h.2
    intro coin hcoin
    exact ⟨.inl (.inl (hlocks hcoin)), fun hreleased => h.1 coin hreleased hcoin⟩

end

/-! ## Locking -/

section

variable {node : Node} {reserve : Transaction → Set Coin} {locks : Set Coin} {made : History}
  {coins : List Coin}

theorem namedCoins_lockParams (unlock other : Bool) {reply : Option Http.Response}
    (hagrees : agrees reply = true) :
    namedCoins other ⟨.post (node.request "lockunspent" (lockParams unlock coins)), reply⟩
      = {coin | other = unlock ∧ coin ∈ coins} := by
  ext coin
  constructor
  · rintro ⟨-, -, items, hparams, hcoin⟩
    cases hparams
    rw [coinsIn_toJson] at hcoin
    exact ⟨rfl, hcoin⟩
  · rintro ⟨rfl, hcoin⟩
    refine ⟨rfl, hagrees, _, rfl, ?_⟩
    rw [coinsIn_toJson]
    exact hcoin

/-- Judging returns no coin that is among the locked ones. -/
theorem free_of_judges {locked : List Coin} {items : List Json}
    (h : Judges locked items made (.ok coins)) : ∀ coin ∈ coins, locked.any coin.same = false := by
  generalize hresult : Except.ok coins = result at h
  induction h generalizing coins with
  | nil =>
    cases hresult
    simp
  | misread => cases hresult
  | skipped _ _ _ ih => exact ih hresult
  | unknown => cases hresult
  | misjudged => cases hresult
  | cardinal _ _ _ _ ih => exact ih hresult
  | @carrying _ _ _ _ _ outcome _ hfree _ _ ih =>
    cases outcome with
    | error => cases hresult
    | ok more =>
      cases hresult
      exact List.forall_mem_cons.2 ⟨hfree, ih rfl⟩

/-- Vetting returns no coin that is locked already. -/
theorem new_of_vets (h : Vets node made (.ok coins)) (hkeeps : KeepsLocks reserve locks made) :
    ∀ coin ∈ coins, coin ∉ locks := by
  cases h with
  | @judged _ _ _ locked _ _ hlisted _ hjudges =>
    rcases hlisted with ⟨answer, ⟨reply, rfl, hreply⟩, hcoins⟩
    have hread : listedIn reply = .ok locked := by
      rw [listedIn, ← hreply]
      show (coinsOf answer).mapError _ = _
      rw [hcoins]
      rfl
    intro coin hcoin hlocked
    have hany : locked.any coin.same = true :=
      (hkeeps.lists [] _ reply _ locked rfl rfl hread coin).2 ⟨coin, hlocked, .inl rfl⟩
    rw [free_of_judges hjudges coin hcoin] at hany
    cases hany

/-- What is locked was not locked before. -/
theorem new_of_locks (h : Locks node made (.ok coins)) (hkeeps : KeepsLocks reserve locks made) :
    ∀ coin ∈ coins, coin ∉ locks := by
  cases h with
  | nothing => simp
  | locked hvets _ _ _ => exact new_of_vets hvets hkeeps.left

theorem lockSetAfter_of_vets {result : Except Failure (List Coin)} (h : Vets node made result) :
    lockSetAfter reserve locks made = locks := by
  have hkind : ∀ x ∈ made, x.call.kind ≠ .fund :=
    all_vets (by simp [Call.kind]) (by simp [Call.kind]) (by simp [Call.kind]) _ _ h
  exact lockSetAfter_of_no_lock hkind (no_lock_of_vets h)

theorem agrees_of_posts {params answer : Json} {reply : Option Http.Response}
    (h : node.Posts "lockunspent" params [⟨.post (node.request "lockunspent" params), reply⟩]
      (.ok answer)) (htrue : answer.isTruthy = true) : agrees reply = true := by
  obtain ⟨other, hmade, hreply⟩ := h
  cases hmade
  rw [agrees, ← hreply]
  exact htrue

/-- Locking adds the coins that it returns. -/
theorem lockSetAfter_of_locks (h : Locks node made (.ok coins)) :
    lockSetAfter reserve locks made = locks ∪ {coin | coin ∈ coins} := by
  cases h with
  | nothing h =>
    rw [lockSetAfter_of_vets h]
    simp
  | locked hvets _ h htrue =>
    obtain ⟨reply, rfl, hreply⟩ := h
    have hagrees : agrees reply = true := agrees_of_posts ⟨reply, rfl, hreply⟩ htrue
    rw [lockSetAfter_append, lockSetAfter_of_vets hvets]
    show lockSetBehind reserve locks _ = _
    rw [lockSetBehind, namedCoins_lockParams _ _ hagrees, namedCoins_lockParams _ _ hagrees,
      reservedCoins_of_kind (by simp [Call.kind])]
    simp

/-- Locking releases nothing. -/
theorem namedCoins_of_locks {result : Except Failure (List Coin)} (h : Locks node made result) :
    ∀ x ∈ made, namedCoins true x = ∅ := by
  have hvets : ∀ {first result}, Vets node first result → ∀ x ∈ first, namedCoins true x = ∅ :=
    fun hvets x hx => namedCoins_of_method (no_lock_of_vets hvets x hx)
  have hlock : ∀ {coins rest outcome},
      node.Posts "lockunspent" (lockParams false coins) rest outcome →
      ∀ x ∈ rest, namedCoins true x = ∅ := by
    rintro coins rest outcome ⟨reply, rfl, -⟩ x hx
    rw [List.mem_singleton.1 hx, Set.eq_empty_iff_forall_notMem]
    rintro coin ⟨-, -, items, hparams, -⟩
    cases hparams
  cases h with
  | unvetted h => exact hvets h
  | nothing h => exact hvets h
  | refused h _ hrefused _ => exact List.forall_mem_append.2 ⟨hvets h, hlock hrefused⟩
  | locked h _ hlocked _ => exact List.forall_mem_append.2 ⟨hvets h, hlock hlocked⟩

/-- Releasing is at most one call, about these coins. -/
theorem posts_of_releases {result : Except Failure Unit} (h : Releases node coins made result) :
    (coins = [] ∧ made = [])
      ∨ ∃ reply, made = [⟨.post (node.request "lockunspent" (lockParams true coins)), reply⟩] := by
  cases h with
  | nothing h => exact .inl ⟨h, rfl⟩
  | failed _ h =>
    obtain ⟨reply, hmade, -⟩ := h
    exact .inr ⟨reply, hmade⟩
  | refused _ h _ =>
    obtain ⟨reply, hmade, -⟩ := h
    exact .inr ⟨reply, hmade⟩
  | released _ h _ =>
    obtain ⟨reply, hmade, -⟩ := h
    exact .inr ⟨reply, hmade⟩

/-- Releasing takes out the coins that it is about. -/
theorem lockSetAfter_of_releases {result : Except Failure Unit}
    (h : Releases node coins made result) (hkeeps : KeepsLocks reserve locks made) :
    lockSetAfter reserve locks made = locks \ {coin | coin ∈ coins} := by
  rcases posts_of_releases h with ⟨rfl, rfl⟩ | ⟨reply, rfl⟩
  · simp [lockSetAfter]
  · have hagrees : agrees reply = true := hkeeps.agrees _ reply List.mem_cons_self rfl
    show lockSetBehind reserve locks _ = _
    rw [lockSetBehind, namedCoins_lockParams _ _ hagrees, namedCoins_lockParams _ _ hagrees,
      reservedCoins_of_kind (by simp [Call.kind])]
    simp

theorem namedCoins_of_releases {result : Except Failure Unit}
    (h : Releases node coins made result) :
    ∀ x ∈ made, ∀ coin ∈ namedCoins true x, coin ∈ coins := by
  rcases posts_of_releases h with ⟨rfl, rfl⟩ | ⟨reply, rfl⟩
  · simp
  · intro x hx coin hcoin
    rw [List.mem_singleton.1 hx] at hcoin
    obtain ⟨-, -, items, hparams, hitem⟩ := hcoin
    cases hparams
    rw [coinsIn_toJson] at hitem
    exact hitem

theorem kinds_of_releases {result : Except Failure Unit} (h : Releases node coins made result) :
    ∀ x ∈ made, x.call.kind = .post := by
  rcases posts_of_releases h with ⟨rfl, rfl⟩ | ⟨reply, rfl⟩
  · simp
  · simp [Call.kind]

end

/-! ## Sets and lists of locked coins -/

/-- If an exchange is about locks, the node agrees, and all ids in it are text. -/
def isPlain (x : Exchange) : Bool :=
  match x with
  | ⟨.post call, reply⟩ =>
    if call.method = "lockunspent" then
      agrees reply && match call.params with
        | .arr [.bool _, .arr items] => (coinsIn items).all fun coin => (outpoint? coin).isSome
        | _ => true
    else true
  | _ => true

section

variable {locks : List Coin} {made : History}

theorem any_same_iff_mem {coins : List Coin} (h : ∀ coin ∈ coins, (outpoint? coin).isSome)
    (coin : Coin) : coins.any coin.same = true ↔ coin ∈ coins := by
  rw [List.any_eq_true]
  constructor
  · rintro ⟨other, hmem, hsame⟩
    have heq : coin = other := by
      have hother := h other hmem
      rcases coin with ⟨id, vout⟩
      rcases other with ⟨otherId, otherVout⟩
      cases otherId <;> cases id <;>
        simp_all [outpoint?, Coin.same, Json.same, Json.sameNumber, Json.whole?]
    rw [heq]
    exact hmem
  · intro hmem
    exact ⟨coin, hmem, same_self (h coin hmem)⟩

theorem mem_namedCoins {unlock : Bool} {call : Http.Call} {reply : Option Http.Response}
    (hmethod : call.method = "lockunspent") (hagrees : agrees reply = true) {coin : Coin} :
    coin ∈ namedCoins unlock ⟨.post call, reply⟩
      ↔ ∃ items, call.params = .arr [.bool unlock, .arr items] ∧ coin ∈ coinsIn items := by
  constructor
  · rintro ⟨-, -, hitems⟩
    exact hitems
  · intro hitems
    exact ⟨hmethod, hagrees, hitems⟩

/-- With ids that are text, the set holds the coins of the list. -/
theorem lockSetBehind_eq {x : Exchange} (hlocks : ∀ coin ∈ locks, (outpoint? coin).isSome)
    (hx : isPlain x = true) :
    lockSetBehind (fun _ => ∅) {coin | coin ∈ locks} x = {coin | coin ∈ locksBehind locks x}
      ∧ ∀ coin ∈ locksBehind locks x, (outpoint? coin).isSome := by
  have hreserved : reservedCoins (fun _ => ∅) x = ∅ := by
    unfold reservedCoins
    split <;> rfl
  by_cases hmethod : x.method? = some "lockunspent"
  case neg =>
    have hone : ∀ y ∈ [x], y.method? ≠ some "lockunspent" := List.forall_mem_singleton.2 hmethod
    have hsame : locksBehind locks x = locks := locksAfter_of_no_lock hone
    rw [lockSetBehind_of_unnamed hreserved hmethod, hsame]
    exact ⟨rfl, hlocks⟩
  rcases x with ⟨call, reply⟩
  cases call with
  | post call =>
    have hcall : call.method = "lockunspent" := Option.some.inj hmethod
    simp only [isPlain, if_pos hcall, Bool.and_eq_true] at hx
    obtain ⟨hagrees, htext⟩ := hx
    have hmem : ∀ coin, coin ∈ lockSetBehind (fun _ => ∅) {coin | coin ∈ locks} ⟨.post call, reply⟩
        ↔ (coin ∈ locks
            ∨ ∃ items, call.params = .arr [.bool false, .arr items] ∧ coin ∈ coinsIn items)
          ∧ ¬ ∃ items, call.params = .arr [.bool true, .arr items] ∧ coin ∈ coinsIn items := by
      intro coin
      rw [lockSetBehind, hreserved, Set.union_empty, Set.mem_sdiff, mem_namedCoins hcall hagrees,
        Set.mem_union, mem_namedCoins hcall hagrees, Set.mem_ofPred_eq]
    split at htext
    case h_1 unlock items hparams =>
      have hitems : ∀ coin ∈ coinsIn items, (outpoint? coin).isSome := List.all_eq_true.1 htext
      simp only [hparams] at hmem
      cases unlock with
      | false =>
        rw [locksBehind_lock hcall hagrees hparams]
        refine ⟨Set.ext fun coin => (hmem coin).trans ?_, List.forall_mem_append.2 ⟨hlocks, hitems⟩⟩
        simp
      | true =>
        rw [locksBehind_release hcall hagrees hparams]
        refine ⟨Set.ext fun coin => (hmem coin).trans ?_, fun coin hcoin => ?_⟩
        · simp only [Set.mem_ofPred_eq, List.mem_filter, Bool.not_eq_true', ← Bool.not_eq_true,
            any_same_iff_mem hitems]
          simp
        · exact hlocks coin (List.mem_filter.1 hcoin).1
    case h_2 hother =>
      rw [locksBehind_of_unnamed hcall hagrees hother]
      refine ⟨Set.ext fun coin => (hmem coin).trans ?_, hlocks⟩
      have hnone : ∀ unlock, ¬ ∃ items, call.params = .arr [.bool unlock, .arr items]
          ∧ coin ∈ coinsIn items := by
        rintro unlock ⟨items, hparams, -⟩
        exact hother unlock items hparams
      rw [or_iff_left (hnone false), and_iff_left (hnone true)]
      rfl
  | _ => cases hmethod

theorem lockSetAfter_eq (hlocks : ∀ coin ∈ locks, (outpoint? coin).isSome)
    (hmade : ∀ x ∈ made, isPlain x = true) :
    lockSetAfter (fun _ => ∅) {coin | coin ∈ locks} made
      = {coin | coin ∈ locksAfter locks made} := by
  induction made generalizing locks with
  | nil => rfl
  | cons x rest ih =>
    rw [List.forall_mem_cons] at hmade
    obtain ⟨hset, htext⟩ := lockSetBehind_eq hlocks hmade.1
    rw [lockSetAfter, List.foldl_cons, hset]
    exact ih htext hmade.2

/-- A truthful wallet that does what it is asked to keeps its locks. -/
theorem keepsLocks_of_truthful (hlocks : ∀ coin ∈ locks, (outpoint? coin).isSome)
    (hmade : ∀ x ∈ made, isPlain x = true) (h : Truthful locks made) :
    KeepsLocks (fun _ => ∅) {coin | coin ∈ locks} made where
  agrees call reply hmem hmethod := by
    have hplain := hmade _ hmem
    simp only [isPlain, if_pos hmethod, Bool.and_eq_true] at hplain
    exact hplain.1
  lists before call reply after coins hsplit hmethod hlisted coin := by
    have hbefore : ∀ x ∈ before, isPlain x = true := fun x hx =>
      hmade x (by rw [hsplit]; exact List.mem_append_left _ hx)
    rw [lockSetAfter_eq hlocks hbefore]
    exact h before call reply after coins hsplit hmethod hlisted coin

end

end Runesmith.NodeWallet
