import Runesmith.Proofs.Wallet.Locking

/-!
# The locks of a wallet

A wallet of the node is a set of locked coins. Calls that lock coins add them to it when the node
says that this worked, calls that release coins take them out, and other calls leave it alone. A
wallet is truthful if it lists the coins that are in the set.
-/

namespace Runesmith.NodeWallet

/-! ## Coins among others -/

/-- Among these coins is this one, or one that counts as the same. -/
def Held (locks : List Coin) (coin : Coin) : Prop :=
  ∃ other ∈ locks, other = coin ∨ coin.same other = true

theorem held_append {first rest : List Coin} {coin : Coin} :
    Held (first ++ rest) coin ↔ Held first coin ∨ Held rest coin := by
  unfold Held
  constructor
  · rintro ⟨other, hmem, hother⟩
    rcases List.mem_append.1 hmem with hmem | hmem
    · exact .inl ⟨other, hmem, hother⟩
    · exact .inr ⟨other, hmem, hother⟩
  · rintro (⟨other, hmem, hother⟩ | ⟨other, hmem, hother⟩)
    · exact ⟨other, List.mem_append_left _ hmem, hother⟩
    · exact ⟨other, List.mem_append_right _ hmem, hother⟩

theorem held_of_mem {locks : List Coin} {coin : Coin} (h : coin ∈ locks) : Held locks coin :=
  ⟨coin, h, .inl rfl⟩

/-- The coins in a list of parameters. -/
def coinsIn (items : List Json) : List Coin :=
  items.filterMap fun item => (Coin.ofJson item).toOption

theorem coinsIn_toJson (coins : List Coin) : coinsIn (coins.map Coin.toJson) = coins := by
  unfold coinsIn
  have hback : ∀ coin : Coin, Coin.ofJson coin.toJson = .ok coin := fun _ => rfl
  induction coins with
  | nil => rfl
  | cons coin rest ih =>
    rw [List.map_cons, List.filterMap_cons, hback, ih]
    rfl

/-! ## The set of locked coins -/

/-- The node says that it did what it was asked for. -/
def agrees (reply : Option Http.Response) : Bool :=
  match Node.reading reply with
  | .ok answer => answer.isTruthy
  | .error _ => false

/-- The locked coins after an exchange. -/
def locksBehind (locks : List Coin) (x : Exchange) : List Coin :=
  match x with
  | ⟨.post call, reply⟩ =>
    if call.method = "lockunspent" ∧ agrees reply then
      match call.params with
      | .arr [.bool false, .arr items] => locks ++ coinsIn items
      | .arr [.bool true, .arr items] => locks.filter fun coin => !(coinsIn items).any coin.same
      | _ => locks
    else locks
  | _ => locks

/-- The locked coins after all that was called. -/
def locksAfter (locks : List Coin) (history : History) : List Coin :=
  history.foldl locksBehind locks

theorem locksAfter_append (locks : List Coin) (first rest : History) :
    locksAfter locks (first ++ rest) = locksAfter (locksAfter locks first) rest :=
  List.foldl_append ..

/-- Calls of other procedures leave the locks alone. -/
theorem locksAfter_of_no_lock {locks : List Coin} {history : History}
    (h : ∀ x ∈ history, x.method? ≠ some "lockunspent") : locksAfter locks history = locks := by
  induction history with
  | nil => rfl
  | cons x rest ih =>
    rw [List.forall_mem_cons] at h
    -- The first exchange calls another procedure, if it calls the node at all.
    have hsame : locksBehind locks x = locks := by
      rcases x with ⟨call, answer⟩
      cases call with
      | post call =>
        refine if_neg fun hlock => h.1 ?_
        rw [← hlock.1]
        rfl
      | _ => rfl
    rw [locksAfter, List.foldl_cons, hsame]
    exact ih h.2

section

variable {locks : List Coin} {call : Http.Call} {reply : Option Http.Response}
  (hmethod : call.method = "lockunspent") (hagrees : agrees reply = true)

include hmethod hagrees

theorem locksBehind_lock {items : List Json}
    (hparams : call.params = .arr [.bool false, .arr items]) :
    locksBehind locks ⟨.post call, reply⟩ = locks ++ coinsIn items := by
  simp only [locksBehind, hmethod, hagrees, hparams, and_self, if_true]

theorem locksBehind_release {items : List Json}
    (hparams : call.params = .arr [.bool true, .arr items]) :
    locksBehind locks ⟨.post call, reply⟩
      = locks.filter fun coin => !(coinsIn items).any coin.same := by
  simp only [locksBehind, hmethod, hagrees, hparams, and_self, if_true]

/-- Other parameters name no coins. -/
theorem locksBehind_of_unnamed
    (hparams : ∀ unlock items, call.params ≠ .arr [.bool unlock, .arr items]) :
    locksBehind locks ⟨.post call, reply⟩ = locks := by
  simp only [locksBehind, hmethod, hagrees, and_self, if_true]
  split
  case h_1 items hlock => exact absurd hlock (hparams false items)
  case h_2 items hrelease => exact absurd hrelease (hparams true items)
  case h_3 => rfl

end

theorem locksAfter_of_locked {node : Node} {locks coins : List Coin} {made : History}
    {answer : Json} (h : node.Posts "lockunspent" (lockParams false coins) made (.ok answer))
    (htrue : answer.isTruthy = true) : locksAfter locks made = locks ++ coins := by
  rcases h with ⟨reply, rfl, hreply⟩
  have hagrees : agrees reply = true := by
    rw [agrees, ← hreply]
    exact htrue
  rw [locksAfter, List.foldl_cons, List.foldl_nil, locksBehind_lock rfl hagrees rfl, coinsIn_toJson]

/-! ## Truthful wallets -/

/-- The coins that a reply lists as locked. -/
def listedIn (reply : Option Http.Response) : Except Failure (List Coin) :=
  Node.reading reply >>= fun answer => (coinsOf answer).mapError .mismatch

/-- Whenever the node lists locked coins, these are the coins that are locked. -/
def Truthful (locks : List Coin) (made : History) : Prop :=
  ∀ before call reply after coins, made = before ++ ⟨.post call, reply⟩ :: after →
    call.method = "listlockunspent" → listedIn reply = .ok coins →
      ∀ coin : Coin, coins.any coin.same = true ↔ Held (locksAfter locks before) coin

theorem Truthful.left {locks : List Coin} {first rest : History}
    (h : Truthful locks (first ++ rest)) : Truthful locks first := by
  rintro before call reply after coins rfl
  exact h before call reply (after ++ rest) coins (by rw [List.append_assoc, List.cons_append])

theorem Truthful.right {locks : List Coin} {first rest : History}
    (h : Truthful locks (first ++ rest)) : Truthful (locksAfter locks first) rest := by
  rintro before call reply after coins rfl
  rw [← locksAfter_append]
  exact h (first ++ before) call reply after coins (List.append_assoc ..).symm

/-! ## Checking what a wallet lists -/

/-- The id and the position of a coin whose id is text. -/
def outpoint? (coin : Coin) : Option (String × Int) :=
  match coin.txid with
  | .str id => some (id, coin.vout)
  | _ => none

theorem eq_of_outpoint {a b : Coin} (h : outpoint? a = outpoint? b)
    (hsome : (outpoint? a).isSome) : a = b := by
  rcases a with ⟨x, m⟩
  rcases b with ⟨y, n⟩
  cases x <;> cases y <;> simp_all [outpoint?]

theorem same_self {coin : Coin} (h : (outpoint? coin).isSome) : coin.same coin = true := by
  rcases coin with ⟨x, n⟩
  cases x <;> simp_all [outpoint?, Coin.same, Json.same]

theorem eq_of_map_outpoint {coins locks : List Coin}
    (h : coins.map outpoint? = locks.map outpoint?)
    (hsome : ∀ coin ∈ locks, (outpoint? coin).isSome) : coins = locks := by
  induction locks generalizing coins with
  | nil => exact List.map_eq_nil_iff.1 h
  | cons coin rest ih =>
    rcases List.map_eq_cons_iff.1 h with ⟨other, more, rfl, hother, hmore⟩
    rw [List.forall_mem_cons] at hsome
    rw [eq_of_outpoint hother.symm hsome.1, ih hmore hsome.2]

/-- Whether a reply that lists locked coins lists those that are locked, in order. -/
def listsLocked (locks : List Coin) (x : Exchange) : Bool :=
  match x with
  | ⟨.post call, reply⟩ =>
    if call.method = "listlockunspent" then
      match listedIn reply with
      | .ok coins => coins.map outpoint? == locks.map outpoint?
          && locks.all fun coin => (outpoint? coin).isSome
      | .error _ => true
    else true
  | _ => true

/-- Whether a wallet lists the locked coins, in order, whenever it is asked for them. -/
def listsAll (locks : List Coin) : History → Bool
  | [] => true
  | x :: rest => listsLocked locks x && listsAll (locksBehind locks x) rest

theorem truthful_of_listsAll {locks : List Coin} {made : History}
    (h : listsAll locks made = true) : Truthful locks made := by
  intro before call reply after coins hmade hmethod hlisted coin
  -- One exchange after the other is passed until the list in question comes up.
  induction before generalizing locks made with
  | nil =>
    subst hmade
    have hlists : listsLocked locks ⟨.post call, reply⟩ = true := ((Bool.and_eq_true ..).mp h).1
    simp only [listsLocked, if_pos hmethod, hlisted, Bool.and_eq_true, beq_iff_eq,
      List.all_eq_true] at hlists
    rw [eq_of_map_outpoint hlists.1 hlists.2, List.any_eq_true]
    constructor
    · rintro ⟨other, hmem, hsame⟩
      exact ⟨other, hmem, .inr hsame⟩
    · rintro ⟨other, hmem, rfl | hsame⟩
      · exact ⟨other, hmem, same_self (hlists.2 other hmem)⟩
      · exact ⟨other, hmem, hsame⟩
  | cons x before ih =>
    subst hmade
    exact ih ((Bool.and_eq_true ..).mp h).2 rfl

end Runesmith.NodeWallet
