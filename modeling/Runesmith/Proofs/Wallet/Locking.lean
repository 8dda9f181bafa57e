import Runesmith.Proofs.Node

/-!
# Locking coins through the node

What the wallet of a node calls on when it locks and releases coins: it lists what is locked and
what is unspent, asks the index about one coin after the other, and locks those that it must not
spend at once (`leads_lockNonCardinal`).
-/

namespace Runesmith.NodeWallet

/-! ## Reading lists -/

/-- The coins in an answer of the node. -/
def coinsOf (answer : Json) : Except Mismatch (List Coin) :=
  answer.elements >>= List.mapM coinOf

section

variable (node : Node)

/-- The node listed the coins that are locked. -/
def ListsLocked (made : History) (locked : List Coin) : Prop :=
  ∃ answer, node.Posts "listlockunspent" .null made (.ok answer) ∧ coinsOf answer = .ok locked

/-- Any number of confirmations. -/
def unspentParams : Json := .arr [.int 0, Node.maxConfirmations]

/-- The node listed what is unspent. -/
def ListsUnspent (made : History) (items : List Json) : Prop :=
  ∃ answer, node.Posts "listunspent" unspentParams made (.ok answer)
    ∧ answer.elements = .ok items

/-! ## Judging coins -/

/-- The judging of listed coins while some are locked. -/
inductive Judges (locked : List Coin) : List Json → Trace Failure (List Coin) where
  | nil : Judges locked [] [] (.ok [])
  | misread {item : Json} {rest : List Json} {e : Mismatch} (h : coinOf item = .error e) :
      Judges locked (item :: rest) [] (.error (.mismatch e))
  | skipped {item : Json} {rest : List Json} {coin : Coin} {made : History}
      {result : Except Failure (List Coin)} (hcoin : coinOf item = .ok coin)
      (hlocked : locked.any coin.same = true) (hrest : Judges locked rest made result) :
      Judges locked (item :: rest) made result
  | unknown {item : Json} {rest : List Json} {coin : Coin} {e : Failure}
      (hcoin : coinOf item = .ok coin) (hfree : locked.any coin.same = false) :
      Judges locked (item :: rest) [⟨.coinInfo coin, .error e⟩] (.error e)
  | misjudged {item : Json} {rest : List Json} {coin : Coin} {info : Json} {e : Mismatch}
      (hcoin : coinOf item = .ok coin) (hfree : locked.any coin.same = false)
      (h : Index.isCardinal info = .error e) :
      Judges locked (item :: rest) [⟨.coinInfo coin, .ok info⟩] (.error (.mismatch e))
  | cardinal {item : Json} {rest : List Json} {coin : Coin} {info : Json} {made : History}
      {result : Except Failure (List Coin)} (hcoin : coinOf item = .ok coin)
      (hfree : locked.any coin.same = false) (h : Index.isCardinal info = .ok true)
      (hrest : Judges locked rest made result) :
      Judges locked (item :: rest) (⟨.coinInfo coin, .ok info⟩ :: made) result
  | carrying {item : Json} {rest : List Json} {coin : Coin} {info : Json} {made : History}
      {result : Except Failure (List Coin)} (hcoin : coinOf item = .ok coin)
      (hfree : locked.any coin.same = false) (h : Index.isCardinal info = .ok false)
      (hrest : Judges locked rest made result) :
      Judges locked (item :: rest) (⟨.coinInfo coin, .ok info⟩ :: made)
        (result.map (coin :: ·))

/-- The listing and judging of all unspent coins. -/
inductive Vets : Trace Failure (List Coin) where
  | notListed {made : History} {e : Failure}
      (h : node.Posts "listlockunspent" .null made (.error e)) : Vets made (.error e)
  | misread {made : History} {answer : Json} {e : Mismatch}
      (h : node.Posts "listlockunspent" .null made (.ok answer))
      (hread : coinsOf answer = .error e) :
      Vets made (.error (.mismatch e))
  | noUnspent {first second : History} {locked : List Coin} {e : Failure}
      (hlocked : ListsLocked node first locked)
      (h : node.Posts "listunspent" unspentParams second (.error e)) :
      Vets (first ++ second) (.error e)
  | misreadUnspent {first second : History} {locked : List Coin} {answer : Json} {e : Mismatch}
      (hlocked : ListsLocked node first locked)
      (h : node.Posts "listunspent" unspentParams second (.ok answer))
      (hread : answer.elements = .error e) :
      Vets (first ++ second) (.error (.mismatch e))
  | judged {first second third : History} {locked : List Coin} {items : List Json}
      {result : Except Failure (List Coin)}
      (hlocked : ListsLocked node first locked) (hunspent : ListsUnspent node second items)
      (h : Judges locked items third result) :
      Vets (first ++ (second ++ third)) result

/-! ## Locking and releasing -/

/-- The parameters that lock coins, or release them. -/
def lockParams (unlock : Bool) (coins : List Coin) : Json :=
  .arr [.bool unlock, .arr (coins.map Coin.toJson)]

/-- The failure to lock coins, by what the call came to. -/
def lockFailure : Except Failure Json → Failure
  | .ok _ => .wallet .notLocked
  | .error (.rpc cause) => .wallet (.lockRefused cause)
  | .error failure => failure

/-- What a call that locks coins says about them. -/
def lockOutcome : Except Failure Json → Except Failure Bool
  | .ok answer => .ok answer.isTruthy
  | .error e => .error (lockFailure (.error e))

theorem ok_of_lockOutcome {outcome : Except Failure Json} {done : Bool}
    (h : .ok done = lockOutcome outcome) :
    ∃ answer, outcome = .ok answer ∧ answer.isTruthy = done := by
  cases outcome with
  | error e => cases h
  | ok answer => exact ⟨answer, rfl, (Except.ok.inj h).symm⟩

theorem error_of_lockOutcome {outcome : Except Failure Json} {e : Failure}
    (h : .error e = lockOutcome outcome) :
    e = lockFailure outcome ∧ ∀ answer, outcome ≠ .ok answer := by
  cases outcome with
  | error cause =>
    cases h
    exact ⟨rfl, fun answer hanswer => by cases hanswer⟩
  | ok answer => cases h

/-- The locking of coins that must not be spent. -/
inductive Locks : Trace Failure (List Coin) where
  | unvetted {made : History} {e : Failure} (h : Vets node made (.error e)) : Locks made (.error e)
  | nothing {made : History} (h : Vets node made (.ok [])) : Locks made (.ok [])
  | refused {first rest : History} {coins : List Coin} {outcome : Except Failure Json}
      (hvetted : Vets node first (.ok coins)) (hsome : coins ≠ [])
      (h : node.Posts "lockunspent" (lockParams false coins) rest outcome)
      (hrefused : ∀ answer, outcome = .ok answer → answer.isTruthy = false) :
      Locks (first ++ rest) (.error (lockFailure outcome))
  | locked {first rest : History} {coins : List Coin} {answer : Json}
      (hvetted : Vets node first (.ok coins)) (hsome : coins ≠ [])
      (h : node.Posts "lockunspent" (lockParams false coins) rest (.ok answer))
      (htrue : answer.isTruthy = true) : Locks (first ++ rest) (.ok coins)

/-- The release of coins: none is released without a call. -/
inductive Releases (coins : List Coin) : Trace Failure Unit where
  | nothing (h : coins = []) : Releases coins [] (.ok ())
  | failed {made : History} {e : Failure} (hsome : coins ≠ [])
      (h : node.Posts "lockunspent" (lockParams true coins) made (.error e)) :
      Releases coins made (.error e)
  | refused {made : History} {answer : Json} (hsome : coins ≠ [])
      (h : node.Posts "lockunspent" (lockParams true coins) made (.ok answer))
      (hfalse : answer.isTruthy = false) : Releases coins made (.error (.wallet .notReleased))
  | released {made : History} {answer : Json} (hsome : coins ≠ [])
      (h : node.Posts "lockunspent" (lockParams true coins) made (.ok answer))
      (htrue : answer.isTruthy = true) : Releases coins made (.ok ())

end

/-! ## The wallet does as this says -/

section

variable (around : Behaviour) (node : Node)

theorem leads_nonCardinal (locked : List Coin) (items : List Json) :
    Leads (nonCardinal ⟨node, around.index⟩ locked items) (Judges locked items) := by
  induction items with
  | nil => exact .pure .nil
  | cons item rest ih =>
    unfold nonCardinal
    refine .convert (fun e he => .misread he) fun coin hcoin => ?_
    -- A coin that is locked already is passed over without a question to the index.
    cases hlocked : locked.any coin.same with
    | true => exact ih.mono fun _ _ => .skipped hcoin hlocked
    | false =>
      have hinfo : Leads (around.index.coinInfo coin) fun made result =>
        made = [⟨.coinInfo coin, result⟩] := fun _ => ⟨_, rfl, rfl⟩
      refine hinfo.andThen ?_ fun info => ?_
      · rintro made e rfl
        exact .unknown hcoin hlocked
      refine .convert ?_ fun cardinal hcardinal => ?_
      · rintro e he first rfl
        exact .misjudged hcoin hlocked he
      cases cardinal with
      | true =>
        refine ih.andThen ?_ fun more => .pure ?_
        · rintro made e hrest first rfl
          exact .cardinal hcoin hlocked hcardinal hrest
        · rintro made hrest first rfl
          rw [List.append_nil]
          exact .cardinal hcoin hlocked hcardinal hrest
      | false =>
        refine ih.andThen ?_ fun more => .pure ?_
        · rintro made e hrest first rfl
          exact .carrying hcoin hlocked hcardinal hrest
        · rintro made hrest first rfl
          rw [List.append_nil]
          exact .carrying hcoin hlocked hcardinal hrest

theorem leads_lock (coins : List Coin) :
    Leads (lock around.transport ⟨node, around.index⟩ coins) fun made result =>
      ∃ outcome, node.Posts "lockunspent" (lockParams false coins) made outcome
        ∧ result = lockOutcome outcome := by
  refine (Node.leads_lockUnspent around node _ _).tryCatch (Q := fun e rest result =>
    rest = [] ∧ result = .error (lockFailure (.error e))) ?_ ?_ ?_
  · intro e
    cases e <;> exact .throw ⟨rfl, rfl⟩
  · rintro made done ⟨outcome, hposts, hdone⟩
    refine ⟨outcome, hposts, ?_⟩
    rcases Node.ok_of_map hdone with ⟨answer, rfl, rfl⟩
    rfl
  · rintro e first rest result ⟨outcome, hposts, he⟩ ⟨rfl, rfl⟩
    rw [List.append_nil]
    refine ⟨outcome, hposts, ?_⟩
    rw [Node.error_of_map he]
    rfl

theorem leads_lockNonCardinal :
    Leads (lockNonCardinal around.transport ⟨node, around.index⟩) (Locks node) := by
  unfold lockNonCardinal
  refine (Node.leads_call around node _ _).andThen (fun _ _ h => .unvetted (.notListed h))
    fun listed => ?_
  refine .convert ?_ fun locked hlocked => ?_
  · intro e he first hlisted
    rw [List.append_nil]
    exact .unvetted (.misread hlisted he)
  refine (Node.leads_call around node _ _).andThen ?_ fun unspent => ?_
  · intro second e hunspent first hlisted
    exact .unvetted (.noUnspent ⟨_, hlisted, hlocked⟩ hunspent)
  refine .convert ?_ fun items hitems => ?_
  · intro e he second hunspent first hlisted
    rw [List.append_nil]
    exact .unvetted (.misreadUnspent ⟨_, hlisted, hlocked⟩ hunspent he)
  refine (leads_nonCardinal around node locked items).andThen ?_ fun coins => ?_
  · intro third e hjudged second hunspent first hlisted
    exact .unvetted (.judged ⟨_, hlisted, hlocked⟩ ⟨_, hunspent, hitems⟩ hjudged)
  cases coins with
  | nil =>
    refine .pure fun third hjudged second hunspent first hlisted => ?_
    rw [List.append_nil]
    exact .nothing (.judged ⟨_, hlisted, hlocked⟩ ⟨_, hunspent, hitems⟩ hjudged)
  | cons coin rest =>
    refine (leads_lock around node (coin :: rest)).andThen ?_ fun done => ?_
    · rintro fourth e ⟨outcome, hposts, he⟩ third hjudged second hunspent first hlisted
      rw [← List.append_assoc second, ← List.append_assoc]
      rcases error_of_lockOutcome he with ⟨rfl, hnone⟩
      exact .refused (.judged ⟨_, hlisted, hlocked⟩ ⟨_, hunspent, hitems⟩ hjudged) (by simp)
        hposts fun answer hanswer => absurd hanswer (hnone answer)
    -- What the call came to is an answer here, and the answer decides.
    cases done with
    | true =>
      refine .pure ?_
      rintro fourth ⟨outcome, hposts, houtcome⟩ third hjudged second hunspent first hlisted
      rw [List.append_nil, ← List.append_assoc second, ← List.append_assoc]
      rcases ok_of_lockOutcome houtcome with ⟨answer, rfl, htrue⟩
      exact .locked (.judged ⟨_, hlisted, hlocked⟩ ⟨_, hunspent, hitems⟩ hjudged) (by simp)
        hposts htrue
    | false =>
      refine .throw ?_
      rintro fourth ⟨outcome, hposts, houtcome⟩ third hjudged second hunspent first hlisted
      rw [List.append_nil, ← List.append_assoc second, ← List.append_assoc]
      rcases ok_of_lockOutcome houtcome with ⟨answer, rfl, hfalse⟩
      refine .refused (.judged ⟨_, hlisted, hlocked⟩ ⟨_, hunspent, hitems⟩ hjudged) (by simp)
        hposts ?_
      intro other hother
      cases hother
      exact hfalse

theorem leads_release (coins : List Coin) :
    Leads (release around.transport ⟨node, around.index⟩ coins) (Releases node coins) := by
  unfold release
  cases coins with
  | nil => exact .pure (.nothing rfl)
  | cons coin rest =>
    have hsome : coin :: rest ≠ [] := by simp
    refine (Node.leads_lockUnspent around node _ _).andThen ?_ fun done => ?_
    · rintro made e ⟨outcome, hposts, houtcome⟩
      cases Node.error_of_map houtcome
      exact .failed hsome hposts
    cases done with
    | true =>
      refine .pure ?_
      rintro made ⟨outcome, hposts, houtcome⟩
      rw [List.append_nil]
      rcases Node.ok_of_map houtcome with ⟨answer, rfl, htrue⟩
      exact .released hsome hposts htrue
    | false =>
      refine .throw ?_
      rintro made ⟨outcome, hposts, houtcome⟩
      rw [List.append_nil]
      rcases Node.ok_of_map houtcome with ⟨answer, rfl, hfalse⟩
      exact .refused hsome hposts hfalse

/-! ## Other calls of the wallet -/

/-- Requests that only ask the node for addresses and for its chain. -/
def OnlyAsks (x : Exchange) : Prop :=
  ∃ method params reply, x = ⟨.post (node.request method params), reply⟩
    ∧ method ∈ ["getrawchangeaddress", "getblockchaininfo"]

theorem onlyAsks_of_posts {method : String} {params : Json} {made : History}
    {result : Except Failure Json} (h : node.Posts method params made result)
    (hmethod : method ∈ ["getrawchangeaddress", "getblockchaininfo"]) :
    ∀ x ∈ made, OnlyAsks node x := by
  rcases h with ⟨reply, rfl, -⟩
  intro x hx
  rw [List.mem_singleton.1 hx]
  exact ⟨method, params, reply, rfl, hmethod⟩

theorem leads_network :
    Leads (network around.transport ⟨node, around.index⟩) fun made _ =>
      ∀ x ∈ made, OnlyAsks node x := by
  unfold network
  refine .getMemory fun memory => ?_
  cases memory with
  | some known => exact .pure (by simp)
  | none =>
    refine .all ((Node.leads_call around node _ _).mono fun _ _ hposts =>
      onlyAsks_of_posts node hposts (by simp)) fun info => ?_
    exact .given (by simp) fun found _ => .setMemory (.pure (by simp))

theorem leads_changeScript :
    Leads (changeScript around.transport ⟨node, around.index⟩) fun made _ =>
      ∀ x ∈ made, OnlyAsks node x := by
  unfold changeScript
  refine .all ((Node.leads_call around node _ _).mono fun _ _ hposts =>
    onlyAsks_of_posts node hposts (by simp)) fun answer => ?_
  refine .given (by simp) fun address _ => ?_
  refine .all (leads_network around node) fun found => ?_
  exact .convert (by simp) fun checked _ => .pure (by simp)

end

end Runesmith.NodeWallet
