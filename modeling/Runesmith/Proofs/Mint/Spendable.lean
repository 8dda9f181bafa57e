import Mathlib
import Runesmith.Proofs.Mint.Guarded

/-!
# Nothing that carries runes can be spent when a mint is funded

However the index, the node and the wallet answer, as long as the wallet lists the coins that are
locked, a coin that the funding of a mint could spend is one that the index vouched for
(`spendable_vouched`). At the end there is a wallet with two coins, one of which must not be spent.
-/

namespace Runesmith.Mint

open NodeWallet

/-- Locking coins twice in a row, with nothing changed in between, locks nothing more. -/
def LocksOnce (action : Action Observed (List Coin)) (locks : List Coin) (world : World) : Prop :=
  ∀ coins, (action world).1 = .ok coins →
    Truthful locks (made action world ++ made action (action world).2) →
    Unchanged (made action world) (made action (action world).2) →
      (action (action world).2).1 = .ok []
        ∧ ∀ x ∈ made action (action world).2, x.method? ≠ some "lockunspent"

/-- However the surroundings answer, as long as the wallet lists its locked coins: what can be spent
when a mint or a prepared mint is funded was vouched for, failures of the index and of locks keep
it from being funded, and locking is done once. -/
theorem spendable_vouched (around : Behaviour) (node : Node) (targetPostage : Postage)
    (request : MintRequest) (locks : List Coin) (world : World) :
    let mint := throughNode around node targetPostage
    (Truthful locks (made (mint.run request) world) →
        Guarded node locks (made (mint.run request) world))
      ∧ (Truthful locks (made (mint.prepare request) world) →
        Guarded node locks (made (mint.prepare request) world))
      ∧ LocksOnce mint.wallet.lockNonCardinal locks world := by
  intro mint
  have hfollows := follows_throughNode around node targetPostage
  refine ⟨?_, ?_, ?_⟩
  · exact guarded_of_runs ((leads_run hfollows request).made world).2
  · rcases funds_of_prepares ((leads_prepare hfollows request).made world).2 with ⟨_, hfunds⟩
    exact guarded_of_funds hfunds
  · intro coins hcoins htruthful hunchanged
    have hfirst := (hfollows.lockNonCardinal.made world).2
    have hsecond := (hfollows.lockNonCardinal.made (mint.wallet.lockNonCardinal world).2).2
    change Locks node _ (mint.wallet.lockNonCardinal world).1 at hfirst
    rw [hcoins] at hfirst
    exact again_of_locks hfirst hsecond htruthful hunchanged

/-! ## A wallet with two coins -/

/-- A node on the same machine. -/
def localNode : Node :=
  ⟨"http://127.0.0.1:8332", .str "user", .str "password", .null⟩

def runicCoin : Coin := ⟨.str "22", 1⟩

def bareCoin : Coin := ⟨.str "33", 0⟩

/-- What the index says about the two coins. -/
def infoOf (coin : Coin) : Json :=
  .obj [("indexed", .bool true), ("inscriptions", .arr []),
    ("runes", .arr (if coin.same runicCoin then [.str "UNCOMMONGOODS"] else []))]

def replyOf (result : String) : Option Http.Response :=
  some ⟨200, "\x7b\"result\":" ++ result ++ "\x7d"⟩

def runicText : String := "\x7b\"txid\":\"22\",\"vout\":1\x7d"

def bareText : String := "\x7b\"txid\":\"33\",\"vout\":0\x7d"

/-- What the node replies. The coin with runes is locked once it was asked to lock one. -/
def localReplies (history : History) (method : String) : Option Http.Response :=
  if method = "listlockunspent" then
    replyOf ("[" ++ (if history.any (·.method? = some "lockunspent") then runicText else "") ++ "]")
  else if method = "listunspent" then replyOf ("[" ++ runicText ++ "," ++ bareText ++ "]")
  else if method = "getrawchangeaddress" then
    replyOf "\"bc1p0xlxvlhemja6c4dqv22uapctqupfhlxm9h8z3k2e72q4k9hcz7vqzk5jj0\""
  else if method = "getblockchaininfo" then replyOf "\x7b\"chain\":\"main\"\x7d"
  else replyOf "true"

/-- A rune with an open mint. -/
def openEntry : Entry where
  block := 845005
  spacedRune := ⟨⟨1000⟩, 0⟩
  divisibility := 0
  etching := ""
  mints := 3
  number := 0
  premine := 0
  burned := 0
  symbol := .null
  terms := some ⟨some 5, some 10, (none, none), (none, none)⟩
  timestamp := 0
  turbo := false

def openId : RuneId := ⟨845005, 2, by decide, by decide, by decide⟩

/-- Nothing fails. -/
def localAnswers (history : History) : (call : Call) → call.Answer
  | .runesIndexed => .ok true
  | .chainHeight => .ok 850000
  | .lookup _ => .ok (some (openId, openEntry))
  | .blockCount => .ok 850001
  | .coinInfo coin => .ok (infoOf coin)
  | .lockNonCardinal => .ok []
  | .release _ => .ok ()
  | .changeScript => .ok []
  | .network => .ok .mainnet
  | .fund tx _ => .ok tx
  | .sign tx => .ok tx
  | .broadcast _ => .ok .null
  | .get _ => none
  | .post call => localReplies history call.method
  | .sleep _ => ()

def openRequest : MintRequest where
  feeRate := ⟨Binary64.ofInt 3, by decide +kernel, by decide +kernel⟩
  rune := ⟨⟨1000⟩, 0⟩
  postage := none
  destination := none

def localMint : Mint Observed := throughNode localAnswers localNode (.sats 10000)

/-- What is called when the coin with runes is locked. -/
def lockedFirst : History :=
  [⟨.post (localNode.request "listlockunspent" .null), replyOf "[]"⟩,
    ⟨.post (localNode.request "listunspent" unspentParams),
      replyOf ("[" ++ runicText ++ "," ++ bareText ++ "]")⟩,
    ⟨.coinInfo runicCoin, .ok (infoOf runicCoin)⟩, ⟨.coinInfo bareCoin, .ok (infoOf bareCoin)⟩,
    ⟨.post (localNode.request "lockunspent" (lockParams false [runicCoin])), replyOf "true"⟩]

/-- What is called when nothing is left to be locked. -/
def lockedAgain : History :=
  [⟨.post (localNode.request "listlockunspent" .null), replyOf ("[" ++ runicText ++ "]")⟩,
    ⟨.post (localNode.request "listunspent" unspentParams),
      replyOf ("[" ++ runicText ++ "," ++ bareText ++ "]")⟩,
    ⟨.coinInfo bareCoin, .ok (infoOf bareCoin)⟩]

set_option maxRecDepth 4000 in
theorem lockNonCardinal_first :
    localMint.wallet.lockNonCardinal ⟨[], none⟩ = (.ok [runicCoin], ⟨lockedFirst, none⟩) := by
  cbv

set_option maxRecDepth 4000 in
theorem lockNonCardinal_again : localMint.wallet.lockNonCardinal ⟨lockedFirst, none⟩
    = (.ok [], ⟨lockedFirst ++ lockedAgain, none⟩) := by
  cbv

theorem replies_lockedFirst {call : Http.Call} {reply : Option Http.Response}
    (h : ⟨.post call, reply⟩ ∈ lockedFirst) : reply = localReplies [] call.method := by
  simp only [lockedFirst, List.mem_cons, List.not_mem_nil, or_false] at h
  rcases h with h | h | h | h | h <;> cases h <;> rfl

theorem replies_lockedAgain {call : Http.Call} {reply : Option Http.Response}
    (h : ⟨.post call, reply⟩ ∈ lockedAgain) : reply = localReplies lockedFirst call.method := by
  simp only [lockedAgain, List.mem_cons, List.not_mem_nil, or_false] at h
  rcases h with h | h | h <;> cases h <;> rfl

theorem infoOf_locked {coin : Coin} {answer : Except Failure Json}
    (h : ⟨.coinInfo coin, answer⟩ ∈ lockedFirst ++ lockedAgain) : answer = .ok (infoOf coin) := by
  simp only [lockedFirst, lockedAgain, List.mem_append, List.mem_cons, List.not_mem_nil,
    or_false] at h
  rcases h with (h | h | h | h | h) | h | h | h <;> cases h <;> rfl

theorem unchanged_lockedAgain : Unchanged lockedFirst lockedAgain where
  unspent call reply other hfirst hagain hmethod := by
    rw [replies_lockedFirst hfirst, replies_lockedAgain hagain, hmethod]
    rfl
  coinInfo coin answer other hfirst hagain := by
    rw [infoOf_locked (List.mem_append_left _ hfirst),
      infoOf_locked (List.mem_append_right _ hagain)]
  locked call reply hagain hmethod := by
    have hlisted : (listedIn (localReplies lockedFirst "listlockunspent")).isOk = true := by
      decide +kernel
    rw [replies_lockedAgain hagain, hmethod]
    cases hreply : listedIn (localReplies lockedFirst "listlockunspent") with
    | error e =>
      rw [hreply] at hlisted
      cases hlisted
    | ok coins => exact ⟨coins, rfl⟩

/-- The coin with runes is locked before the mint of the example is funded, and locked once. -/
theorem localMint_spendable :
    (Truthful [] (made (localMint.run openRequest) ⟨[], none⟩)
        ∧ (∃ x ∈ made (localMint.run openRequest) ⟨[], none⟩, x.call.kind = .fund)
        ∧ Guarded localNode [] (made (localMint.run openRequest) ⟨[], none⟩))
      ∧ (Truthful [] (made (localMint.prepare openRequest) ⟨[], none⟩)
        ∧ (∃ x ∈ made (localMint.prepare openRequest) ⟨[], none⟩, x.call.kind = .fund)
        ∧ Guarded localNode [] (made (localMint.prepare openRequest) ⟨[], none⟩))
      ∧ Truthful [] (lockedFirst ++ lockedAgain) ∧ Unchanged lockedFirst lockedAgain
      ∧ (localMint.wallet.lockNonCardinal ⟨lockedFirst, none⟩).1 = .ok []
      ∧ ∀ x ∈ lockedAgain, x.method? ≠ some "lockunspent" := by
  have hall := spendable_vouched localAnswers localNode (.sats 10000) openRequest [] ⟨[], none⟩
  have hrun : (listsAll [] (made (localMint.run openRequest) ⟨[], none⟩)
      && (made (localMint.run openRequest) ⟨[], none⟩).any (·.call.kind = .fund)) = true := by
    decide +kernel
  have hprepare : (listsAll [] (made (localMint.prepare openRequest) ⟨[], none⟩)
      && (made (localMint.prepare openRequest) ⟨[], none⟩).any (·.call.kind = .fund)) = true := by
    decide +kernel
  simp only [Bool.and_eq_true, List.any_eq_true, decide_eq_true_eq] at hrun hprepare
  have hrunLists := truthful_of_listsAll hrun.1
  have hprepareLists := truthful_of_listsAll hprepare.1
  have hlocks : Truthful [] (lockedFirst ++ lockedAgain) :=
    truthful_of_listsAll (by decide +kernel)
  have hfirst : made localMint.wallet.lockNonCardinal ⟨[], none⟩ = lockedFirst := by
    rw [made, lockNonCardinal_first]
    rfl
  have hagain : made localMint.wallet.lockNonCardinal ⟨lockedFirst, none⟩ = lockedAgain := by
    rw [made, lockNonCardinal_again]
    exact List.drop_left
  have honce : LocksOnce localMint.wallet.lockNonCardinal [] ⟨[], none⟩ := hall.2.2
  -- Both runs of locking have been computed, so their histories can be put in.
  unfold LocksOnce at honce
  rw [hfirst, lockNonCardinal_first, hagain] at honce
  exact ⟨⟨hrunLists, hrun.2, hall.1 hrunLists⟩, ⟨hprepareLists, hprepare.2, hall.2.1 hprepareLists⟩,
    hlocks, unchanged_lockedAgain, honce [runicCoin] rfl hlocks unchanged_lockedAgain⟩

end Runesmith.Mint
