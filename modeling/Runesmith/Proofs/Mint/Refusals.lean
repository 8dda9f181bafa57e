import Runesmith.Mint.Connect
import Runesmith.Proofs.Failing
import Runesmith.Proofs.Completion

/-!
# Where a rune is refused

A verdict on a rune or on its runestone is what a mint finds out by itself: whatever is replied, no
call of the node, of the index server or of the wallet fails with one (`Mint.partsFail_ofContext`).

So a rune is refused by the terms of its entry and by nothing else: neither the calls
(`Mint.impartial_ofContext`) nor any stage of a mint but the one that judges the rune fails with a
refusal.
-/

namespace Runesmith

/-- A failure that is no refusal of a rune. -/
def NoRefusal (e : Failure) : Prop :=
  ∀ refusal name, e ≠ .ineligible refusal name

/-- What a mint finds out itself: that a rune is refused, or that a runestone cannot be written. -/
inductive IsVerdict : Failure → Prop where
  | ineligible (refusal : Entry.Refusal) (name : Option SpacedRune) :
      IsVerdict (.ineligible refusal name)
  | runestone (cause : Runestone.Error) : IsVerdict (.runestone cause)

/-- A failure of a call, by which nothing is said about a rune. -/
def NoVerdict (e : Failure) : Prop :=
  ¬ IsVerdict e

theorem NoVerdict.noRefusal {e : Failure} (h : NoVerdict e) : NoRefusal e := by
  rintro refusal name rfl
  exact h (.ineligible refusal name)

theorem noVerdict_of_isReported {e : Failure} (h : Node.IsReported e) : NoVerdict e := by
  cases h <;> exact nofun

/-- A conversion of a document. -/
theorem fails_shape {α : Type} (x : Except Mismatch α) :
    Fails (Action.shape x : Action Observed α) NoVerdict :=
  .convert fun _ => nofun

variable (around : Behaviour) (node : Node)

/-! ## The node -/

namespace Node

theorem fails_call (method : String) (params : Json) :
    Fails (node.call around.transport method params) NoVerdict := by
  refine .of_leads (leads_call around node method params) ?_
  rintro made e ⟨reply, -, hreading⟩
  exact noVerdict_of_isReported (reports_reading reply e hreading.symm)

theorem fails_getBlockCount : Fails (node.getBlockCount around.transport) NoVerdict :=
  .bind (fails_call around node _ _) fun _ => fails_shape _

theorem fails_lockUnspent (unlock outputs : Json) :
    Fails (node.lockUnspent around.transport unlock outputs) NoVerdict :=
  .bind (fails_call around node _ _) fun _ => .pure _

theorem noVerdict_fundingFailure (cause : RpcError) : NoVerdict (fundingFailure cause) := by
  unfold fundingFailure
  split
  · exact nofun
  · split <;> exact nofun

theorem noVerdict_broadcastFailure (cause : RpcError) : NoVerdict (broadcastFailure cause) := by
  unfold broadcastFailure
  split <;> exact nofun

theorem fails_hexJson (tx : Transaction) :
    Fails (ExceptT.mk (pure tx.hexJson) : Action Observed Json) NoVerdict := by
  refine .result fun e he => ?_
  unfold Transaction.hexJson at he
  split at he
  · cases he
  · cases he
    exact nofun

/-- The transaction of an answer is read without a verdict. -/
theorem fails_read (wrap : ReplyError → Failure) (hwrap : ∀ cause, NoVerdict (wrap cause))
    (answer : Json) :
    Fails (do
      match ← Action.shape (transactionOf answer) with
      | .ok tx => return tx
      | .error cause => throw (wrap cause) : Action Observed Transaction) NoVerdict := by
  refine .bind (fails_shape _) fun read => ?_
  split
  · exact .pure _
  · exact .throw (hwrap _)

theorem fails_fund (tx : Transaction) (feeRate : FeeRate) :
    Fails (node.fund around.transport tx feeRate) NoVerdict := by
  unfold fund
  split
  · refine .bind (fails_hexJson tx) fun hex => ?_
    refine .bind (.tryCatch (fails_call around node _ _) ?_) fun answer => ?_
    · intro e he
      split
      · exact .throw (noVerdict_fundingFailure _)
      · exact .throw nofun
      · exact .throw he
    · exact fails_read (fun cause => .funding (.reply cause)) (fun _ => nofun) answer
  · exact .throw nofun

theorem fails_sign (tx : Transaction) : Fails (node.sign around.transport tx) NoVerdict := by
  -- The answer is read in the same way whether or not missing signatures were told before.
  unfold sign
  refine .bind (fails_hexJson tx) fun hex => ?_
  refine .bind (.tryCatch (fails_call around node _ _) ?_) fun answer => ?_
  · intro e he
    split
    · exact .throw nofun
    · exact .throw nofun
    · exact .throw he
  · have hfinish := fails_read (fun cause => .signing (.reply cause)) (fun _ => nofun) answer
    refine .bind (fails_shape _) fun complete => ?_
    dsimp only
    split
    · exact .bind (fails_shape _) fun detail => .bind (.throw nofun) fun _ => hfinish
    · exact hfinish

theorem fails_broadcast (tx : Transaction) :
    Fails (node.broadcast around.transport tx) NoVerdict := by
  unfold broadcast
  refine .bind (fails_hexJson tx) fun hex => .tryCatch (fails_call around node _ _) ?_
  intro e he
  split
  · exact .throw (noVerdict_broadcastFailure _)
  · exact .throw nofun
  · exact .throw he

end Node

/-! ## The index server -/

namespace IndexServer

variable (server : IndexServer)

theorem fails_get (path : String) : Fails (get around.transport server path) NoVerdict := by
  unfold get
  refine .bind .ask fun reply => ?_
  split
  · exact .throw nofun
  · dsimp only
    split
    · exact .pure _
    · split
      · exact .bind (.throw nofun) fun _ => .pure _
      · exact .pure _

theorem fails_getJson (path : String) : Fails (getJson around.transport server path) NoVerdict := by
  unfold getJson
  refine .bind (fails_get around server path) fun found => ?_
  split
  · exact .pure _
  · split
    · exact .pure _
    · exact .throw nofun

theorem fails_runesIndexed : Fails (runesIndexed around.transport server) NoVerdict := by
  unfold runesIndexed
  refine .bind (fails_getJson around server _) fun status => ?_
  split
  · exact .pure _
  · exact .throw nofun

theorem noVerdict_of_readRune {rune : SpacedRune} {payload : Json} {e : Failure}
    (h : readRune rune payload = .error e) : NoVerdict e := by
  -- Each of the four conversions names its own failure, by what went wrong in it.
  unfold readRune at h
  dsimp only at h
  rcases error_of_bind h with h | ⟨id, -, h⟩
  · obtain ⟨cause, -, rfl⟩ := error_of_mapError h
    split <;> exact nofun
  rcases error_of_bind h with h | ⟨runeId, -, h⟩
  · obtain ⟨cause, -, rfl⟩ := error_of_mapError h
    exact nofun
  rcases error_of_bind h with h | ⟨data, -, h⟩
  · obtain ⟨cause, -, rfl⟩ := error_of_mapError h
    split <;> exact nofun
  rcases error_of_bind h with h | ⟨entry, -, h⟩
  · obtain ⟨cause, -, rfl⟩ := error_of_mapError h
    split
    · split <;> exact nofun
    · exact nofun
  · cases h

theorem fails_lookup (rune : SpacedRune) :
    Fails (lookup around.transport server rune) NoVerdict := by
  unfold lookup
  refine .bind (fails_getJson around server _) fun payload => ?_
  split
  · exact .pure _
  · exact .bind (.result fun e => noVerdict_of_readRune) fun found => .pure _

theorem fails_coinInfo (coin : Coin) : Fails (coinInfo around.transport server coin) NoVerdict := by
  unfold coinInfo
  refine .bind (fails_getJson around server _) fun info => ?_
  split
  · exact .throw nofun
  · exact .pure _
  · exact .throw nofun

end IndexServer

/-! ## The wallet -/

namespace NodeWallet

variable {index : Index Observed} (hcoinInfo : ∀ coin, Fails (index.coinInfo coin) NoVerdict)

include hcoinInfo in
theorem fails_nonCardinal (locked : List Coin) (items : List Json) :
    Fails (nonCardinal ⟨node, index⟩ locked items) NoVerdict := by
  -- By induction on what the node lists: a coin is passed over, or the index is asked about it.
  induction items with
  | nil => exact .pure _
  | cons item rest ih =>
    unfold nonCardinal
    refine .bind (fails_shape _) fun coin => ?_
    split
    · exact ih
    · exact .bind (hcoinInfo coin) fun info => .bind (fails_shape _) fun cardinal =>
        .bind ih fun more => .pure _

theorem fails_lock (coins : List Coin) :
    Fails (lock around.transport ⟨node, index⟩ coins) NoVerdict := by
  unfold lock
  refine .tryCatch (Node.fails_lockUnspent around node _ _) fun e he => ?_
  split
  · exact .throw nofun
  · exact .throw he

include hcoinInfo in
theorem fails_lockNonCardinal :
    Fails (lockNonCardinal around.transport ⟨node, index⟩) NoVerdict := by
  unfold lockNonCardinal
  refine .bind (Node.fails_call around node _ _) fun listed => .bind (fails_shape _) fun locked =>
    .bind (Node.fails_call around node _ _) fun unspent => .bind (fails_shape _) fun items =>
    .bind (fails_nonCardinal node hcoinInfo locked items) fun coins => ?_
  dsimp only
  split
  · exact .pure _
  · refine .bind (fails_lock around node coins) fun done => ?_
    split
    · exact .bind (.throw nofun) fun _ => .pure _
    · exact .pure _

theorem fails_release (coins : List Coin) :
    Fails (release around.transport ⟨node, index⟩ coins) NoVerdict := by
  unfold release
  dsimp only
  split
  · exact .pure _
  · refine .bind (Node.fails_lockUnspent around node _ _) fun done => ?_
    split
    · exact .throw nofun
    · exact .pure _

theorem noVerdict_of_networkOf {info : Json} {e : Failure} (h : networkOf info = .error e) :
    NoVerdict e := by
  unfold networkOf at h
  rcases error_of_bind h with h | ⟨chain, -, h⟩
  · obtain ⟨cause, -, rfl⟩ := error_of_mapError h
    exact nofun
  split at h
  · split at h
    · cases h
    · cases h
      exact nofun
  · dsimp only at h
    split at h <;> cases h <;> exact nofun

theorem fails_network : Fails (network around.transport ⟨node, index⟩) NoVerdict := by
  unfold network
  refine .bind .getMemory fun memory => ?_
  split
  · exact .pure _
  · exact .bind (Node.fails_call around node _ _) fun info =>
      .bind (.result fun e => noVerdict_of_networkOf) fun found => .bind .setMemory fun _ => .pure _

theorem noVerdict_of_addressOf {answer : Json} {e : Failure} (h : addressOf answer = .error e) :
    NoVerdict e := by
  unfold addressOf at h
  split at h
  · obtain ⟨cause, -, rfl⟩ := error_of_mapError h
    exact nofun
  · obtain ⟨cause, -, rfl⟩ := error_of_mapError h
    exact nofun
  · cases h
    exact nofun

theorem fails_changeScript : Fails (changeScript around.transport ⟨node, index⟩) NoVerdict := by
  unfold changeScript
  exact .bind (Node.fails_call around node _ _) fun answer =>
    .bind (.result fun e => noVerdict_of_addressOf) fun address =>
    .bind (fails_network around node) fun found => .bind (.convert fun _ => nofun) fun _ => .pure _

end NodeWallet

/-! ## The stages of a mint -/

namespace Mint

/-- Those that a mint works with fail in certain ways only. -/
structure PartsFail (mint : Mint Observed) (p : Failure → Prop) : Prop where
  runesIndexed : Fails mint.index.runesIndexed p
  chainHeight : Fails mint.index.chainHeight p
  lookup : ∀ rune, Fails (mint.index.lookup rune) p
  lockNonCardinal : Fails mint.wallet.lockNonCardinal p
  release : ∀ coins, Fails (mint.wallet.release coins) p
  changeScript : Fails mint.wallet.changeScript p
  network : Fails mint.wallet.network p
  fund : ∀ tx feeRate, Fails (mint.node.fund tx feeRate) p
  sign : ∀ tx, Fails (mint.node.sign tx) p
  broadcast : ∀ tx, Fails (mint.node.broadcast tx) p

theorem PartsFail.mono {mint : Mint Observed} {p q : Failure → Prop} (h : PartsFail mint q)
    (hq : ∀ e, q e → p e) : PartsFail mint p where
  runesIndexed := h.runesIndexed.mono hq
  chainHeight := h.chainHeight.mono hq
  lookup rune := (h.lookup rune).mono hq
  lockNonCardinal := h.lockNonCardinal.mono hq
  release coins := (h.release coins).mono hq
  changeScript := h.changeScript.mono hq
  network := h.network.mono hq
  fund tx feeRate := (h.fund tx feeRate).mono hq
  sign tx := (h.sign tx).mono hq
  broadcast tx := (h.broadcast tx).mono hq

/-- Over a connection nobody gives a verdict on a rune, whatever is replied. -/
theorem partsFail_ofContext (context : MintContext) (config : RpcConfig) :
    PartsFail (ofContext around.transport context config) NoVerdict where
  runesIndexed := IndexServer.fails_runesIndexed around _
  chainHeight := Node.fails_getBlockCount around _
  lookup := IndexServer.fails_lookup around _
  lockNonCardinal := NodeWallet.fails_lockNonCardinal around _ (IndexServer.fails_coinInfo around _)
  release := NodeWallet.fails_release around _
  changeScript := NodeWallet.fails_changeScript around _
  network := NodeWallet.fails_network around _
  fund := Node.fails_fund around _
  sign := Node.fails_sign around _
  broadcast := Node.fails_broadcast around _

/-- None of those that a mint works with fails with a refusal. -/
abbrev Impartial (mint : Mint Observed) : Prop :=
  PartsFail mint NoRefusal

theorem impartial_ofContext (context : MintContext) (config : RpcConfig) :
    Impartial (ofContext around.transport context config) :=
  (partsFail_ofContext around context config).mono fun _ => NoVerdict.noRefusal

theorem noRefusal_of_skeleton {script destination : Bytes} {postage : Postage} {e : Failure}
    (h : Transaction.skeleton script destination postage = .error e) : NoRefusal e := by
  rcases Transaction.skeleton_eq_error h with ⟨cause, rfl⟩ | ⟨-, rfl⟩
  · exact nofun
  · exact nofun

section

variable {mint : Mint Observed} {p : Failure → Prop} (h : PartsFail mint p)

include h

theorem fails_releaseAfterFailure (coins : List Coin) :
    Fails (mint.releaseAfterFailure coins) p := by
  refine .tryCatch (h.release coins) fun e he => ?_
  split
  · exact .pure _
  · exact .pure _
  · exact .pure _
  · exact .throw he

theorem fails_fundLocked (skeleton : Transaction) (feeRate : FeeRate) :
    Fails (mint.fundLocked skeleton feeRate) p :=
  .bind h.lockNonCardinal fun coins => .tryCatch (h.fund skeleton feeRate) fun _ he =>
    .bind (fails_releaseAfterFailure h coins) fun _ => .throw he

variable (hp : ∀ e, NoVerdict e → p e)

include hp

theorem fails_checkIndex : Fails mint.checkIndex p := by
  unfold checkIndex
  refine .bind h.runesIndexed fun indexed => ?_
  split
  · exact .throw (hp _ nofun)
  · exact .pure _

theorem fails_destinationScript (destination : Option String) :
    Fails (mint.destinationScript destination) p := by
  cases destination with
  | none => exact h.changeScript
  | some text =>
    exact .bind (.convert fun _ => hp _ nofun) fun address => .bind h.network fun network =>
      .bind (.convert fun _ => hp _ nofun) fun _ => .pure _

/-- What is wrong with the skeleton itself depends on the script that it is for. -/
theorem fails_buildSkeleton (request : MintRequest) {script : Bytes}
    (hskeleton : ∀ destination postage e,
      Transaction.skeleton script destination postage = .error e → p e) :
    Fails (mint.buildSkeleton request script) p :=
  .bind (fails_destinationScript h hp request.destination) fun destination =>
    .result (hskeleton destination _)

theorem fails_broadcastChecked (runestone : Runestone) (signed : Transaction) :
    Fails (mint.broadcastChecked runestone signed) p := by
  unfold broadcastChecked
  dsimp only
  split
  · exact h.broadcast signed
  · split <;> exact .throw (hp _ nofun)

end

end Mint

end Runesmith
