import Mathlib
import Runesmith.Proofs.Completion
import Runesmith.Proofs.FeeRate
import Runesmith.Proofs.Mint.Spendable
import Runesmith.Proofs.Runestone.Mint
import Runesmith.Proofs.Transaction.RoundTrip

/-!
# Mints with an honest node

A node that funds a skeleton by adding inputs and outputs behind those that are there, and signs
what it funded, gets every mint as far as its transaction can be relayed: no check on the way fails,
and the transaction that is relayed pays the minted runes to the destination (`run_honest`).

* `Opens` and `Honest` say what the surroundings and the node answer;
* `begins_ok`, `funds_ok` and `signs_ok` follow a run up to the transaction that it relays.
-/

namespace Runesmith

/-- The calls of one procedure of the node. -/
def History.callsOf (history : History) (method : String) : History :=
  history.filter (·.method? = some method)

theorem History.callsOf_append (first rest : History) (method : String) :
    History.callsOf (first ++ rest) method
      = History.callsOf first method ++ History.callsOf rest method :=
  List.filter_append ..

theorem History.callsOf_eq_nil_iff {history : History} {method : String} :
    history.callsOf method = [] ↔ ∀ x ∈ history, x.method? ≠ some method := by
  simp [History.callsOf, List.filter_eq_nil_iff]

namespace Mint

/-- A mint whose node completes transactions over a connection. Its index and its wallet are called
on. -/
def throughCompletion (around : Behaviour) (node : Node) (targetPostage : Postage) :
    Mint Observed where
  index := around.index
  wallet := around.wallet
  node := node.completion around.transport
  targetPostage := targetPostage

/-! ## The surroundings of a mint that goes well -/

/-- The skeleton of a mint. -/
def skeletonOf (id : RuneId) (destination : Bytes) (postage : Int) : Transaction :=
  ⟨Transaction.currentVersion, 0, [],
    [⟨0, Runestone.mintScript id⟩, ⟨postage, destination⟩]⟩

/-- The destination of a request has this script. -/
def Receives (around : Behaviour) (destination : Bytes) : Option String → Prop
  | none => ∀ history, around history .changeScript = .ok destination
  | some text => ∀ history, ∃ address network checked, Address.ofText text = .ok address
      ∧ around history .network = .ok network ∧ address.requireNetwork network = .ok checked
      ∧ checked.script = destination

/-- The rune of a request can be minted, and the steps before funding succeed. -/
structure Opens (around : Behaviour) (request : MintRequest) (id : RuneId) (destination : Bytes) :
    Prop where
  indexed : ∀ history, around history .runesIndexed = .ok true
  mintable : ∀ history between, ∃ height entry amount, around history .chainHeight = .ok height
    ∧ around between (.lookup request.rune) = .ok (some (id, entry))
    ∧ entry.mintable height = .ok amount
  destination : Receives around destination request.destination
  locked : ∀ history, ∃ coins, around history .lockNonCardinal = .ok coins

/-- The same transaction with at least one more input, and any outputs behind those it had. -/
structure Extends (skeleton funded : Transaction) : Prop where
  version : funded.version = skeleton.version
  lockTime : funded.lockTime = skeleton.lockTime
  inputs : ∃ added, added ≠ [] ∧ funded.inputs = skeleton.inputs ++ added
  outputs : skeleton.outputs <+: funded.outputs

/-- What an input spends, and when it may. -/
def spends (input : TxIn) : OutPoint × Int :=
  (input.previous, input.sequence)

/-- The same transaction, but for what satisfies the scripts of its inputs. -/
structure Signs (funded signed : Transaction) : Prop where
  version : signed.version = funded.version
  lockTime : signed.lockTime = funded.lockTime
  inputs : signed.inputs.map spends = funded.inputs.map spends
  outputs : signed.outputs = funded.outputs

/-- An answer of the node that holds the wire form of a transaction. -/
def Holds (answer : Json) (tx : Transaction) : Prop :=
  ∃ hex, tx.toHex = .ok hex ∧ answer.member? "hex" = .ok (some (.str hex))

/-- The node answers a call by something with a property. -/
def Replies (around : Behaviour) (history : History) (node : Node) (method : String)
    (params : Json) (p : Json → Prop) : Prop :=
  ∃ answer, Node.reading (around history (.post (node.request method params))) = .ok answer
    ∧ p answer

/-- An answer that all signatures are there. -/
def IsComplete (answer : Json) : Prop :=
  ∃ complete, answer.memberOr "complete" .null = .ok complete ∧ complete.isTruthy = true

/-- The node signs a transaction whenever it is asked to. -/
def SignsHonestly (around : Behaviour) (node : Node) (funded : Transaction) : Prop :=
  ∀ history hex, funded.toHex = .ok hex → ∃ signed, Signs funded signed ∧ signed.Fits
    ∧ Replies around history node "signrawtransactionwithwallet" (Node.rawParams hex) fun answer =>
      IsComplete answer ∧ Holds answer signed

/-- The node funds a skeleton whenever it is asked to, and signs what it funded. -/
structure Honest (around : Behaviour) (node : Node) (skeleton : Transaction) : Prop where
  funds : ∀ history options, ∃ funded, Extends skeleton funded ∧ funded.Fits
    ∧ SignsHonestly around node funded
    ∧ ∀ hex, skeleton.toHex = .ok hex →
      Replies around history node "fundrawtransaction" (Node.fundParams options hex) fun answer =>
        Holds answer funded

/-! ## Where runes land -/

/-- A failure of funding, of signing, or of the check of a signed transaction. -/
inductive Trips : Failure → Prop where
  | funding (cause : FundingError) : Trips (.funding cause)
  | signing (cause : SigningError) : Trips (.signing cause)
  | encoding (expected : Runestone) (actual : Option Artifact) (rawTx : String) :
      Trips (.encodingMismatch expected actual rawTx)

/-- A transaction mints a rune, and its first output that can be spent is the one that pays the
postage to the destination. -/
structure PaysOut (id : RuneId) (destination : Bytes) (postage : Int) (tx : Transaction) :
    Prop where
  runestone : ∃ script, Runestone.encipherMint id = .ok (.ofMint id, script)
    ∧ tx.outputs[0]? = some ⟨0, script⟩
  postage : tx.outputs[1]? = some ⟨postage, destination⟩
  deciphers : Runestone.decipher tx = some (.runestone (.ofMint id))
  lands : tx.outputs.findIdx? (fun output => !Script.isOpReturn output.script) = some 1

/-- A run relays one transaction, which pays out, and only fails if the node does not relay it. -/
structure Lands (node : Node) (id : RuneId) (destination : Bytes) (postage : Int) (made : History)
    (result : Except Stopped Result) : Prop where
  untripped : ∀ stopped, result = .error stopped →
    stopped.stage = .broadcast ∧ ¬ Trips stopped.cause
  relayed : ∃ hex reply tx,
    made.callsOf "sendrawtransaction"
        = [⟨.post (node.request "sendrawtransaction" (Node.rawParams hex)), reply⟩]
      ∧ Transaction.ofHex hex = .ok tx ∧ PaysOut id destination postage tx

/-! ## What is added leaves the mint in place -/

section

variable {id : RuneId} {destination : Bytes} {postage : Int} {funded signed : Transaction}

theorem skeleton_eq {postage : Postage} (h : Script.dust destination < postage.value) :
    Transaction.skeleton (Runestone.mintScript id) destination postage
      = .ok (skeletonOf id destination postage.value) := by
  rw [skeleton_mintScript, if_neg (not_le.2 h)]
  rfl

/-- A skeleton fits where something that extends it does. -/
theorem fits_of_extends (h : Extends (skeletonOf id destination postage) funded)
    (hfits : funded.Fits) : (skeletonOf id destination postage).Fits where
  version := by rw [← h.version]; exact hfits.version
  lockTime := by rw [← h.lockTime]; exact hfits.lockTime
  inputCount := by
    show (0 : Nat) < 2 ^ 64
    decide
  inputs := by
    intro input hinput
    cases hinput
  outputCount := by
    show (2 : Nat) < 2 ^ 64
    decide
  outputs := fun output houtput => hfits.outputs output (h.outputs.subset houtput)

theorem not_ambiguous_of_inputs (h : funded.inputs ≠ []) : ¬ funded.Ambiguous :=
  fun hambiguous => h hambiguous.1

theorem Extends.inputs_ne_nil {skeleton : Transaction} (h : Extends skeleton funded) :
    funded.inputs ≠ [] := by
  obtain ⟨added, hadded, hinputs⟩ := h.inputs
  rw [hinputs]
  exact List.append_ne_nil_of_right_ne_nil _ hadded

theorem Signs.inputs_ne_nil (h : Signs funded signed) (hinputs : funded.inputs ≠ []) :
    signed.inputs ≠ [] := by
  intro hnil
  have hmap := h.inputs
  rw [hnil, List.map_nil] at hmap
  exact hinputs (List.map_eq_nil_iff.1 hmap.symm)

/-- The first two outputs decide what a transaction pays out. -/
theorem paysOut_of_prefix {tx : Transaction} (hspendable : Script.isOpReturn destination = false)
    (h : (skeletonOf id destination postage).outputs <+: tx.outputs) :
    PaysOut id destination postage tx := by
  obtain ⟨rest, houtputs⟩ := h
  have hreturn : Script.isOpReturn (Runestone.mintScript id) = true := rfl
  have hfirst : Runestone.IsFirstScript tx (Runestone.mintScript id) := by
    refine ⟨⟨_, rfl⟩, [], destination :: rest.map TxOut.script, ?_, by simp⟩
    rw [← houtputs]
    rfl
  refine ⟨⟨_, Runestone.encipherMint_eq id, ?_⟩, ?_, Runestone.decipher_of_mintScript hfirst, ?_⟩
  · rw [← houtputs]
    rfl
  · rw [← houtputs]
    rfl
  · rw [← houtputs]
    simp [skeletonOf, List.findIdx?_cons, hreturn, hspendable]

end

/-! ## Calls and their answers -/

/-- One call, answered as the surroundings answer behind some history. -/
def Asks (around : Behaviour) (call : Call) (made : History) (answer : call.Answer) : Prop :=
  ∃ history, answer = around history call ∧ made = [⟨call, answer⟩]

/-- The index and the wallet are called on; the node completes transactions over a connection. -/
def answeredTraces (around : Behaviour) (node : Node) : Traces where
  runesIndexed := Asks around .runesIndexed
  chainHeight := Asks around .chainHeight
  lookup rune := Asks around (.lookup rune)
  lockNonCardinal := Asks around .lockNonCardinal
  release coins := Asks around (.release coins)
  changeScript := Asks around .changeScript
  network := Asks around .network
  fund := Node.Funding (node.Answers around)
  sign := Node.Signing (node.Answers around)
  broadcast := Node.Relaying (node.Answers around)

theorem leads_asks (around : Behaviour) (call : Call) (world : World) :
    ∃ made, (around.ask call world).2.history = world.history ++ made
      ∧ Asks around call made (around.ask call world).1 :=
  ⟨_, rfl, world.history, rfl, rfl⟩

theorem follows_throughCompletion (around : Behaviour) (node : Node) (targetPostage : Postage) :
    Follows (throughCompletion around node targetPostage) (answeredTraces around node) where
  runesIndexed := leads_asks around .runesIndexed
  chainHeight := leads_asks around .chainHeight
  lookup rune := leads_asks around (.lookup rune)
  lockNonCardinal := leads_asks around .lockNonCardinal
  release coins := leads_asks around (.release coins)
  changeScript := leads_asks around .changeScript
  network := leads_asks around .network
  fund := Node.leads_fund (Node.leads_answers around node)
  sign := Node.leads_sign (Node.leads_answers around node)
  broadcast := Node.leads_broadcast (Node.leads_answers around node)

/-! ## Up to the skeleton -/

section

variable {around : Behaviour} {node : Node} {request : MintRequest} {targetPostage : Postage}
  {id : RuneId} {destination : Bytes} {made : History} (h : Opens around request id destination)

include h

theorem checksIndex_ok {result : Except Failure Unit}
    (hmade : ChecksIndex (answeredTraces around node) made result) : result = .ok () := by
  have hindexed : ∀ {answer}, (answeredTraces around node).runesIndexed made answer →
      answer = .ok true := by
    rintro answer ⟨history, hanswer, -⟩
    rw [hanswer]
    exact h.indexed history
  cases hmade with
  | failed hcall => cases hindexed hcall
  | disabled hcall => cases hindexed hcall
  | enabled _ => rfl

theorem findsEligible_ok {result : Except Failure (RuneId × Pile)}
    (hmade : FindsEligible (answeredTraces around node) request.rune made result) :
    ∃ pile, result = .ok (id, pile) := by
  have hheight : ∀ {first answer}, (answeredTraces around node).chainHeight first answer →
      ∃ history, answer = around history .chainHeight := by
    rintro first answer ⟨history, hanswer, -⟩
    exact ⟨history, hanswer⟩
  have hlookup : ∀ {rest answer}, (answeredTraces around node).lookup request.rune rest answer →
      ∃ history, answer = around history (.lookup request.rune) := by
    rintro rest answer ⟨history, hanswer, -⟩
    exact ⟨history, hanswer⟩
  -- Whatever was called before, the height and the entry are those of a rune that can be minted.
  cases hmade with
  | noHeight hcall =>
    obtain ⟨history, hanswer⟩ := hheight hcall
    obtain ⟨height, _, _, hfound, -⟩ := h.mintable history []
    rw [hfound] at hanswer
    cases hanswer
  | noAnswer _ hcall =>
    obtain ⟨between, hanswer⟩ := hlookup hcall
    obtain ⟨_, _, _, -, hfound, -⟩ := h.mintable [] between
    rw [hfound] at hanswer
    cases hanswer
  | notEtched _ hcall =>
    obtain ⟨between, hanswer⟩ := hlookup hcall
    obtain ⟨_, _, _, -, hfound, -⟩ := h.mintable [] between
    rw [hfound] at hanswer
    cases hanswer
  | refused hfirst hcall hrefused =>
    obtain ⟨history, hheight⟩ := hheight hfirst
    obtain ⟨between, hentry⟩ := hlookup hcall
    obtain ⟨_, _, _, hfound, hetched, hmintable⟩ := h.mintable history between
    rw [hfound] at hheight
    rw [hetched] at hentry
    cases hheight
    cases hentry
    rw [hmintable] at hrefused
    cases hrefused
  | eligible hfirst hcall _ =>
    obtain ⟨between, hentry⟩ := hlookup hcall
    obtain ⟨_, _, _, -, hetched, -⟩ := h.mintable [] between
    rw [hetched] at hentry
    cases hentry
    exact ⟨_, rfl⟩

theorem findsDestination_ok {result : Except Failure Bytes}
    (hmade : FindsDestination (answeredTraces around node) request.destination made result) :
    result = .ok destination := by
  have hreceives := h.destination
  generalize request.destination = chosen at hmade hreceives
  cases hmade with
  | change hcall =>
    obtain ⟨history, hanswer, -⟩ := hcall
    rw [hanswer]
    exact hreceives history
  | unreadable hread =>
    obtain ⟨_, _, _, haddress, -⟩ := hreceives []
    rw [haddress] at hread
    cases hread
  | noNetwork _ hcall =>
    obtain ⟨history, hanswer, -⟩ := hcall
    obtain ⟨_, _, _, -, hnetwork, -⟩ := hreceives history
    rw [hnetwork] at hanswer
    cases hanswer
  | wrongNetwork hread hcall hwrong =>
    obtain ⟨history, hanswer, -⟩ := hcall
    obtain ⟨_, _, _, haddress, hnetwork, hchecked, -⟩ := hreceives history
    rw [haddress] at hread
    rw [hnetwork] at hanswer
    cases hread
    cases hanswer
    rw [hchecked] at hwrong
    cases hwrong
  | found hread hcall hright =>
    obtain ⟨history, hanswer, -⟩ := hcall
    obtain ⟨_, _, _, haddress, hnetwork, hchecked, hscript⟩ := hreceives history
    rw [haddress] at hread
    rw [hnetwork] at hanswer
    cases hread
    cases hanswer
    rw [hchecked] at hright
    cases hright
    rw [hscript]

/-- Everything up to the skeleton succeeds. -/
theorem begins_ok (hdust : Script.dust destination < (postageOf request targetPostage).value)
    {result : Except Stopped (Runestone × Pile × Transaction)}
    (hmade : Begins (answeredTraces around node) request targetPostage made result) :
    ∃ pile, result = .ok (.ofMint id, pile,
      skeletonOf id destination (postageOf request targetPostage).value) := by
  have hskeleton : ∀ {third built},
      BuildsSkeleton (answeredTraces around node) request targetPostage
        (Runestone.mintScript id) third built →
      built = .ok (skeletonOf id destination (postageOf request targetPostage).value) := by
    intro third built hbuilds
    cases hbuilds with
    | noDestination hdestination => cases findsDestination_ok h hdestination
    | built hdestination hbuilt =>
      cases findsDestination_ok h hdestination
      rw [← hbuilt, skeleton_eq hdust]
  have heligible : ∀ {second found pile},
      FindsEligible (answeredTraces around node) request.rune second (.ok (found, pile)) →
      found = id := by
    intro second found pile hfinds
    obtain ⟨_, hfound⟩ := findsEligible_ok h hfinds
    cases hfound
    rfl
  cases hmade with
  | unchecked hindex => cases checksIndex_ok h hindex
  | ineligible _ hfinds =>
    obtain ⟨_, hfound⟩ := findsEligible_ok h hfinds
    cases hfound
  | unencoded _ _ hscript =>
    rw [Runestone.encipherMint_eq] at hscript
    cases hscript
  | unbuilt _ hfinds hscript hbuilds =>
    cases heligible hfinds
    rw [Runestone.encipherMint_eq] at hscript
    cases hscript
    cases hskeleton hbuilds
  | begun _ hfinds hscript hbuilds =>
    cases heligible hfinds
    rw [Runestone.encipherMint_eq] at hscript
    cases hscript
    cases hskeleton hbuilds
    exact ⟨_, rfl⟩

end

/-! ## Funding and signing -/

section

variable {around : Behaviour} {node : Node} {made : History}

/-- The transaction that an answer holds is read from it, if it fits and has inputs. -/
theorem transactionFrom_of_holds {answer : Json} {tx : Transaction} {wrap : ReplyError → Failure}
    (hholds : Holds answer tx) (hfits : tx.Fits) (hinputs : tx.inputs ≠ []) :
    Node.transactionFrom wrap answer = .ok tx := by
  obtain ⟨hex, hhex, hmember⟩ := hholds
  have hread : Transaction.ofHex hex = .ok tx :=
    Transaction.ofHex_of_toHex hfits (not_ambiguous_of_inputs hinputs) hhex
  have hof : Node.transactionOf answer = .ok (.ok tx) := by
    simp only [Node.transactionOf, hmember, hread, Except.mapError, bind, Except.bind, pure,
      Except.pure]
  rw [Node.transactionFrom, hof]

/-- What an honest node funded: it extends the skeleton, fits the wire format, and can be signed. -/
structure Fundable (around : Behaviour) (node : Node) (skeleton funded : Transaction) : Prop where
  adds : Extends skeleton funded
  fits : funded.Fits
  signs : SignsHonestly around node funded

section

variable {skeleton : Transaction} {feeRate : FeeRate} (h : Honest around node skeleton)
  (hrate : feeRate.satVb.Below FeeRate.limit) (hfits : skeleton.Fits)

include h hrate hfits

theorem funding_ok {result : Except Failure Transaction}
    (hmade : (answeredTraces around node).fund skeleton feeRate made result) :
    ∃ funded, result = .ok funded ∧ Fundable around node skeleton funded := by
  cases hmade with
  | rateTooLarge hnone =>
    obtain ⟨options, hoptions⟩ := FeeRate.exists_fundOptions hrate skeleton.outputs.length true
    rw [hoptions] at hnone
    cases hnone
  | @asking options made result hoptions hasking =>
    cases hasking with
    | unwritable herror =>
      obtain ⟨hex, hhex⟩ := Transaction.exists_toHex hfits
      rw [hhex] at herror
      cases herror
    | asked hhex hcall =>
      obtain ⟨history, -, houtcome⟩ := hcall
      obtain ⟨funded, hextends, hfunded, hsigns, hanswers⟩ := h.funds history options
      obtain ⟨answer, hreading, hholds⟩ := hanswers _ hhex
      refine ⟨funded, ?_, hextends, hfunded, hsigns⟩
      rw [houtcome, hreading]
      exact transactionFrom_of_holds hholds hfunded hextends.inputs_ne_nil

theorem fundsLocked_ok (hlocks : ∀ history, ∃ coins, around history .lockNonCardinal = .ok coins)
    {result : Except Failure Transaction}
    (hmade : FundsLocked (answeredTraces around node) skeleton feeRate made result) :
    ∃ funded, result = .ok funded ∧ Fundable around node skeleton funded := by
  cases hmade with
  | notLocked hcall =>
    obtain ⟨history, hanswer, -⟩ := hcall
    obtain ⟨coins, hcoins⟩ := hlocks history
    rw [hcoins] at hanswer
    cases hanswer
  | funded _ hfund => exact funding_ok h hrate hfits hfund
  | notFunded _ hfund _ =>
    obtain ⟨_, hfunded, -⟩ := funding_ok h hrate hfits hfund
    cases hfunded

end

theorem signs_ok {skeleton funded : Transaction} (h : Fundable around node skeleton funded)
    {result : Except Failure Transaction}
    (hmade : (answeredTraces around node).sign funded made result) :
    ∃ signed, result = .ok signed ∧ Signs funded signed ∧ signed.Fits := by
  cases hmade with
  | unwritable herror =>
    obtain ⟨hex, hhex⟩ := Transaction.exists_toHex h.fits
    rw [hhex] at herror
    cases herror
  | asked hhex hcall =>
    obtain ⟨history, -, houtcome⟩ := hcall
    obtain ⟨signed, hsigns, hsigned, answer, hreading, ⟨complete, hcomplete, htrue⟩, hholds⟩ :=
      h.signs history _ hhex
    refine ⟨signed, ?_, hsigns, hsigned⟩
    rw [houtcome, hreading]
    show Node.signedFrom answer = .ok signed
    simp only [Node.signedFrom, hcomplete, htrue, if_true]
    exact transactionFrom_of_holds hholds hsigned
      (hsigns.inputs_ne_nil h.adds.inputs_ne_nil)

end

/-! ## What is relayed -/

/-- An exchange that relays nothing. -/
def Unrelayed (x : Exchange) : Prop :=
  x.method? ≠ some "sendrawtransaction"

theorem unrelayed_asks (around : Behaviour) (call : Call) (hcall : call.kind ≠ .post)
    {made : History} {answer : call.Answer} (h : Asks around call made answer) :
    ∀ x ∈ made, Unrelayed x := by
  obtain ⟨history, -, rfl⟩ := h
  intro x hx
  rw [List.mem_singleton.1 hx]
  cases call <;> simp_all [Unrelayed, Exchange.method?, Call.kind]

theorem unrelayed_asking {α : Type} {around : Behaviour} {node : Node} {tx : Transaction}
    {method : String} {params : String → Json} {read : Except Failure Json → Except Failure α}
    (hmethod : method ≠ "sendrawtransaction") :
    Trace.All (Node.Asking (node.Answers around) tx method params read) Unrelayed := by
  intro made result h
  cases h with
  | unwritable => simp
  | asked _ hcall =>
    obtain ⟨history, rfl, -⟩ := hcall
    intro x hx
    rw [List.mem_singleton.1 hx]
    intro hsame
    exact hmethod (Option.some.inj hsame)

theorem unrelayed_funding {around : Behaviour} {node : Node} (tx : Transaction)
    (feeRate : FeeRate) :
    Trace.All ((answeredTraces around node).fund tx feeRate) Unrelayed := by
  intro made result h
  cases h with
  | rateTooLarge => simp
  | asking _ hasking => exact unrelayed_asking (by decide) _ _ hasking

theorem unrelayed_signing {around : Behaviour} {node : Node} (tx : Transaction) :
    Trace.All ((answeredTraces around node).sign tx) Unrelayed :=
  unrelayed_asking (by decide)

theorem allBegin_unrelayed (around : Behaviour) (node : Node) :
    AllBegin (answeredTraces around node) Unrelayed where
  runesIndexed _ _ := unrelayed_asks around .runesIndexed (by simp [Call.kind])
  chainHeight _ _ := unrelayed_asks around .chainHeight (by simp [Call.kind])
  lookup rune _ _ := unrelayed_asks around (.lookup rune) (by simp [Call.kind])
  changeScript _ _ := unrelayed_asks around .changeScript (by simp [Call.kind])
  network _ _ := unrelayed_asks around .network (by simp [Call.kind])

theorem allFund_unrelayed (around : Behaviour) (node : Node) :
    AllFund (answeredTraces around node) Unrelayed where
  lockNonCardinal _ _ := unrelayed_asks around .lockNonCardinal (by simp [Call.kind])
  release coins _ _ := unrelayed_asks around (.release coins) (by simp [Call.kind])
  fund := unrelayed_funding

/-- Nothing is relayed before a transaction has been signed. -/
theorem callsOf_behind_signs {around : Behaviour} {node : Node} {request : MintRequest}
    {targetPostage : Postage} {first second : History} {funded : Funded}
    {answer : Except Failure Transaction}
    (hfunds : Funds (answeredTraces around node) request targetPostage first (.ok funded))
    (hsigns : (answeredTraces around node).sign funded.transaction second answer)
    (third : History) :
    History.callsOf (first ++ (second ++ third)) "sendrawtransaction"
      = History.callsOf third "sendrawtransaction" := by
  have hfirst := all_funds (allBegin_unrelayed around node) (allFund_unrelayed around node)
    request targetPostage _ _ hfunds
  have hsecond := unrelayed_signing _ _ _ hsigns
  rw [History.callsOf_append, History.callsOf_append, History.callsOf_eq_nil_iff.2 hfirst,
    History.callsOf_eq_nil_iff.2 hsecond, List.nil_append, List.nil_append]

section

variable {around : Behaviour} {node : Node} {tx : Transaction} {made : History}
  {result : Except Failure Json}

/-- Relaying can only fail by what is wrong with the reply. -/
theorem relaying_untripped (hfits : tx.Fits)
    (h : (answeredTraces around node).broadcast tx made result) :
    ∀ e, result = .error e → ¬ Trips e := by
  cases h with
  | unwritable herror =>
    obtain ⟨hex, hhex⟩ := Transaction.exists_toHex hfits
    rw [hhex] at herror
    cases herror
  | @asked _ _ outcome _ hcall =>
    obtain ⟨history, -, houtcome⟩ := hcall
    have hreports : Node.Reports outcome := by
      rw [houtcome]
      exact Node.reports_reading _
    intro e he htrips
    cases outcome with
    | ok answer => cases he
    | error cause =>
      cases hreports cause rfl with
      | transport =>
        cases he
        cases htrips
      | mismatch =>
        cases he
        cases htrips
      | rpc cause =>
        have hfailure : e = Node.broadcastFailure cause := (Except.error.inj he).symm
        unfold Node.broadcastFailure at hfailure
        split at hfailure <;> (rw [hfailure] at htrips; cases htrips)

/-- What is relayed is the wire form of the transaction, and it is relayed once. -/
theorem relaying_posts (hfits : tx.Fits) (hinputs : tx.inputs ≠ [])
    (h : (answeredTraces around node).broadcast tx made result) : ∃ hex reply,
    made = [⟨.post (node.request "sendrawtransaction" (Node.rawParams hex)), reply⟩]
      ∧ Transaction.ofHex hex = .ok tx := by
  cases h with
  | unwritable herror =>
    obtain ⟨hex, hhex⟩ := Transaction.exists_toHex hfits
    rw [hhex] at herror
    cases herror
  | @asked hex _ _ hhex hcall =>
    obtain ⟨history, hmade, -⟩ := hcall
    exact ⟨hex, _, hmade,
      Transaction.ofHex_of_toHex hfits (not_ambiguous_of_inputs hinputs) hhex⟩

end

theorem paysOut_of_signs {around : Behaviour} {node : Node} {id : RuneId} {destination : Bytes}
    {postage : Int} (hspendable : Script.isOpReturn destination = false)
    {funded signed : Transaction}
    (hfundable : Fundable around node (skeletonOf id destination postage) funded)
    (hsigns : Signs funded signed) : PaysOut id destination postage signed := by
  refine paysOut_of_prefix hspendable ?_
  rw [hsigns.outputs]
  exact hfundable.adds.outputs

section

variable {around : Behaviour} {node : Node} {request : MintRequest} {targetPostage : Postage}
  {id : RuneId} {destination : Bytes} (hrate : request.feeRate.satVb.Below FeeRate.limit)
  (hopens : Opens around request id destination)
  (hdust : Script.dust destination < (postageOf request targetPostage).value)
  (hhonest : Honest around node
    (skeletonOf id destination (postageOf request targetPostage).value))

include hrate hopens hdust hhonest

theorem funds_ok {made : History} {result : Except Stopped Funded}
    (hmade : Funds (answeredTraces around node) request targetPostage made result) :
    ∃ pile funded, result = .ok ⟨.ofMint id, pile, funded⟩ ∧ Fundable around node
      (skeletonOf id destination (postageOf request targetPostage).value) funded := by
  -- A skeleton that is funded honestly can be written.
  have hfits : (skeletonOf id destination (postageOf request targetPostage).value).Fits := by
    obtain ⟨funded, hextends, hfunded, -⟩ := hhonest.funds [] ⟨.zero, 2, true⟩
    exact fits_of_extends hextends hfunded
  cases hmade with
  | notBegun hbegins =>
    obtain ⟨_, hbegun⟩ := begins_ok hopens hdust hbegins
    cases hbegun
  | unfunded hbegins hlocked =>
    obtain ⟨_, hbegun⟩ := begins_ok hopens hdust hbegins
    cases hbegun
    obtain ⟨_, hfunded, -⟩ := fundsLocked_ok hhonest hrate hfits hopens.locked hlocked
    cases hfunded
  | funded hbegins hlocked =>
    obtain ⟨pile, hbegun⟩ := begins_ok hopens hdust hbegins
    cases hbegun
    obtain ⟨funded, hfunded, hfundable⟩ := fundsLocked_ok hhonest hrate hfits hopens.locked hlocked
    cases hfunded
    exact ⟨_, _, rfl, hfundable⟩

variable (hspendable : Script.isOpReturn destination = false)

include hspendable

/-- A transaction that was signed and offered for relaying has landed, whatever came back. -/
theorem lands_of_relays {first second third : History} {funded : Funded} {signed : Transaction}
    {answer : Except Failure Json} {result : Except Stopped Result}
    (hfunds : Funds (answeredTraces around node) request targetPostage first (.ok funded))
    (hsigns : (answeredTraces around node).sign funded.transaction second (.ok signed))
    (hrelays : (answeredTraces around node).broadcast signed third answer)
    (hresult : ∀ stopped, result = .error stopped →
      ∃ e, answer = .error e ∧ stopped = ⟨.broadcast, e⟩) :
    Lands node id destination (postageOf request targetPostage).value
      (first ++ (second ++ third)) result := by
  have hquiet := callsOf_behind_signs hfunds hsigns third
  obtain ⟨pile, tx, hfunded, hfundable⟩ := funds_ok hrate hopens hdust hhonest hfunds
  cases hfunded
  obtain ⟨signed', hsigned, hsame, hfits⟩ := signs_ok hfundable hsigns
  cases hsigned
  obtain ⟨hex, reply, hposts, hread⟩ := relaying_posts hfits
    (hsame.inputs_ne_nil hfundable.adds.inputs_ne_nil) hrelays
  constructor
  · intro stopped hstopped
    obtain ⟨e, he, rfl⟩ := hresult stopped hstopped
    exact ⟨rfl, relaying_untripped hfits hrelays e he⟩
  · refine ⟨hex, reply, _, ?_, hread, paysOut_of_signs hspendable hfundable hsame⟩
    rw [hquiet, hposts]
    rfl

theorem lands_of_runs {made : History} {result : Except Stopped Result}
    (hmade : Runs (answeredTraces around node) request targetPostage made result) :
    Lands node id destination (postageOf request targetPostage).value made result := by
  cases hmade with
  | unfunded hfunds =>
    obtain ⟨_, _, hfunded, -⟩ := funds_ok hrate hopens hdust hhonest hfunds
    cases hfunded
  | unsigned hfunds hsigns =>
    obtain ⟨_, _, hfunded, hfundable⟩ := funds_ok hrate hopens hdust hhonest hfunds
    cases hfunded
    obtain ⟨_, hsigned, -⟩ := signs_ok hfundable hsigns
    cases hsigned
  | mismatch hfunds hsigns hother =>
    obtain ⟨_, _, hfunded, hfundable⟩ := funds_ok hrate hopens hdust hhonest hfunds
    cases hfunded
    obtain ⟨_, hsigned, hsame, -⟩ := signs_ok hfundable hsigns
    cases hsigned
    exact absurd (paysOut_of_signs hspendable hfundable hsame).deciphers hother
  | refused hfunds hsigns _ hrelays =>
    refine lands_of_relays hrate hopens hdust hhonest hspendable hfunds hsigns hrelays ?_
    intro stopped hstopped
    cases hstopped
    exact ⟨_, rfl, rfl⟩
  | minted hfunds hsigns _ hrelays =>
    refine lands_of_relays hrate hopens hdust hhonest hspendable hfunds hsigns hrelays ?_
    intro stopped hstopped
    cases hstopped

end

/-- Where the rune can be minted, the destination can be spent and gets more than dust, and the node
can be told the fee rate, an honest node never trips a check, and what is relayed pays the minted
runes to the destination. -/
theorem run_honest {around : Behaviour} {node : Node} {targetPostage : Postage}
    {request : MintRequest} {id : RuneId} {destination : Bytes}
    (hrate : request.feeRate.satVb.Below FeeRate.limit)
    (hopens : Opens around request id destination)
    (hspendable : Script.isOpReturn destination = false)
    (hdust : Script.dust destination < (postageOf request targetPostage).value)
    (hhonest : Honest around node
      (skeletonOf id destination (postageOf request targetPostage).value)) (world : World) :
    Lands node id destination (postageOf request targetPostage).value
      (made ((throughCompletion around node targetPostage).run request) world)
      ((throughCompletion around node targetPostage).run request world).1 := by
  have hfollows := follows_throughCompletion around node targetPostage
  have hruns := ((leads_run hfollows request).made world).2
  exact lands_of_runs hrate hopens hdust hhonest hspendable hruns

/-! ## A node that is honest -/

/-- Anyone can spend an output with this script. -/
def openScript : Bytes := [Script.op1]

/-- The skeleton of the example with an input and change. -/
def openFunded : Transaction :=
  { skeletonOf openId openScript 10000 with
    inputs := [⟨⟨"00000000000000000000000000000000000000000000000000000000deadbeef", 1⟩, [],
      0xFFFFFFFD, []⟩]
    outputs := (skeletonOf openId openScript 10000).outputs ++ [⟨52800, openScript⟩] }

/-- The same transaction with a witness. -/
def openSigned : Transaction :=
  { openFunded with
    inputs := openFunded.inputs.map fun input => { input with witness := [[0x30, 0x44], [2]] } }

/-- A reply that holds a transaction and says that it is complete. -/
def replyWith (tx : Transaction) : Option Http.Response :=
  replyOf ("\x7b\"complete\":true,\"hex\":\"" ++ (tx.toHex.toOption.getD "") ++ "\"\x7d")

/-- Nothing fails, and the node always answers the same two transactions. -/
def honestAnswers (history : History) : (call : Call) → call.Answer
  | .changeScript => .ok openScript
  | .post call =>
    if call.method = "fundrawtransaction" then replyWith openFunded
    else if call.method = "signrawtransactionwithwallet" then replyWith openSigned
    else replyOf "null"
  | call => localAnswers history call

/-- What a reply has to say about a transaction, as a check. -/
def completes (reply : Option Http.Response) (tx : Transaction) : Bool :=
  match Node.reading reply, tx.toHex with
  | .ok answer, .ok hex =>
    (match answer.memberOr "complete" .null with
      | .ok complete => complete.isTruthy
      | .error _ => false) &&
    match answer.member? "hex" with
      | .ok (some (.str text)) => text == hex
      | _ => false
  | _, _ => false

theorem exists_of_completes {reply : Option Http.Response} {tx : Transaction}
    (h : completes reply tx = true) :
    ∃ answer, Node.reading reply = .ok answer ∧ IsComplete answer ∧ Holds answer tx := by
  unfold completes at h
  split at h
  case h_1 answer hex hreading hhex =>
    rw [Bool.and_eq_true] at h
    obtain ⟨hcomplete, hmember⟩ := h
    refine ⟨answer, hreading, ?_, hex, hhex, ?_⟩
    · split at hcomplete
      case h_1 complete hread => exact ⟨complete, hread, hcomplete⟩
      case h_2 => cases hcomplete
    · split at hmember
      case h_1 text hread =>
        rw [hread, beq_iff_eq.1 hmember]
      case h_2 => cases hmember
  case h_2 => cases h

theorem opens_honestAnswers : Opens honestAnswers openRequest openId openScript where
  indexed _ := rfl
  mintable _ _ := ⟨850000, openEntry, 5, rfl, rfl, by decide⟩
  destination _ := rfl
  locked _ := ⟨[], rfl⟩

theorem honest_honestAnswers :
    Honest honestAnswers localNode (skeletonOf openId openScript 10000) where
  funds := by
    intro history options
    refine ⟨openFunded, ⟨rfl, rfl, ⟨_, by simp, rfl⟩, List.prefix_append _ _⟩,
      by decide +kernel, ?_, ?_⟩
    · intro later hex _
      refine ⟨openSigned, ⟨rfl, rfl, rfl, rfl⟩, by decide +kernel, ?_⟩
      have hsigned : completes (replyWith openSigned) openSigned = true := by decide +kernel
      exact exists_of_completes hsigned
    · intro hex _
      have hfunded : completes (replyWith openFunded) openFunded = true := by decide +kernel
      obtain ⟨answer, hreading, -, hholds⟩ := exists_of_completes hfunded
      exact ⟨answer, hreading, hholds⟩

/-- The mint of the example pays out. -/
theorem run_honestAnswers :
    Opens honestAnswers openRequest openId openScript
      ∧ Honest honestAnswers localNode (skeletonOf openId openScript 10000)
      ∧ Lands localNode openId openScript 10000
        (made ((throughCompletion honestAnswers localNode (.sats 10000)).run openRequest)
          ⟨[], none⟩)
        ((throughCompletion honestAnswers localNode (.sats 10000)).run openRequest
          ⟨[], none⟩).1 := by
  refine ⟨opens_honestAnswers, honest_honestAnswers, ?_⟩
  have hrate : openRequest.feeRate.satVb.Below FeeRate.limit := by decide +kernel
  have hdust : Script.dust openScript < (postageOf openRequest (.sats 10000)).value := by
    decide +kernel
  exact run_honest hrate opens_honestAnswers rfl hdust honest_honestAnswers ⟨[], none⟩

end Mint

end Runesmith
