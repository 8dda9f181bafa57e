import Runesmith.Proofs.Observation

/-!
# The stages of a mint

What a mint calls on and how it ends, stage by stage, in terms of what its index, its wallet and its
node may do. Nothing is assumed about them here.

* `Follows` says what those that a mint works with may do;
* `Funds`, `Runs` and `Prepares` say what a run may do then, each case for one way to end
  (`leads_fund`, `leads_run`, `leads_prepare`).
-/

namespace Runesmith.Mint

/-- What those that a mint works with may do when they are called on. -/
structure Traces where
  runesIndexed : Trace Failure Bool
  chainHeight : Trace Failure Int
  lookup : SpacedRune → Trace Failure (Option (RuneId × Entry))
  lockNonCardinal : Trace Failure (List Coin)
  release : List Coin → Trace Failure Unit
  changeScript : Trace Failure Bytes
  network : Trace Failure Network
  fund : Transaction → FeeRate → Trace Failure Transaction
  sign : Transaction → Trace Failure Transaction
  broadcast : Transaction → Trace Failure Json

/-- Those that a mint works with do nothing else. -/
structure Follows (mint : Mint Observed) (may : Traces) : Prop where
  runesIndexed : Leads mint.index.runesIndexed may.runesIndexed
  chainHeight : Leads mint.index.chainHeight may.chainHeight
  lookup : ∀ rune, Leads (mint.index.lookup rune) (may.lookup rune)
  lockNonCardinal : Leads mint.wallet.lockNonCardinal may.lockNonCardinal
  release : ∀ coins, Leads (mint.wallet.release coins) (may.release coins)
  changeScript : Leads mint.wallet.changeScript may.changeScript
  network : Leads mint.wallet.network may.network
  fund : ∀ tx feeRate, Leads (mint.node.fund tx feeRate) (may.fund tx feeRate)
  sign : ∀ tx, Leads (mint.node.sign tx) (may.sign tx)
  broadcast : ∀ tx, Leads (mint.node.broadcast tx) (may.broadcast tx)

section

variable (may : Traces)

/-! ## Up to the skeleton -/

/-- The check of the index. -/
inductive ChecksIndex : Trace Failure Unit where
  | failed {made : History} {e : Failure} (h : may.runesIndexed made (.error e)) :
      ChecksIndex made (.error e)
  | disabled {made : History} (h : may.runesIndexed made (.ok false)) :
      ChecksIndex made (.error .runesNotIndexed)
  | enabled {made : History} (h : may.runesIndexed made (.ok true)) : ChecksIndex made (.ok ())

/-- The search for a rune that can be minted. -/
inductive FindsEligible (rune : SpacedRune) : Trace Failure (RuneId × Pile) where
  | noHeight {made : History} {e : Failure} (h : may.chainHeight made (.error e)) :
      FindsEligible rune made (.error e)
  | noAnswer {first rest : History} {height : Int} {e : Failure}
      (hheight : may.chainHeight first (.ok height)) (h : may.lookup rune rest (.error e)) :
      FindsEligible rune (first ++ rest) (.error e)
  | notEtched {first rest : History} {height : Int}
      (hheight : may.chainHeight first (.ok height)) (h : may.lookup rune rest (.ok none)) :
      FindsEligible rune (first ++ rest) (.error (.notEtched rune))
  | refused {first rest : History} {height : Int} {id : RuneId} {entry : Entry}
      {refusal : Entry.Refusal} (hheight : may.chainHeight first (.ok height))
      (hlookup : may.lookup rune rest (.ok (some (id, entry))))
      (h : entry.mintable height = .error refusal) :
      FindsEligible rune (first ++ rest) (.error (.ineligible refusal (some rune)))
  | eligible {first rest : History} {height : Int} {id : RuneId} {entry : Entry} {amount : Int}
      (hheight : may.chainHeight first (.ok height))
      (hlookup : may.lookup rune rest (.ok (some (id, entry))))
      (h : entry.mintable height = .ok amount) :
      FindsEligible rune (first ++ rest) (.ok (id, entry.pile amount))

/-- The search for the script of a destination. -/
inductive FindsDestination : Option String → Trace Failure Bytes where
  | change {made : History} {result : Except Failure Bytes} (h : may.changeScript made result) :
      FindsDestination none made result
  | unreadable {text : String} {e : Address.Error} (h : Address.ofText text = .error e) :
      FindsDestination (some text) [] (.error (.address e))
  | noNetwork {text : String} {address : Address} {made : History} {e : Failure}
      (haddress : Address.ofText text = .ok address) (h : may.network made (.error e)) :
      FindsDestination (some text) made (.error e)
  | wrongNetwork {text : String} {address : Address} {made : History} {network : Network}
      {e : Address.WrongNetwork} (haddress : Address.ofText text = .ok address)
      (hnetwork : may.network made (.ok network))
      (h : address.requireNetwork network = .error e) :
      FindsDestination (some text) made (.error (.wrongNetwork e))
  | found {text : String} {address checked : Address} {made : History} {network : Network}
      (haddress : Address.ofText text = .ok address) (hnetwork : may.network made (.ok network))
      (h : address.requireNetwork network = .ok checked) :
      FindsDestination (some text) made (.ok checked.script)

/-- The postage of a request, or the one that requests without one get. -/
def postageOf (request : MintRequest) (targetPostage : Postage) : Postage :=
  match request.postage with
  | some sats => .sats sats
  | none => targetPostage

/-- The building of a skeleton. -/
inductive BuildsSkeleton (request : MintRequest) (targetPostage : Postage) (script : Bytes) :
    Trace Failure Transaction where
  | noDestination {made : History} {e : Failure}
      (h : FindsDestination may request.destination made (.error e)) :
      BuildsSkeleton request targetPostage script made (.error e)
  | built {made : History} {destination : Bytes} {result : Except Failure Transaction}
      (hdestination : FindsDestination may request.destination made (.ok destination))
      (h : Transaction.skeleton script destination (postageOf request targetPostage) = result) :
      BuildsSkeleton request targetPostage script made result

/-! ## Funding -/

/-- The outcome of a release after a failure; errors of the wallet and of the node do not count. -/
def forgiven : Except Failure Unit → Except Failure Unit
  | .error (.wallet _) => .ok ()
  | .error (.rpc _) => .ok ()
  | .error (.transport _) => .ok ()
  | outcome => outcome

/-- The failure that is told when funding failed and coins were released. -/
def toldAfter (failure : Failure) (released : Except Failure Unit) : Failure :=
  match forgiven released with
  | .ok () => failure
  | .error other => other

/-- Funding while coins are locked. -/
inductive FundsLocked (skeleton : Transaction) (feeRate : FeeRate) : Trace Failure Transaction where
  | notLocked {made : History} {e : Failure} (h : may.lockNonCardinal made (.error e)) :
      FundsLocked skeleton feeRate made (.error e)
  | funded {first rest : History} {coins : List Coin} {tx : Transaction}
      (hlock : may.lockNonCardinal first (.ok coins))
      (h : may.fund skeleton feeRate rest (.ok tx)) :
      FundsLocked skeleton feeRate (first ++ rest) (.ok tx)
  | notFunded {first middle rest : History} {coins : List Coin} {e : Failure}
      {released : Except Failure Unit} (hlock : may.lockNonCardinal first (.ok coins))
      (h : may.fund skeleton feeRate middle (.error e))
      (hrelease : may.release coins rest released) :
      FundsLocked skeleton feeRate (first ++ (middle ++ rest)) (.error (toldAfter e released))

/-! ## Whole runs -/

/-- Everything up to a skeleton, together with the runestone and the pile that it is for. -/
inductive Begins (request : MintRequest) (targetPostage : Postage) :
    Trace Stopped (Runestone × Pile × Transaction) where
  | unchecked {made : History} {e : Failure} (h : ChecksIndex may made (.error e)) :
      Begins request targetPostage made (.error ⟨.indexChecked, e⟩)
  | ineligible {first second : History} {e : Failure} (hindex : ChecksIndex may first (.ok ()))
      (h : FindsEligible may request.rune second (.error e)) :
      Begins request targetPostage (first ++ second) (.error ⟨.eligible, e⟩)
  | unencoded {first second : History} {id : RuneId} {pile : Pile} {e : Runestone.Error}
      (hindex : ChecksIndex may first (.ok ()))
      (heligible : FindsEligible may request.rune second (.ok (id, pile)))
      (h : Runestone.encipherMint id = .error e) :
      Begins request targetPostage (first ++ second) (.error ⟨.encoded, .runestone e⟩)
  | unbuilt {first second third : History} {id : RuneId} {pile : Pile} {runestone : Runestone}
      {script : Bytes} {e : Failure} (hindex : ChecksIndex may first (.ok ()))
      (heligible : FindsEligible may request.rune second (.ok (id, pile)))
      (hscript : Runestone.encipherMint id = .ok (runestone, script))
      (h : BuildsSkeleton may request targetPostage script third (.error e)) :
      Begins request targetPostage (first ++ (second ++ third)) (.error ⟨.skeletonBuilt, e⟩)
  | begun {first second third : History} {id : RuneId} {pile : Pile} {runestone : Runestone}
      {script : Bytes} {skeleton : Transaction} (hindex : ChecksIndex may first (.ok ()))
      (heligible : FindsEligible may request.rune second (.ok (id, pile)))
      (hscript : Runestone.encipherMint id = .ok (runestone, script))
      (h : BuildsSkeleton may request targetPostage script third (.ok skeleton)) :
      Begins request targetPostage (first ++ (second ++ third)) (.ok (runestone, pile, skeleton))

/-- Everything up to a funded transaction. -/
inductive Funds (request : MintRequest) (targetPostage : Postage) : Trace Stopped Funded where
  | notBegun {made : History} {e : Stopped} (h : Begins may request targetPostage made (.error e)) :
      Funds request targetPostage made (.error e)
  | unfunded {first rest : History} {runestone : Runestone} {pile : Pile} {skeleton : Transaction}
      {e : Failure}
      (hbegun : Begins may request targetPostage first (.ok (runestone, pile, skeleton)))
      (h : FundsLocked may skeleton request.feeRate rest (.error e)) :
      Funds request targetPostage (first ++ rest) (.error ⟨.funded, e⟩)
  | funded {first rest : History} {runestone : Runestone} {pile : Pile}
      {skeleton tx : Transaction}
      (hbegun : Begins may request targetPostage first (.ok (runestone, pile, skeleton)))
      (h : FundsLocked may skeleton request.feeRate rest (.ok tx)) :
      Funds request targetPostage (first ++ rest) (.ok ⟨runestone, pile, tx⟩)

/-- The failure of a signed transaction that does not carry the intended runestone. -/
def mismatchOf (runestone : Runestone) (signed : Transaction) : Failure :=
  match signed.toHex with
  | .ok rawTx => .encodingMismatch runestone (Runestone.decipher signed) rawTx
  | .error cause => .transaction cause

/-- A mint from its first call to its last. -/
inductive Runs (request : MintRequest) (targetPostage : Postage) : Trace Stopped Result where
  | unfunded {made : History} {e : Stopped} (h : Funds may request targetPostage made (.error e)) :
      Runs request targetPostage made (.error e)
  | unsigned {first second : History} {funded : Funded} {e : Failure}
      (hfunded : Funds may request targetPostage first (.ok funded))
      (h : may.sign funded.transaction second (.error e)) :
      Runs request targetPostage (first ++ second) (.error ⟨.signed, e⟩)
  | mismatch {first second : History} {funded : Funded} {signed : Transaction}
      (hfunded : Funds may request targetPostage first (.ok funded))
      (hsigned : may.sign funded.transaction second (.ok signed))
      (h : Runestone.decipher signed ≠ some (.runestone funded.runestone)) :
      Runs request targetPostage (first ++ second)
        (.error ⟨.broadcast, mismatchOf funded.runestone signed⟩)
  | refused {first second third : History} {funded : Funded} {signed : Transaction} {e : Failure}
      (hfunded : Funds may request targetPostage first (.ok funded))
      (hsigned : may.sign funded.transaction second (.ok signed))
      (hcarries : Runestone.decipher signed = some (.runestone funded.runestone))
      (h : may.broadcast signed third (.error e)) :
      Runs request targetPostage (first ++ (second ++ third)) (.error ⟨.broadcast, e⟩)
  | minted {first second third : History} {funded : Funded} {signed : Transaction} {answer : Json}
      (hfunded : Funds may request targetPostage first (.ok funded))
      (hsigned : may.sign funded.transaction second (.ok signed))
      (hcarries : Runestone.decipher signed = some (.runestone funded.runestone))
      (h : may.broadcast signed third (.ok answer)) :
      Runs request targetPostage (first ++ (second ++ third))
        (.ok ⟨request.rune, funded.pile, answer⟩)

/-- A prepared mint from its first call to its last. -/
inductive Prepares (request : MintRequest) (targetPostage : Postage) : Trace Stopped Prepared where
  | unfunded {made : History} {e : Stopped} (h : Funds may request targetPostage made (.error e)) :
      Prepares request targetPostage made (.error e)
  | prepared {made : History} {funded : Funded}
      (h : Funds may request targetPostage made (.ok funded)) :
      Prepares request targetPostage made (.ok ⟨request.rune, funded.pile, funded.transaction⟩)

end

/-! ## Exchanges of the stages -/

section

variable {may : Traces} {p : Exchange → Prop}

/-- Preparing a mint is funding one. -/
theorem funds_of_prepares {request : MintRequest} {targetPostage : Postage} {made : History}
    {result : Except Stopped Prepared} (h : Prepares may request targetPostage made result) :
    ∃ funded, Funds may request targetPostage made funded := by
  cases h with
  | unfunded h => exact ⟨_, h⟩
  | prepared h => exact ⟨_, h⟩

theorem all_findsDestination (hchange : may.changeScript.All p) (hnetwork : may.network.All p)
    (destination : Option String) : Trace.All (FindsDestination may destination) p := by
  intro made result h
  cases h with
  | change h => exact hchange _ _ h
  | unreadable => simp
  | noNetwork _ h => exact hnetwork _ _ h
  | wrongNetwork _ h => exact hnetwork _ _ h
  | found _ h => exact hnetwork _ _ h

/-- All exchanges up to a skeleton have a property. -/
structure AllBegin (may : Traces) (p : Exchange → Prop) : Prop where
  runesIndexed : may.runesIndexed.All p
  chainHeight : may.chainHeight.All p
  lookup : ∀ rune, (may.lookup rune).All p
  changeScript : may.changeScript.All p
  network : may.network.All p

theorem all_checksIndex (h : AllBegin may p) : Trace.All (ChecksIndex may) p := by
  intro made result hindex
  cases hindex <;> exact h.runesIndexed _ _ ‹_›

theorem all_findsEligible (h : AllBegin may p) (rune : SpacedRune) :
    Trace.All (FindsEligible may rune) p := by
  intro made result heligible
  cases heligible with
  | noHeight hheight => exact h.chainHeight _ _ hheight
  | _ hheight hlookup =>
    exact List.forall_mem_append.2 ⟨h.chainHeight _ _ hheight, h.lookup _ _ _ hlookup⟩

theorem all_buildsSkeleton (hchange : may.changeScript.All p) (hnetwork : may.network.All p)
    (request : MintRequest) (targetPostage : Postage) (script : Bytes) :
    Trace.All (BuildsSkeleton may request targetPostage script) p := by
  intro made result hskeleton
  cases hskeleton <;> exact all_findsDestination hchange hnetwork _ _ _ ‹_›

theorem all_begins (h : AllBegin may p) (request : MintRequest) (targetPostage : Postage) :
    Trace.All (Begins may request targetPostage) p := by
  have hindex := all_checksIndex h
  have heligible := all_findsEligible h request.rune
  have hskeleton := all_buildsSkeleton h.changeScript h.network request targetPostage
  intro made result hbegins
  cases hbegins with
  | unchecked h₁ => exact hindex _ _ h₁
  | ineligible h₁ h₂ => exact List.forall_mem_append.2 ⟨hindex _ _ h₁, heligible _ _ h₂⟩
  | unencoded h₁ h₂ => exact List.forall_mem_append.2 ⟨hindex _ _ h₁, heligible _ _ h₂⟩
  | unbuilt h₁ h₂ _ h₃ =>
    exact List.forall_mem_append.2 ⟨hindex _ _ h₁,
      List.forall_mem_append.2 ⟨heligible _ _ h₂, hskeleton _ _ _ h₃⟩⟩
  | begun h₁ h₂ _ h₃ =>
    exact List.forall_mem_append.2 ⟨hindex _ _ h₁,
      List.forall_mem_append.2 ⟨heligible _ _ h₂, hskeleton _ _ _ h₃⟩⟩

/-- All exchanges from locking on to a funded transaction have a property. -/
structure AllFund (may : Traces) (p : Exchange → Prop) : Prop where
  lockNonCardinal : may.lockNonCardinal.All p
  release : ∀ coins, (may.release coins).All p
  fund : ∀ tx feeRate, (may.fund tx feeRate).All p

theorem all_fundsLocked (h : AllFund may p) (skeleton : Transaction) (feeRate : FeeRate) :
    Trace.All (FundsLocked may skeleton feeRate) p := by
  intro made result hlocked
  cases hlocked with
  | notLocked hlock => exact h.lockNonCardinal _ _ hlock
  | funded hlock hfund =>
    exact List.forall_mem_append.2 ⟨h.lockNonCardinal _ _ hlock, h.fund _ _ _ _ hfund⟩
  | notFunded hlock hfund hrelease =>
    exact List.forall_mem_append.2 ⟨h.lockNonCardinal _ _ hlock,
      List.forall_mem_append.2 ⟨h.fund _ _ _ _ hfund, h.release _ _ _ hrelease⟩⟩

theorem all_funds (hbegin : AllBegin may p) (hfund : AllFund may p) (request : MintRequest)
    (targetPostage : Postage) : Trace.All (Funds may request targetPostage) p := by
  have hbegins := all_begins hbegin request targetPostage
  have hlocked := all_fundsLocked hfund
  intro made result hfunds
  cases hfunds with
  | notBegun h₁ => exact hbegins _ _ h₁
  | unfunded h₁ h₂ => exact List.forall_mem_append.2 ⟨hbegins _ _ h₁, hlocked _ _ _ _ h₂⟩
  | funded h₁ h₂ => exact List.forall_mem_append.2 ⟨hbegins _ _ h₁, hlocked _ _ _ _ h₂⟩

end

/-! ## The mint does as its stages say -/

section

variable {α β ε : Type} {stage : Stage} {next : α → ExceptT Stopped Observed β}
  {R : Trace Stopped β}

/-- An action on the way to a stage ends the run with that stage. -/
theorem leads_reaching {action : Action Observed α} {P : Trace Failure α}
    (haction : Leads action P)
    (herror : ∀ made e, P made (.error e) → R made (.error ⟨stage, e⟩))
    (hnext : ∀ x, Leads (next x) fun rest result =>
      ∀ first, P first (.ok x) → R (first ++ rest) result) :
    Leads (reaching stage action >>= next) R := by
  have hreaching : Leads (reaching stage action) fun made result =>
      ∃ outcome, P made outcome ∧ result = outcome.mapError (Stopped.mk stage) :=
    haction.adapt fun made outcome h => ⟨outcome, h, rfl⟩
  -- The stage only changes how an error is told; whatever was called stays.
  refine hreaching.andThen ?_ fun x => (hnext x).mono ?_
  · rintro made stopped ⟨e | x, hP, hresult⟩
    · cases hresult
      exact herror made e hP
    · cases hresult
  · rintro rest result hR first ⟨e | y, hP, hresult⟩
    · cases hresult
    · cases hresult
      exact hR first hP

theorem leads_reaching_convert {x : Except ε α} {wrap : ε → Failure}
    (herror : ∀ e, x = .error e → R [] (.error ⟨stage, wrap e⟩))
    (hok : ∀ a, x = .ok a → Leads (next a) R) :
    Leads (reaching stage (Action.ofExcept wrap x) >>= next) R := by
  cases x with
  | error e => exact fun world => ⟨[], (List.append_nil _).symm, herror e rfl⟩
  | ok a => exact fun world => hok a rfl world

end

section

variable {mint : Mint Observed} {may : Traces} (h : Follows mint may)

include h

theorem leads_checkIndex : Leads mint.checkIndex (ChecksIndex may) := by
  unfold checkIndex
  refine h.runesIndexed.andThen (fun _ _ => .failed) ?_
  intro indexed
  cases indexed with
  | true =>
    refine .pure ?_
    intro first hfirst
    rw [List.append_nil]
    exact .enabled hfirst
  | false =>
    refine .throw ?_
    intro first hfirst
    rw [List.append_nil]
    exact .disabled hfirst

theorem leads_eligible (rune : SpacedRune) :
    Leads (mint.eligible rune) (FindsEligible may rune) := by
  unfold eligible
  refine h.chainHeight.andThen (fun _ _ => .noHeight) ?_
  intro height
  refine (h.lookup rune).andThen (fun rest e hlookup first hheight => .noAnswer hheight hlookup) ?_
  intro found
  rcases found with _ | ⟨id, entry⟩
  · refine .throw fun rest hlookup first hheight => ?_
    rw [List.append_nil]
    exact .notEtched hheight hlookup
  · dsimp only
    cases hmintable : entry.mintable height with
    | error refusal =>
      refine .throw fun rest hlookup first hheight => ?_
      rw [List.append_nil]
      exact .refused hheight hlookup hmintable
    | ok amount =>
      refine .pure fun rest hlookup first hheight => ?_
      rw [List.append_nil]
      exact .eligible hheight hlookup hmintable

theorem leads_destinationScript (destination : Option String) :
    Leads (mint.destinationScript destination) (FindsDestination may destination) := by
  cases destination with
  | none => exact h.changeScript.mono fun _ _ => .change
  | some text =>
    unfold destinationScript
    refine .convert (fun e he => .unreadable he) fun address haddress => ?_
    refine h.network.andThen (fun _ _ => .noNetwork haddress) fun network => ?_
    refine .convert ?_ fun checked hchecked => .pure ?_
    · intro e he made hnetwork
      rw [List.append_nil]
      exact .wrongNetwork haddress hnetwork he
    · intro made hnetwork
      rw [List.append_nil]
      exact .found haddress hnetwork hchecked

theorem leads_buildSkeleton (request : MintRequest) (script : Bytes) :
    Leads (mint.buildSkeleton request script)
      (BuildsSkeleton may request mint.targetPostage script) := by
  unfold buildSkeleton
  refine (leads_destinationScript h request.destination).andThen (fun _ _ => .noDestination) ?_
  intro destination
  refine .result fun made hdestination => ?_
  rw [List.append_nil]
  exact .built hdestination rfl

theorem leads_releaseAfterFailure (coins : List Coin) :
    Leads (mint.releaseAfterFailure coins) fun made outcome =>
      ∃ released, may.release coins made released ∧ outcome = forgiven released := by
  unfold releaseAfterFailure
  refine (h.release coins).tryCatch (Q := fun e rest outcome =>
    rest = [] ∧ outcome = forgiven (.error e)) ?_ ?_ ?_
  · intro e
    cases e <;> exact .result ⟨rfl, rfl⟩
  · intro made released hrelease
    exact ⟨.ok released, hrelease, rfl⟩
  · rintro e first rest outcome hrelease ⟨rfl, rfl⟩
    rw [List.append_nil]
    exact ⟨.error e, hrelease, rfl⟩

theorem leads_fundLocked (skeleton : Transaction) (feeRate : FeeRate) :
    Leads (mint.fundLocked skeleton feeRate) (FundsLocked may skeleton feeRate) := by
  unfold fundLocked
  refine h.lockNonCardinal.andThen (fun _ _ => .notLocked) fun coins => ?_
  -- The handler releases what was locked and then tells why funding failed.
  refine (h.fund skeleton feeRate).tryCatch
    (fun e => (leads_releaseAfterFailure h coins).bind
      (Q := fun _ rest result => rest = [] ∧ result = .error e)
      (R := fun rest result => ∃ released, may.release coins rest released
        ∧ result = .error (toldAfter e released))
      (fun _ => .throw ⟨rfl, rfl⟩) ?_ ?_) ?_ ?_
  · rintro made other ⟨released, hrelease, hother⟩
    refine ⟨released, hrelease, ?_⟩
    rw [toldAfter, ← hother]
  · rintro _ made rest result ⟨released, hrelease, hother⟩ ⟨rfl, rfl⟩
    rw [List.append_nil]
    refine ⟨released, hrelease, ?_⟩
    rw [toldAfter, ← hother]
  · intro made tx hfund first hlock
    exact .funded hlock hfund
  · rintro e middle rest result hfund ⟨released, hrelease, rfl⟩ first hlock
    exact .notFunded hlock hfund hrelease

theorem leads_fund (request : MintRequest) :
    Leads (mint.fund request) (Funds may request mint.targetPostage) := by
  unfold fund
  refine leads_reaching (leads_checkIndex h) (fun _ _ hindex => .notBegun (.unchecked hindex))
    fun _ => ?_
  refine leads_reaching (leads_eligible h request.rune)
    (fun _ _ hlookup _ hindex => .notBegun (.ineligible hindex hlookup)) ?_
  rintro ⟨id, pile⟩
  refine leads_reaching_convert ?_ ?_
  · intro e hscript second heligible first hindex
    rw [List.append_nil]
    exact .notBegun (.unencoded hindex heligible hscript)
  -- Enciphering makes no call: it either ends the run here or yields the script.
  rintro ⟨runestone, script⟩ hscript
  refine leads_reaching (leads_buildSkeleton h request script) ?_ fun skeleton => ?_
  · intro third e hskeleton second heligible first hindex
    exact .notBegun (.unbuilt hindex heligible hscript hskeleton)
  refine leads_reaching (leads_fundLocked h skeleton request.feeRate) ?_ fun tx => .pure ?_
  · intro rest e hfunded third hskeleton second heligible first hindex
    rw [← List.append_assoc second, ← List.append_assoc]
    exact .unfunded (.begun hindex heligible hscript hskeleton) hfunded
  · intro rest hfunded third hskeleton second heligible first hindex
    rw [List.append_nil, ← List.append_assoc second, ← List.append_assoc]
    exact .funded (.begun hindex heligible hscript hskeleton) hfunded

/-- A run does as its stages say. -/
theorem leads_run (request : MintRequest) :
    Leads (mint.run request) (Runs may request mint.targetPostage) := by
  unfold run
  refine (leads_fund h request).andThen (fun _ _ => .unfunded) fun funded => ?_
  refine leads_reaching (h.sign funded.transaction)
    (fun _ _ hsigned _ hfunded => .unsigned hfunded hsigned) fun signed => ?_
  -- Only a transaction that carries the runestone is relayed; otherwise no call follows.
  by_cases hcarries : Runestone.decipher signed = some (.runestone funded.runestone)
  · have hbroadcast : mint.broadcastChecked funded.runestone signed = mint.node.broadcast signed :=
      if_pos hcarries
    rw [hbroadcast]
    refine leads_reaching (h.broadcast signed) ?_ fun answer => .pure ?_
    · intro third e hthird second hsigned first hfunded
      exact .refused hfunded hsigned hcarries hthird
    · intro third hthird second hsigned first hfunded
      rw [List.append_nil]
      exact .minted hfunded hsigned hcarries hthird
  · have hmismatch : mint.broadcastChecked funded.runestone signed
        = throw (mismatchOf funded.runestone signed) := by
      unfold broadcastChecked mismatchOf
      rw [if_neg hcarries]
      cases signed.toHex <;> rfl
    rw [hmismatch]
    refine leads_reaching (P := fun made result =>
      made = [] ∧ result = .error (mismatchOf funded.runestone signed)) (.throw ⟨rfl, rfl⟩) ?_ ?_
    · rintro made e ⟨rfl, he⟩ second hsigned first hfunded
      cases he
      rw [List.append_nil]
      exact .mismatch hfunded hsigned hcarries
    · rintro answer
      refine .pure ?_
      rintro made ⟨-, hanswer⟩
      cases hanswer

theorem leads_prepare (request : MintRequest) :
    Leads (mint.prepare request) (Prepares may request mint.targetPostage) := by
  unfold prepare
  refine (leads_fund h request).andThen (fun _ _ => .unfunded) fun funded => .pure ?_
  intro made hfunded
  rw [List.append_nil]
  exact .prepared hfunded

end

/-! ## One call for each action -/

/-- A mint that calls on its surroundings for everything. -/
def observed (around : Behaviour) (targetPostage : Postage) : Mint Observed where
  index := around.index
  wallet := around.wallet
  node := around.completion
  targetPostage := targetPostage

/-- Every action is one call. -/
def oneCall : Traces where
  runesIndexed made result := made = [⟨.runesIndexed, result⟩]
  chainHeight made result := made = [⟨.chainHeight, result⟩]
  lookup rune made result := made = [⟨.lookup rune, result⟩]
  lockNonCardinal made result := made = [⟨.lockNonCardinal, result⟩]
  release coins made result := made = [⟨.release coins, result⟩]
  changeScript made result := made = [⟨.changeScript, result⟩]
  network made result := made = [⟨.network, result⟩]
  fund tx feeRate made result := made = [⟨.fund tx feeRate, result⟩]
  sign tx made result := made = [⟨.sign tx, result⟩]
  broadcast tx made result := made = [⟨.broadcast tx, result⟩]

theorem follows_observed (around : Behaviour) (targetPostage : Postage) :
    Follows (observed around targetPostage) oneCall where
  runesIndexed _ := ⟨_, rfl, rfl⟩
  chainHeight _ := ⟨_, rfl, rfl⟩
  lookup _ _ := ⟨_, rfl, rfl⟩
  lockNonCardinal _ := ⟨_, rfl, rfl⟩
  release _ _ := ⟨_, rfl, rfl⟩
  changeScript _ := ⟨_, rfl, rfl⟩
  network _ := ⟨_, rfl, rfl⟩
  fund _ _ _ := ⟨_, rfl, rfl⟩
  sign _ _ := ⟨_, rfl, rfl⟩
  broadcast _ _ := ⟨_, rfl, rfl⟩

/-- The kinds of calls that are made of the one call of an action. -/
theorem kind_of_oneCall {α : Type} {call : Call} {f : Except Failure α → call.Answer}
    {kinds : List Call.Kind} (h : call.kind ∈ kinds) :
    Trace.All (fun made result => made = [⟨call, f result⟩]) (·.call.kind ∈ kinds) :=
  Trace.all_oneCall fun _ => h

end Runesmith.Mint
