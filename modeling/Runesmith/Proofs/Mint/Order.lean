import Runesmith.Proofs.Mint.Book
import Runesmith.Proofs.Mint.Stages
import Runesmith.Proofs.Runestone.Mint

/-!
# The order of a mint

Whatever those that a mint works with answer, it calls on them in one order and each at most once.
It goes on only behind a call that did not fail; the one call behind a failing one releases coins
that were locked, behind a failing funding. A run that fails tells the stage that could not be
reached.

* `route` is the order, `stageOf` the stage that a call leads to;
* `Refuses` names the rules that may end a run whose calls were all answered;
* `InOrder` says how the calls of a run and its end go together, for every run
  (`orderly_run_and_prepare`).
-/

namespace Runesmith

/-! ## Calls in order -/

/-- The failure of an answer. -/
@[simp] def failureOf? {α : Type} : Except Failure α → Option Failure
  | .ok _ => none
  | .error e => some e

/-- The failure that a call was answered with. Calls over a connection do not fail so. -/
def Exchange.failure? : Exchange → Option Failure
  | ⟨.runesIndexed, answer⟩ => failureOf? answer
  | ⟨.chainHeight, answer⟩ => failureOf? answer
  | ⟨.lookup _, answer⟩ => failureOf? answer
  | ⟨.blockCount, answer⟩ => failureOf? answer
  | ⟨.coinInfo _, answer⟩ => failureOf? answer
  | ⟨.lockNonCardinal, answer⟩ => failureOf? answer
  | ⟨.release _, answer⟩ => failureOf? answer
  | ⟨.changeScript, answer⟩ => failureOf? answer
  | ⟨.network, answer⟩ => failureOf? answer
  | ⟨.fund _ _, answer⟩ => failureOf? answer
  | ⟨.sign _, answer⟩ => failureOf? answer
  | ⟨.broadcast _, answer⟩ => failureOf? answer
  | ⟨.get _, _⟩ => none
  | ⟨.post _, _⟩ => none
  | ⟨.sleep _, _⟩ => none

/-- The kinds of the calls, in order. -/
def History.kinds (history : History) : List Call.Kind :=
  history.map (·.call.kind)

@[simp] theorem History.kinds_nil : History.kinds [] = [] :=
  rfl

@[simp] theorem History.kinds_cons (x : Exchange) (rest : History) :
    History.kinds (x :: rest) = x.call.kind :: History.kinds rest :=
  rfl

@[simp] theorem History.kinds_append (first rest : History) :
    History.kinds (first ++ rest) = first.kinds ++ rest.kinds :=
  List.map_append

/-- None of the calls failed. -/
def History.Fine (history : History) : Prop :=
  ∀ x ∈ history, x.failure? = none

@[simp] theorem History.fine_nil : History.Fine [] :=
  List.forall_mem_nil _

@[simp] theorem History.fine_cons {x : Exchange} {rest : History} :
    History.Fine (x :: rest) ↔ x.failure? = none ∧ rest.Fine :=
  List.forall_mem_cons

@[simp] theorem History.fine_append {first rest : History} :
    History.Fine (first ++ rest) ↔ first.Fine ∧ rest.Fine :=
  List.forall_mem_append

namespace Mint

/-- The call that the script of a destination takes; none for text that is no address. -/
def destinationCall? : Option String → Option Call.Kind
  | none => some .changeScript
  | some text => if (Address.ofText text).isOk then some .network else none

theorem destinationCall?_of_address {text : String} {address : Address}
    (h : Address.ofText text = .ok address) : destinationCall? (some text) = some .network := by
  rw [destinationCall?, h]
  rfl

/-- The calls on the way of a request, in order, with those that follow a funded transaction. -/
def route (destination : Option String) (behind : List Call.Kind) : List Call.Kind :=
  [.runesIndexed, .chainHeight, .lookup] ++
    match destinationCall? destination with
    | some kind => [kind, .lockNonCardinal, .fund] ++ behind
    | none => []

theorem route_of_call {destination : Option String} {behind : List Call.Kind} {kind : Call.Kind}
    (h : destinationCall? destination = some kind) : route destination behind =
      [.runesIndexed, .chainHeight, .lookup, kind, .lockNonCardinal, .fund] ++ behind := by
  rw [route, h]
  rfl

theorem route_of_none {destination : Option String} {behind : List Call.Kind}
    (h : destinationCall? destination = none) :
    route destination behind = [.runesIndexed, .chainHeight, .lookup] := by
  rw [route, h]
  rfl

/-- The stage that a call leads to. -/
def stageOf : Call.Kind → Stage
  | .runesIndexed => .indexChecked
  | .chainHeight => .eligible
  | .lookup => .eligible
  | .changeScript => .skeletonBuilt
  | .network => .skeletonBuilt
  | .lockNonCardinal => .funded
  | .fund => .funded
  | .sign => .signed
  | .broadcast => .broadcast
  | _ => .requested

/-- The rules that end a run although every call was answered, with the call that came last. -/
inductive Refuses (request : MintRequest) (targetPostage : Postage) : History → Stopped → Prop where
  | notIndexed :
      Refuses request targetPostage [⟨.runesIndexed, .ok false⟩] ⟨.indexChecked, .runesNotIndexed⟩
  | notEtched {before : History} :
      Refuses request targetPostage (before ++ [⟨.lookup request.rune, .ok none⟩])
        ⟨.eligible, .notEtched request.rune⟩
  | ineligible {before : History} {height : Int} {id : RuneId} {entry : Entry}
      {refusal : Entry.Refusal} (hheight : ⟨.chainHeight, .ok height⟩ ∈ before)
      (h : entry.mintable height = .error refusal) :
      Refuses request targetPostage (before ++ [⟨.lookup request.rune, .ok (some (id, entry))⟩])
        ⟨.eligible, .ineligible refusal (some request.rune)⟩
  | unreadable {before : History} {height : Int} {id : RuneId} {entry : Entry} {amount : Int}
      {text : String} {e : Address.Error} (hheight : ⟨.chainHeight, .ok height⟩ ∈ before)
      (hmintable : entry.mintable height = .ok amount) (htext : request.destination = some text)
      (h : Address.ofText text = .error e) :
      Refuses request targetPostage (before ++ [⟨.lookup request.rune, .ok (some (id, entry))⟩])
        ⟨.skeletonBuilt, .address e⟩
  | wrongNetwork {before : History} {text : String} {address : Address} {network : Network}
      {e : Address.WrongNetwork} (htext : request.destination = some text)
      (haddress : Address.ofText text = .ok address)
      (h : address.requireNetwork network = .error e) :
      Refuses request targetPostage (before ++ [⟨.network, .ok network⟩])
        ⟨.skeletonBuilt, .wrongNetwork e⟩
  | dust {before last : History} {script : Bytes}
      (hscript : FindsDestination oneCall request.destination last (.ok script))
      (h : (postageOf request targetPostage).value ≤ Script.dust script) :
      Refuses request targetPostage (before ++ last)
        ⟨.skeletonBuilt, .belowDust (postageOf request targetPostage) (Script.dust script)⟩
  | mismatch {before : History} {id : RuneId} {entry : Entry} {tx signed : Transaction}
      (hlookup : ⟨.lookup request.rune, .ok (some (id, entry))⟩ ∈ before)
      (h : Runestone.decipher signed ≠ some (.runestone (.ofMint id))) :
      Refuses request targetPostage (before ++ [⟨.sign tx, .ok signed⟩])
        ⟨.broadcast, mismatchOf (.ofMint id) signed⟩

/-- How the calls of a run and its end go together. -/
inductive InOrder (request : MintRequest) (targetPostage : Postage) (behind : List Call.Kind)
    {α : Type} : Trace Stopped α where
  /-- All calls on the route were made. -/
  | returned {made : History} {x : α} (hroute : made.kinds = route request.destination behind)
      (hfine : made.Fine) : InOrder request targetPostage behind made (.ok x)
  /-- The last call failed. -/
  | failed {before : History} {x : Exchange} {e : Failure}
      (hroute : History.kinds (before ++ [x]) <+: route request.destination behind)
      (hfine : before.Fine) (hkind : x.call.kind ≠ .fund) (h : x.failure? = some e) :
      InOrder request targetPostage behind (before ++ [x]) (.error ⟨stageOf x.call.kind, e⟩)
  /-- Funding failed. The coins that were locked are released, and no other call follows. -/
  | unfunded {before : History} {coins : List Coin} {skeleton : Transaction} {e : Failure}
      {released : Except Failure Unit}
      (hroute : History.kinds (before ++ [⟨.fund skeleton request.feeRate, .error e⟩]) <+:
        route request.destination behind)
      (hfine : before.Fine) (hlocked : ⟨.lockNonCardinal, .ok coins⟩ ∈ before) :
      InOrder request targetPostage behind
        (before ++ [⟨.fund skeleton request.feeRate, .error e⟩, ⟨.release coins, released⟩])
        (.error ⟨.funded, toldAfter e released⟩)
  /-- A rule of the mint was broken. -/
  | refused {made : History} {stopped : Stopped}
      (hroute : made.kinds <+: route request.destination behind) (hfine : made.Fine)
      (h : Refuses request targetPostage made stopped) :
      InOrder request targetPostage behind made (.error stopped)

/-! ## What the order says -/

section

variable {request : MintRequest} {targetPostage : Postage} {behind : List Call.Kind} {α : Type}
  {made : History} {result : Except Stopped α}

theorem nodup_route (destination : Option String) (h : behind <+: [.sign, .broadcast]) :
    (route destination behind ++ [Call.Kind.release]).Nodup := by
  have hcall : ∀ kind ∈ destinationCall? destination,
      kind ∈ [Call.Kind.changeScript, .network] := by
    cases destination with
    | none => simp [destinationCall?]
    | some text =>
      rw [destinationCall?]
      split <;> simp
  -- It is enough to look at the longest route.
  have hlong : ∀ kind ∈ [Call.Kind.changeScript, .network],
      ([.runesIndexed, .chainHeight, .lookup, kind, .lockNonCardinal, .fund, .sign, .broadcast,
        .release] : List Call.Kind).Nodup := by
    decide
  cases hkind : destinationCall? destination with
  | none =>
    rw [route_of_none hkind]
    decide
  | some kind =>
    refine (hlong kind (hcall kind hkind)).sublist ?_
    rw [route_of_call hkind]
    exact ((List.Sublist.refl [Call.Kind.runesIndexed, .chainHeight, .lookup, kind,
      .lockNonCardinal, .fund]).append h.sublist).append (List.Sublist.refl _)

/-- Every call is made at most once. -/
theorem InOrder.nodup_kinds (h : InOrder request targetPostage behind made result)
    (hbehind : behind <+: [.sign, .broadcast]) : made.kinds.Nodup := by
  have hnodup := nodup_route request.destination hbehind
  have hroute := hnodup.sublist (List.sublist_append_left _ _)
  cases h with
  | returned h => exact h ▸ hroute
  | failed h => exact hroute.sublist h.sublist
  | @unfunded before coins skeleton e released h =>
    have hkinds : History.kinds (before ++
        [⟨.fund skeleton request.feeRate, .error e⟩, ⟨.release coins, released⟩]) =
        History.kinds (before ++ [⟨.fund skeleton request.feeRate, .error e⟩]) ++ [.release] := by
      simp [Call.kind]
    rw [hkinds]
    exact hnodup.sublist (h.sublist.append (List.Sublist.refl _))
  | refused h => exact hroute.sublist h.sublist

/-- The runestone of a mint can always be written, so that no run ends for want of it. -/
theorem InOrder.stage_ne_encoded {stopped : Stopped}
    (h : InOrder request targetPostage behind made (.error stopped : Except Stopped α)) :
    stopped.stage ≠ .encoded := by
  cases h with
  | @failed _ x => cases hkind : x.call.kind <;> simp [stageOf]
  | unfunded => simp
  | refused _ _ h => cases h <;> simp

end

/-! ## What has been called before a stage -/

section

variable {request : MintRequest} {targetPostage : Postage} {behind : List Call.Kind} {α : Type}
  {made : History}

theorem prefix_route {destination : Option String} {kinds : List Call.Kind}
    (h : kinds <+: [.runesIndexed, .chainHeight, .lookup]) : kinds <+: route destination behind :=
  h.trans (List.prefix_append _ _)

theorem prefix_route_call {destination : Option String} {kind : Call.Kind}
    (h : destinationCall? destination = some kind) :
    [.runesIndexed, .chainHeight, .lookup, kind] <+: route destination behind := by
  rw [route_of_call h]
  exact ⟨[.lockNonCardinal, .fund] ++ behind, rfl⟩

theorem exchanges_of_checksIndex (h : ChecksIndex oneCall made (.ok ())) :
    made = [⟨.runesIndexed, .ok true⟩] := by
  cases h with
  | enabled h => exact h

theorem exchanges_of_findsEligible {rune : SpacedRune} {id : RuneId} {pile : Pile}
    (h : FindsEligible oneCall rune made (.ok (id, pile))) :
    ∃ height entry amount, entry.mintable height = .ok amount ∧
      made = [⟨.chainHeight, .ok height⟩, ⟨.lookup rune, .ok (some (id, entry))⟩] := by
  cases h with
  | @eligible first rest height id entry amount hheight hlookup h =>
    refine ⟨height, entry, amount, h, ?_⟩
    rw [show first = _ from hheight, show rest = _ from hlookup]
    rfl

theorem exchange_of_findsDestination {destination : Option String} {script : Bytes}
    (h : FindsDestination oneCall destination made (.ok script)) :
    ∃ x, made = [x] ∧ destinationCall? destination = some x.call.kind ∧ x.failure? = none := by
  cases h with
  | change h => exact ⟨⟨.changeScript, .ok script⟩, h, rfl, rfl⟩
  | @found text address checked _ network haddress hnetwork h =>
    exact ⟨⟨.network, .ok network⟩, hnetwork, destinationCall?_of_address haddress, rfl⟩

/-- All calls up to the skeleton were made, and after them calls of these kinds, and none failed.
The runestone is the one of the rune that was found. -/
structure Passed (request : MintRequest) (behind : List Call.Kind) (made : History)
    (runestone : Runestone) : Prop where
  kinds : ∃ kind, destinationCall? request.destination = some kind ∧
    made.kinds = [.runesIndexed, .chainHeight, .lookup, kind] ++ behind
  fine : made.Fine
  found : ∃ id entry, ⟨.lookup request.rune, .ok (some (id, entry))⟩ ∈ made ∧
    runestone = .ofMint id

theorem Passed.append {runestone : Runestone} (h : Passed request behind made runestone)
    {rest : History} (hrest : rest.Fine) :
    Passed request (behind ++ rest.kinds) (made ++ rest) runestone where
  kinds := by
    obtain ⟨kind, hkind, hmade⟩ := h.kinds
    refine ⟨kind, hkind, ?_⟩
    rw [History.kinds_append, hmade, List.append_assoc]
  fine := History.fine_append.2 ⟨h.fine, hrest⟩
  found := by
    obtain ⟨id, entry, hmem, hrunestone⟩ := h.found
    exact ⟨id, entry, List.mem_append_left rest hmem, hrunestone⟩

/-- What may follow on the route may be called. -/
theorem Passed.prefix_route {runestone : Runestone} {kinds : List Call.Kind}
    (h : Passed request kinds made runestone) (more : List Call.Kind)
    (hmore : kinds ++ more <+: [.lockNonCardinal, .fund] ++ behind) :
    made.kinds ++ more <+: route request.destination behind := by
  obtain ⟨kind, hkind, hmade⟩ := h.kinds
  rw [hmade, route_of_call hkind, List.append_assoc]
  exact (List.prefix_append_right_inj [Call.Kind.runesIndexed, .chainHeight, .lookup, kind]).2 hmore

theorem Passed.kinds_eq_route {runestone : Runestone}
    (h : Passed request ([.lockNonCardinal, .fund] ++ behind) made runestone) :
    made.kinds = route request.destination behind := by
  obtain ⟨kind, hkind, hmade⟩ := h.kinds
  rw [hmade, route_of_call hkind]
  rfl

theorem passed_of_begins {runestone : Runestone} {pile : Pile} {skeleton : Transaction}
    (h : Begins oneCall request targetPostage made (.ok (runestone, pile, skeleton))) :
    Passed request [] made runestone := by
  cases h with
  | @begun first second third id _ _ script _ hindex heligible hscript hskeleton =>
    obtain ⟨height, entry, amount, -, rfl⟩ := exchanges_of_findsEligible heligible
    cases hskeleton with
    | built hdestination _ =>
      obtain ⟨x, rfl, hcall, hx⟩ := exchange_of_findsDestination hdestination
      rw [Runestone.encipherMint_eq] at hscript
      cases hscript
      rw [exchanges_of_checksIndex hindex, ← List.append_assoc]
      exact {
        kinds := ⟨x.call.kind, hcall, rfl⟩
        fine := History.fine_append.2 ⟨by simp [Exchange.failure?], by simp [hx]⟩
        found := ⟨id, entry, by simp, rfl⟩ }

theorem passed_of_funds {funded : Funded}
    (h : Funds oneCall request targetPostage made (.ok funded)) :
    Passed request [.lockNonCardinal, .fund] made funded.runestone := by
  cases h with
  | @funded _ _ _ _ skeleton tx hbegun h =>
    cases h with
    | @funded first rest coins _ hlock hfund =>
      have hrest : History.Fine
          [⟨.lockNonCardinal, .ok coins⟩, ⟨.fund skeleton request.feeRate, .ok tx⟩] := by
        simp [Exchange.failure?]
      rw [show first = _ from hlock, show rest = _ from hfund]
      exact (passed_of_begins hbegun).append hrest

/-! ## The ends of a run -/

/-- A call that fails ends the run. -/
theorem inOrder_failed {before last : History} {call : Call} {answer : call.Answer} {e : Failure}
    (hlast : last = [⟨call, answer⟩])
    (hroute : before.kinds ++ [call.kind] <+: route request.destination behind)
    (hfine : before.Fine) (hkind : call.kind ≠ .fund)
    (h : Exchange.failure? ⟨call, answer⟩ = some e) :
    InOrder request targetPostage behind (before ++ last)
      (.error ⟨stageOf call.kind, e⟩ : Except Stopped α) := by
  subst hlast
  have hkinds : History.kinds (before ++ [⟨call, answer⟩]) = before.kinds ++ [call.kind] :=
    History.kinds_append _ _
  exact .failed (x := ⟨call, answer⟩) (hkinds ▸ hroute) hfine hkind h

theorem inOrder_eligible {first second : History} {e : Failure}
    (hindex : ChecksIndex oneCall first (.ok ()))
    (h : FindsEligible oneCall request.rune second (.error e)) :
    InOrder request targetPostage behind (first ++ second)
      (.error ⟨.eligible, e⟩ : Except Stopped α) := by
  rw [exchanges_of_checksIndex hindex]
  cases h with
  | noHeight h =>
    exact inOrder_failed h (prefix_route ⟨[.lookup], rfl⟩) (by simp [Exchange.failure?]) nofun rfl
  | noAnswer hheight h =>
    rw [hheight, ← List.append_assoc]
    exact inOrder_failed h (prefix_route ⟨[], rfl⟩) (by simp [Exchange.failure?]) nofun rfl
  | notEtched hheight h =>
    rw [hheight, h, ← List.append_assoc]
    exact .refused (prefix_route ⟨[], rfl⟩) (by simp [Exchange.failure?])
      .notEtched
  | refused hheight hlookup h =>
    rw [hheight, hlookup, ← List.append_assoc]
    exact .refused (prefix_route ⟨[], rfl⟩) (by simp [Exchange.failure?])
      (.ineligible (by simp) h)

theorem inOrder_unbuilt {first second third : History} {id : RuneId} {pile : Pile} {e : Failure}
    (hindex : ChecksIndex oneCall first (.ok ()))
    (heligible : FindsEligible oneCall request.rune second (.ok (id, pile)))
    (h : BuildsSkeleton oneCall request targetPostage (Runestone.mintScript id) third (.error e)) :
    InOrder request targetPostage behind (first ++ (second ++ third))
      (.error ⟨.skeletonBuilt, e⟩ : Except Stopped α) := by
  obtain ⟨height, entry, amount, hmintable, rfl⟩ := exchanges_of_findsEligible heligible
  rw [exchanges_of_checksIndex hindex, ← List.append_assoc]
  cases h with
  | noDestination h =>
    generalize hdestination : request.destination = destination at h
    cases h with
    | change h =>
      have hcall : destinationCall? request.destination = some .changeScript := by
        rw [hdestination]
        rfl
      exact inOrder_failed h (prefix_route_call hcall) (by simp [Exchange.failure?]) nofun rfl
    | @unreadable text _ h =>
      have hrefuses : Refuses request targetPostage
          ([⟨.runesIndexed, .ok true⟩, ⟨.chainHeight, .ok height⟩] ++
            [⟨.lookup request.rune, .ok (some (id, entry))⟩]) ⟨.skeletonBuilt, .address _⟩ :=
        .unreadable (by simp) hmintable hdestination h
      rw [List.append_nil]
      exact .refused (prefix_route ⟨[], rfl⟩) (by simp [Exchange.failure?]) hrefuses
    | @noNetwork text address _ _ haddress h =>
      have hcall : destinationCall? request.destination = some .network :=
        hdestination ▸ destinationCall?_of_address haddress
      exact inOrder_failed h (prefix_route_call hcall) (by simp [Exchange.failure?]) nofun rfl
    | @wrongNetwork text address _ network _ haddress hnetwork h =>
      have hcall : destinationCall? request.destination = some .network :=
        hdestination ▸ destinationCall?_of_address haddress
      rw [show third = _ from hnetwork]
      exact .refused (prefix_route_call hcall) (by simp [Exchange.failure?])
        (.wrongNetwork hdestination haddress h)
  | built hdestination h =>
    obtain ⟨hdust, rfl⟩ := skeleton_eq_error_iff.1 h
    obtain ⟨x, rfl, hcall, hx⟩ := exchange_of_findsDestination hdestination
    exact .refused (prefix_route_call hcall)
      (History.fine_append.2 ⟨by simp [Exchange.failure?], by simp [hx]⟩) (.dust hdestination hdust)

theorem inOrder_begins {stopped : Stopped}
    (h : Begins oneCall request targetPostage made (.error stopped)) :
    InOrder request targetPostage behind made (.error stopped : Except Stopped α) := by
  cases h with
  | unchecked h =>
    cases h with
    | failed h =>
      rw [← List.nil_append made]
      exact inOrder_failed h (prefix_route ⟨[.chainHeight, .lookup], rfl⟩) (by simp) nofun rfl
    | disabled h =>
      rw [show made = _ from h]
      exact .refused (prefix_route ⟨[.chainHeight, .lookup], rfl⟩) (by simp [Exchange.failure?])
        .notIndexed
  | ineligible hindex h => exact inOrder_eligible hindex h
  | unencoded _ _ h =>
    rw [Runestone.encipherMint_eq] at h
    cases h
  | unbuilt hindex heligible hscript h =>
    rw [Runestone.encipherMint_eq] at hscript
    cases hscript
    exact inOrder_unbuilt hindex heligible h

theorem inOrder_unfunded {runestone : Runestone} {skeleton : Transaction} {rest : History}
    {e : Failure} (hbegun : Passed request [] made runestone)
    (h : FundsLocked oneCall skeleton request.feeRate rest (.error e)) :
    InOrder request targetPostage behind (made ++ rest)
      (.error ⟨.funded, e⟩ : Except Stopped α) := by
  cases h with
  | notLocked hlock =>
    have hroute : made.kinds ++ [.lockNonCardinal] <+: route request.destination behind :=
      hbegun.prefix_route _ ⟨.fund :: behind, rfl⟩
    exact inOrder_failed hlock hroute hbegun.fine nofun rfl
  | @notFunded first middle rest coins e released hlock hfund hrelease =>
    have hroute : made.kinds ++ [.lockNonCardinal, .fund] <+: route request.destination behind :=
      hbegun.prefix_route _ ⟨behind, rfl⟩
    rw [show first = _ from hlock, show middle = _ from hfund, show rest = _ from hrelease,
      ← List.append_assoc]
    refine .unfunded ?_ ?_ (List.mem_append_right made (by simp))
    · simpa [Call.kind] using hroute
    · exact History.fine_append.2 ⟨hbegun.fine, by simp [Exchange.failure?]⟩

theorem inOrder_funds {stopped : Stopped}
    (h : Funds oneCall request targetPostage made (.error stopped)) :
    InOrder request targetPostage behind made (.error stopped : Except Stopped α) := by
  cases h with
  | notBegun h => exact inOrder_begins h
  | unfunded hbegun h => exact inOrder_unfunded (passed_of_begins hbegun) h

end

section

variable {request : MintRequest} {targetPostage : Postage} {made : History}

/-- A mint is done in order. -/
theorem inOrder_runs {result : Except Stopped Result}
    (h : Runs oneCall request targetPostage made result) :
    InOrder request targetPostage [.sign, .broadcast] made result := by
  cases h with
  | unfunded h => exact inOrder_funds h
  | unsigned hfunded h =>
    have hpassed := passed_of_funds hfunded
    exact inOrder_failed h (hpassed.prefix_route _ ⟨[.broadcast], rfl⟩) hpassed.fine nofun rfl
  | @mismatch first second funded signed hfunded hsigned h =>
    have hpassed := passed_of_funds hfunded
    obtain ⟨id, entry, hlookup, hrunestone⟩ := hpassed.found
    have hroute : first.kinds ++ [.sign] <+: route request.destination [.sign, .broadcast] :=
      hpassed.prefix_route _ ⟨[.broadcast], rfl⟩
    rw [show second = _ from hsigned, hrunestone]
    rw [hrunestone] at h
    refine .refused ?_ ?_ (.mismatch hlookup h)
    · simpa [Call.kind] using hroute
    · exact History.fine_append.2 ⟨hpassed.fine, by simp [Exchange.failure?]⟩
  | @refused first second third funded signed e hfunded hsigned hcarries h =>
    have hsign : History.Fine [⟨.sign funded.transaction, .ok signed⟩] := by
      simp [Exchange.failure?]
    have hpassed := (passed_of_funds hfunded).append hsign
    rw [show second = _ from hsigned, ← List.append_assoc]
    exact inOrder_failed h (hpassed.prefix_route _ ⟨[], rfl⟩) hpassed.fine nofun rfl
  | @minted first second third funded signed answer hfunded hsigned hcarries h =>
    have hrest : History.Fine
        [⟨.sign funded.transaction, .ok signed⟩, ⟨.broadcast signed, .ok answer⟩] := by
      simp [Exchange.failure?]
    have hpassed := (passed_of_funds hfunded).append hrest
    rw [show second = _ from hsigned, show third = _ from h]
    exact .returned hpassed.kinds_eq_route hpassed.fine

theorem inOrder_prepares {result : Except Stopped Prepared}
    (h : Prepares oneCall request targetPostage made result) :
    InOrder request targetPostage [] made result := by
  cases h with
  | unfunded h => exact inOrder_funds h
  | prepared h =>
    have hpassed := passed_of_funds h
    exact .returned hpassed.kinds_eq_route hpassed.fine

end

/-- A run in some surroundings is in order, and so is the book that is kept of it. -/
structure Orderly {α : Type} (request : MintRequest) (targetPostage : Postage)
    (behind : List Call.Kind) (last : Stage) (run : ExceptT Stopped Observed α)
    (noted : Noted Observed α) (world : World) : Prop where
  inOrder : InOrder request targetPostage behind (made run world) (run world).1
  nodup_kinds : (made run world).kinds.Nodup
  stage_ne_encoded : ∀ stopped, (run world).1 = .error stopped → stopped.stage ≠ .encoded
  settled : settle .requested noted world =
    (((run world).1, Stage.closing last (run world).1), (run world).2)

/-- Whatever is answered, a mint calls in one order, each at most once, and stops behind the first
call that fails, but for the release behind a failing funding. It fails with the stage behind the
last one that was noted, never with the one of the runestone. A mint that returns has gone through
all stages, and a prepared mint goes the same way up to a funded transaction. -/
theorem orderly_run_and_prepare (around : Behaviour) (targetPostage : Postage)
    (request : MintRequest) (world : World) :
    let mint := observed around targetPostage
    Orderly request targetPostage [.sign, .broadcast] .reported (mint.run request)
        (mint.notedRun request) world ∧
      Orderly request targetPostage [] .funded (mint.prepare request)
        (mint.notedPrepare request) world := by
  intro mint
  have hfollows : Follows mint oneCall := follows_observed around targetPostage
  have hrun := inOrder_runs ((leads_run hfollows request).made world).2
  have hprepare := inOrder_prepares ((leads_prepare hfollows request).made world).2
  constructor
  · exact {
      inOrder := hrun
      nodup_kinds := hrun.nodup_kinds (List.prefix_refl _)
      stage_ne_encoded := fun stopped hstopped => (hstopped ▸ hrun).stage_ne_encoded
      settled := congrFun (settle_notedRun mint request) world }
  · exact {
      inOrder := hprepare
      nodup_kinds := hprepare.nodup_kinds List.nil_prefix
      stage_ne_encoded := fun stopped hstopped => (hstopped ▸ hprepare).stage_ne_encoded
      settled := congrFun (settle_notedPrepare mint request) world }

end Mint

end Runesmith
