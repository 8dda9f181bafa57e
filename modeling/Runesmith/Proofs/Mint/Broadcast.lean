import Runesmith.Proofs.Mint.Stages

/-!
# Nothing but the intended mint is relayed

Whatever an index, a wallet and a node answer, a mint relays at most one transaction: the signed
one, and only if it deciphers to the runestone that mints the rune that was asked for and found
eligible. A prepared mint neither signs nor relays (`run_only_intended`).
-/

namespace Runesmith.Mint

/-! ## What was called before a transaction is signed -/

/-- The calls found this rune eligible, by the one answer about it and at the one height they
read. -/
structure Finds (request : MintRequest) (made : History) (id : RuneId) (pile : Pile) : Prop where
  eligible : ∃ entry height amount,
    made.of .lookup = [⟨.lookup request.rune, .ok (some (id, entry))⟩]
      ∧ made.of .chainHeight = [⟨.chainHeight, .ok height⟩]
      ∧ entry.mintable height = .ok amount ∧ pile = entry.pile amount

theorem runestone_of_encipherMint {id : RuneId} {runestone : Runestone} {script : Bytes}
    (h : Runestone.encipherMint id = .ok (runestone, script)) : runestone = .ofMint id := by
  unfold Runestone.encipherMint at h
  simp only [bind, Except.bind, pure, Except.pure] at h
  split at h
  · cases h
  · split at h
    · cases h
    · cases h
      rfl

/-- The calls that are made before a transaction is signed. -/
def fundKinds : List Call.Kind :=
  [.runesIndexed, .chainHeight, .lookup, .changeScript, .network, .lockNonCardinal, .fund, .release]

theorem allBegin_oneCall : AllBegin oneCall (·.call.kind ∈ fundKinds) where
  runesIndexed := kind_of_oneCall (by decide)
  chainHeight := kind_of_oneCall (by decide)
  lookup _ := kind_of_oneCall (by simp [Call.kind, fundKinds])
  changeScript := kind_of_oneCall (by decide)
  network := kind_of_oneCall (by decide)

theorem allFund_oneCall {kinds : List Call.Kind} (h : [.lockNonCardinal, .fund, .release] ⊆ kinds) :
    AllFund oneCall (·.call.kind ∈ kinds) where
  lockNonCardinal := kind_of_oneCall (h (by simp [Call.kind]))
  release _ := kind_of_oneCall (h (by simp [Call.kind]))
  fund _ _ := kind_of_oneCall (h (by simp [Call.kind]))

theorem of_eq_nil_of_kinds {made : History} {kinds : List Call.Kind} {kind : Call.Kind}
    (h : ∀ x ∈ made, x.call.kind ∈ kinds) (hkind : kind ∉ kinds) : made.of kind = [] := by
  rw [History.of_eq_nil_iff]
  intro x hx hsame
  rw [← hsame] at hkind
  exact hkind (h x hx)

section

variable {request : MintRequest} {targetPostage : Postage} {made : History}

/-- Funding neither signs nor relays. -/
theorem of_eq_nil_of_funds {result : Except Stopped Funded} {kind : Call.Kind}
    (h : Funds oneCall request targetPostage made result) (hkind : kind ∉ fundKinds) :
    made.of kind = [] :=
  of_eq_nil_of_kinds
    (all_funds allBegin_oneCall (allFund_oneCall (by decide)) request targetPostage made result h)
    hkind

/-- Behind the lookup, only the wallet and the funder are called. -/
theorem kinds_behind_lookup {script : Bytes} {skeleton tx : Transaction} {first rest : History}
    (hskeleton : BuildsSkeleton oneCall request targetPostage script first (.ok skeleton))
    (hlocked : FundsLocked oneCall skeleton request.feeRate rest (.ok tx)) :
    ∀ x ∈ first ++ rest,
      x.call.kind ∈ [Call.Kind.changeScript, .network, .lockNonCardinal, .fund, .release] := by
  have hchange : oneCall.changeScript.All
      (·.call.kind ∈ [Call.Kind.changeScript, .network, .lockNonCardinal, .fund, .release]) :=
    kind_of_oneCall (by decide)
  have hnetwork : oneCall.network.All
      (·.call.kind ∈ [Call.Kind.changeScript, .network, .lockNonCardinal, .fund, .release]) :=
    kind_of_oneCall (by decide)
  refine List.forall_mem_append.2 ⟨?_, ?_⟩
  · exact all_buildsSkeleton hchange hnetwork _ _ _ _ _ hskeleton
  · exact all_fundsLocked (allFund_oneCall (by decide)) _ _ _ _ hlocked

/-- What is funded carries the runestone of the rune that was found eligible. -/
theorem finds_of_funds {funded : Funded}
    (h : Funds oneCall request targetPostage made (.ok funded)) :
    ∃ id, funded.runestone = .ofMint id ∧ Finds request made id funded.pile := by
  rcases h with _ | _ | ⟨hbegun, hlocked⟩
  rcases hbegun with _ | _ | _ | _ | ⟨hindex, heligible, hscript, hskeleton⟩
  -- The height and the rune were asked for once, at the very start.
  have hbehind := kinds_behind_lookup hskeleton hlocked
  rcases hindex with _ | _ | hindex
  rcases heligible with _ | _ | _ | _ | ⟨hheight, hlookup, hmintable⟩
  refine ⟨_, runestone_of_encipherMint hscript, ⟨_, _, _, ?_, ?_, hmintable, rfl⟩⟩
  all_goals
    rw [hindex, hheight, hlookup, List.append_assoc, List.append_assoc, History.of_append,
      History.of_append, of_eq_nil_of_kinds hbehind (by decide)]
    rfl

/-! ## Whole runs -/

theorem Finds.append {id : RuneId} {pile : Pile} {rest : History} (h : Finds request made id pile)
    (hlookup : rest.of .lookup = []) (hheight : rest.of .chainHeight = []) :
    Finds request (made ++ rest) id pile := by
  rcases h with ⟨entry, height, amount, hfirst, hsecond, heligible⟩
  refine ⟨entry, height, amount, ?_, ?_, heligible⟩
  · rw [History.of_append, hlookup, hfirst, List.append_nil]
  · rw [History.of_append, hheight, hsecond, List.append_nil]

/-- Nothing but the intended mint is relayed. A transaction that was signed for the rune that was
found, and does not decipher to the runestone that mints it, is refused. -/
structure OnlyIntended (request : MintRequest) (made : History) (result : Except Stopped Result) :
    Prop where
  relayed : made.of .broadcast = [] ∨ ∃ before unsigned signed answer id pile,
    made = before ++ [⟨.sign unsigned, .ok signed⟩, ⟨.broadcast signed, answer⟩]
      ∧ History.of before .broadcast = [] ∧ Finds request before id pile
      ∧ Runestone.decipher signed = some (.runestone (.ofMint id))
  mismatched : ∀ unsigned signed, ⟨.sign unsigned, .ok signed⟩ ∈ made →
    ∃ id pile, Finds request made id pile ∧
      (Runestone.decipher signed ≠ some (.runestone (.ofMint id)) →
        made.of .broadcast = [] ∧ ∀ rawTx, signed.toHex = .ok rawTx →
          result = .error ⟨.broadcast,
            .encodingMismatch (.ofMint id) (Runestone.decipher signed) rawTx⟩)
  minted : ∀ minted, result = .ok minted → ∃ id signed,
    Finds request made id minted.pile ∧ minted.rune = request.rune
      ∧ made.of .broadcast = [⟨.broadcast signed, .ok minted.mint⟩]

/-- A call that was made once has the one answer that it got. -/
theorem signed_of_mem {tx unsigned signed : Transaction} {result : Except Failure Transaction}
    (h : made.of .sign = [⟨.sign tx, result⟩]) (hmem : ⟨.sign unsigned, .ok signed⟩ ∈ made) :
    result = .ok signed := by
  have hof := History.mem_of hmem (rfl : _ = Call.Kind.sign)
  rw [h, List.mem_singleton] at hof
  cases hof
  rfl

section

variable {first rest : History} {funded : Funded} {signed : Transaction}

/-- Behind funding, calls are those that are made from there on. -/
theorem of_behind_funds {result : Except Stopped Funded} {kind : Call.Kind}
    (h : Funds oneCall request targetPostage first result) (hkind : kind ∉ fundKinds) :
    History.of (first ++ rest) kind = rest.of kind := by
  rw [History.of_append, of_eq_nil_of_funds h hkind, List.nil_append]

/-- A run that relayed what it had signed did so once, and for the rune that it had found. -/
theorem onlyIntended_of_relayed {result : Except Stopped Result} {answer : Except Failure Json}
    (hfunded : Funds oneCall request targetPostage first (.ok funded))
    (hcarries : Runestone.decipher signed = some (.runestone funded.runestone))
    (hresult : ∀ minted, result = .ok minted →
      minted.rune = request.rune ∧ minted.pile = funded.pile ∧ answer = .ok minted.mint) :
    OnlyIntended request
      (first ++ [⟨.sign funded.transaction, .ok signed⟩, ⟨.broadcast signed, answer⟩]) result := by
  -- Funding was the only part that looked a rune up, so what it found stays what was found.
  rcases finds_of_funds hfunded with ⟨id, hrunestone, hfinds⟩
  rw [hrunestone] at hcarries
  have hmade : Finds request (first ++ [⟨.sign funded.transaction, .ok signed⟩,
      ⟨.broadcast signed, answer⟩]) id funded.pile := hfinds.append rfl rfl
  refine ⟨.inr ⟨first, _, signed, answer, id, _, rfl, ?_, hfinds, hcarries⟩, ?_, ?_⟩
  · exact of_eq_nil_of_funds hfunded (by decide)
  · intro unsigned signed' hmem
    cases signed_of_mem (of_behind_funds hfunded (by decide)) hmem
    exact ⟨id, _, hmade, fun hne => absurd hcarries hne⟩
  · intro minted hminted
    rcases hresult minted hminted with ⟨hrune, hpile, rfl⟩
    rw [hpile]
    exact ⟨id, signed, hmade, hrune, of_behind_funds hfunded (by decide)⟩

theorem onlyIntended_of_mismatch
    (hfunded : Funds oneCall request targetPostage first (.ok funded)) :
    OnlyIntended request (first ++ [⟨.sign funded.transaction, .ok signed⟩])
      (.error ⟨.broadcast, mismatchOf funded.runestone signed⟩) := by
  rcases finds_of_funds hfunded with ⟨id, hrunestone, hfinds⟩
  have hnone : History.of (first ++ [⟨.sign funded.transaction, .ok signed⟩]) .broadcast = [] :=
    of_behind_funds hfunded (by decide)
  refine ⟨.inl hnone, ?_, fun _ hminted => by cases hminted⟩
  intro unsigned signed' hmem
  cases signed_of_mem (of_behind_funds hfunded (by decide)) hmem
  refine ⟨id, funded.pile, hfinds.append rfl rfl, fun _ => ⟨hnone, fun rawTx hrawTx => ?_⟩⟩
  rw [mismatchOf, hrawTx, hrunestone]

end

theorem onlyIntended_of_runs {result : Except Stopped Result}
    (h : Runs oneCall request targetPostage made result) : OnlyIntended request made result := by
  cases h with
  | unfunded h =>
    refine ⟨.inl (of_eq_nil_of_funds h (by decide)), ?_, fun _ hminted => by cases hminted⟩
    intro unsigned signed hmem
    have hof := History.mem_of hmem (rfl : _ = Call.Kind.sign)
    rw [of_eq_nil_of_funds h (by decide)] at hof
    cases hof
  | unsigned hfunded hsigned =>
    rw [hsigned]
    refine ⟨.inl (of_behind_funds hfunded (by decide)), ?_, fun _ hminted => by cases hminted⟩
    intro unsigned signed hmem
    cases signed_of_mem (of_behind_funds hfunded (by decide)) hmem
  | mismatch hfunded hsigned _ =>
    rw [hsigned]
    exact onlyIntended_of_mismatch hfunded
  | refused hfunded hsigned hcarries h =>
    rw [hsigned, h]
    exact onlyIntended_of_relayed hfunded hcarries fun _ hminted => by cases hminted
  | minted hfunded hsigned hcarries h =>
    rw [hsigned, h]
    refine onlyIntended_of_relayed hfunded hcarries fun minted hminted => ?_
    cases hminted
    exact ⟨rfl, rfl, rfl⟩

end

/-- Whatever an index, a wallet and a node answer, a run relays nothing but the intended mint, and
preparing one neither signs nor relays. -/
theorem run_only_intended (around : Behaviour) (targetPostage : Postage) (request : MintRequest)
    (world : World) :
    OnlyIntended request (made ((observed around targetPostage).run request) world)
        ((observed around targetPostage).run request world).1
      ∧ (made ((observed around targetPostage).prepare request) world).of .sign = []
      ∧ (made ((observed around targetPostage).prepare request) world).of .broadcast = [] := by
  have hfollows := follows_observed around targetPostage
  have hruns := (leads_run hfollows request).made world
  have hprepares := (leads_prepare hfollows request).made world
  rcases funds_of_prepares hprepares.2 with ⟨result, hfunds⟩
  exact ⟨onlyIntended_of_runs hruns.2, of_eq_nil_of_funds hfunds (by decide),
    of_eq_nil_of_funds hfunds (by decide)⟩

end Runesmith.Mint
