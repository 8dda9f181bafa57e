import Runesmith.Proofs.Mint.Spendable

/-!
# What is told when funding fails

When funding fails, the coins that were locked for it are released, and whatever goes wrong with
that should not hide why funding failed. This holds for every reply of the node but one kind: an
error of the node that counts as one and is no object. Its code cannot be looked up, and this
failure takes the place of the other.

* `surfaced` is the failure that is told, by the reply to the release;
* `EndsUnfunded` says how a run ends whose funding failed, and every such run ends so
  (`tellsWhy_run_and_prepare`);
* `busyMint` is a mint whose funding error is lost.
-/

namespace Runesmith.Mint

open NodeWallet

/-! ## The failure that is told -/

/-- The failure that is told when funding failed and the release of coins was replied to. -/
def surfaced (e : Failure) (reply : Option Http.Response) : Failure :=
  if Node.isGarbled reply then .mismatch .notAnObject else e

/-- How a run ends whose funding failed: without a release if no coins were locked, and else behind
the release of those that were. -/
inductive EndsUnfunded (node : Node) (e : Failure) : History → Stopped → Prop where
  | nothingLocked {before : History} {skeleton : Transaction} {feeRate : FeeRate} :
      EndsUnfunded node e (before ++ [⟨.fund skeleton feeRate, .error e⟩]) ⟨.funded, e⟩
  | released {before : History} {skeleton : Transaction} {feeRate : FeeRate} {coins : List Coin}
      {locking reply : Option Http.Response} (hsome : coins ≠ [])
      (hlocked : ⟨.post (node.request "lockunspent" (lockParams false coins)), locking⟩ ∈ before) :
      EndsUnfunded node e (before ++ [⟨.fund skeleton feeRate, .error e⟩,
        ⟨.post (node.request "lockunspent" (lockParams true coins)), reply⟩])
        ⟨.funded, surfaced e reply⟩

/-- If funding failed, the run ends as above, whatever is replied to a release. -/
def TellsWhy {α : Type} (node : Node) (made : History) (result : Except Stopped α) : Prop :=
  ∀ skeleton feeRate e, ⟨.fund skeleton feeRate, .error e⟩ ∈ made →
    ∃ stopped, result = .error stopped ∧ EndsUnfunded node e made stopped

section

variable {node : Node} {before made first rest : History} {e : Failure} {stopped : Stopped}

theorem EndsUnfunded.prepend (h : EndsUnfunded node e made stopped) :
    EndsUnfunded node e (before ++ made) stopped := by
  cases h with
  | nothingLocked =>
    rw [← List.append_assoc]
    exact .nothingLocked
  | released hsome hlocked =>
    rw [← List.append_assoc]
    exact .released hsome (List.mem_append_right _ hlocked)

/-! ## The release of coins -/

/-- Only a mismatch takes the place of the failure. -/
theorem surfaced_of_reading {reply : Option Http.Response}
    (h : ∀ cause, Node.reading reply ≠ .error (.mismatch cause)) : surfaced e reply = e :=
  if_neg fun hgarbled => h .notAnObject (Node.reading_eq_mismatch_iff.2 ⟨rfl, hgarbled⟩)

/-- A reply that is a failure counts for nothing, unless it is garbled. -/
theorem toldAfter_of_reading {reply : Option Http.Response} {cause : Failure}
    (h : Node.reading reply = .error cause) :
    toldAfter e (.error cause) = surfaced e reply := by
  cases Node.reports_reading reply cause h with
  | transport => exact (surfaced_of_reading fun _ => by rw [h]; nofun).symm
  | rpc => exact (surfaced_of_reading fun _ => by rw [h]; nofun).symm
  | mismatch cause =>
    rcases Node.reading_eq_mismatch_iff.1 h with ⟨rfl, hgarbled⟩
    exact (if_pos hgarbled).symm

theorem toldAfter_of_releases {coins : List Coin} {released : Except Failure Unit}
    (hsome : coins ≠ []) (h : Releases node coins rest released) :
    ∃ reply, rest = [⟨.post (node.request "lockunspent" (lockParams true coins)), reply⟩]
      ∧ toldAfter e released = surfaced e reply := by
  cases h with
  | nothing hnone => exact absurd hnone hsome
  | failed _ hposts =>
    rcases hposts with ⟨reply, rfl, hreading⟩
    exact ⟨reply, rfl, toldAfter_of_reading hreading.symm⟩
  | refused _ hposts | released _ hposts =>
    rcases hposts with ⟨reply, rfl, hreading⟩
    exact ⟨reply, rfl, (surfaced_of_reading fun _ => by rw [← hreading]; nofun).symm⟩

/-! ## Whole runs -/

theorem endsUnfunded_of_locked {skeleton : Transaction} {feeRate : FeeRate} {coins : List Coin}
    {released : Except Failure Unit} (hlock : Locks node first (.ok coins))
    (hrelease : Releases node coins rest released) :
    EndsUnfunded node e (first ++ (⟨.fund skeleton feeRate, .error e⟩ :: rest))
      ⟨.funded, toldAfter e released⟩ := by
  cases hlock with
  | nothing =>
    cases hrelease with
    | nothing => exact .nothingLocked
    | _ hsome => exact absurd rfl hsome
  | locked _ hsome hposts =>
    rcases hposts with ⟨locking, rfl, -⟩
    rcases toldAfter_of_releases hsome hrelease with ⟨reply, rfl, htold⟩
    rw [htold]
    exact .released hsome (List.mem_append_right _ List.mem_cons_self)

theorem tellsWhy_of_fundsLocked {skeleton : Transaction} {feeRate : FeeRate}
    {result : Except Failure Transaction}
    (h : FundsLocked (nodeTraces node) skeleton feeRate made result) :
    TellsWhy node made (result.mapError (Stopped.mk .funded)) := by
  intro tx rate e hfailed
  cases h with
  | notLocked hlock => exact absurd rfl (kind_of_locks hlock _ hfailed)
  | funded hlock hfund =>
    rcases hfund with rfl
    rcases List.mem_append.1 hfailed with hfailed | hfailed
    · exact absurd rfl (kind_of_locks hlock _ hfailed)
    · cases List.mem_singleton.1 hfailed
  | notFunded hlock hfund hrelease =>
    rcases hfund with rfl
    rcases List.mem_append.1 hfailed with hfailed | hfailed
    · exact absurd rfl (kind_of_locks hlock _ hfailed)
    rcases List.mem_cons.1 hfailed with hfailed | hfailed
    · cases hfailed
      exact ⟨_, rfl, endsUnfunded_of_locked hlock hrelease⟩
    · rcases frees_of_releases hrelease _ hfailed with ⟨_, _, hfrees⟩
      cases hfrees

/-- Where nothing is funded, nothing is to be told. -/
theorem tellsWhy_of_quiet {α : Type} {result : Except Stopped α} (h : ∀ x ∈ made, Quiet x) :
    TellsWhy node made result :=
  fun _ _ _ hfailed => absurd rfl (h _ hfailed).kind.1

theorem TellsWhy.mono {α β : Type} {result : Except Stopped α} {outcome : Except Stopped β}
    (h : TellsWhy node made result)
    (hsame : ∀ stopped, result = .error stopped → outcome = .error stopped) :
    TellsWhy node made outcome := by
  intro skeleton feeRate e hfailed
  rcases h skeleton feeRate e hfailed with ⟨stopped, hresult, hends⟩
  exact ⟨stopped, hsame stopped hresult, hends⟩

theorem TellsWhy.prepend {α : Type} {result : Except Stopped α} (h : TellsWhy node rest result)
    (hfirst : ∀ x ∈ first, Quiet x) : TellsWhy node (first ++ rest) result := by
  intro skeleton feeRate e hfailed
  rcases List.mem_append.1 hfailed with hfailed | hfailed
  · exact absurd rfl (hfirst _ hfailed).kind.1
  · rcases h skeleton feeRate e hfailed with ⟨stopped, hresult, hends⟩
    exact ⟨stopped, hresult, hends.prepend⟩

/-- Where a transaction was funded, nothing is to be told later on either. -/
theorem TellsWhy.append {α β : Type} {x : α} {outcome : Except Stopped β}
    (h : TellsWhy node first (.ok x)) (hrest : ∀ x ∈ rest, Quiet x) :
    TellsWhy node (first ++ rest) outcome := by
  intro skeleton feeRate e hfailed
  rcases List.mem_append.1 hfailed with hfailed | hfailed
  · rcases h skeleton feeRate e hfailed with ⟨stopped, hresult, -⟩
    cases hresult
  · exact absurd rfl (hrest _ hfailed).kind.1

theorem tellsWhy_of_funds {request : MintRequest} {targetPostage : Postage}
    {result : Except Stopped Funded}
    (h : Funds (nodeTraces node) request targetPostage made result) :
    TellsWhy node made result := by
  have hquiet : Trace.All (Begins (nodeTraces node) request targetPostage) Quiet :=
    all_begins allBegin_quiet request targetPostage
  cases h with
  | notBegun hbegins => exact tellsWhy_of_quiet (hquiet _ _ hbegins)
  | unfunded hbegins hlocked =>
    refine ((tellsWhy_of_fundsLocked hlocked).mono ?_).prepend (hquiet _ _ hbegins)
    rintro _ ⟨⟩
    rfl
  | funded hbegins hlocked =>
    exact ((tellsWhy_of_fundsLocked hlocked).mono (by rintro _ ⟨⟩)).prepend (hquiet _ _ hbegins)

theorem tellsWhy_of_runs {request : MintRequest} {targetPostage : Postage}
    {result : Except Stopped Result}
    (h : Runs (nodeTraces node) request targetPostage made result) :
    TellsWhy node made result := by
  cases h with
  | unfunded hfunds =>
    refine (tellsWhy_of_funds hfunds).mono ?_
    rintro _ ⟨⟩
    rfl
  | unsigned hfunds hsigned | mismatch hfunds hsigned =>
    exact (tellsWhy_of_funds hfunds).append (quiet_sign _ _ _ hsigned)
  | refused hfunds hsigned _ hrelayed | minted hfunds hsigned _ hrelayed =>
    exact (tellsWhy_of_funds hfunds).append
      (List.forall_mem_append.2 ⟨quiet_sign _ _ _ hsigned, quiet_broadcast _ _ _ hrelayed⟩)

theorem tellsWhy_of_prepares {request : MintRequest} {targetPostage : Postage}
    {result : Except Stopped Prepared}
    (h : Prepares (nodeTraces node) request targetPostage made result) :
    TellsWhy node made result := by
  cases h with
  | unfunded hfunds =>
    refine (tellsWhy_of_funds hfunds).mono ?_
    rintro _ ⟨⟩
    rfl
  | prepared hfunds => exact (tellsWhy_of_funds hfunds).mono (by rintro _ ⟨⟩)

end

/-- However the surroundings answer: a run whose funding failed tells why, at the stage of funding,
unless coins were locked and the reply to their release is garbled. -/
theorem tellsWhy_run_and_prepare (around : Behaviour) (node : Node) (targetPostage : Postage)
    (request : MintRequest) (world : World) :
    let mint := throughNode around node targetPostage
    TellsWhy node (made (mint.run request) world) (mint.run request world).1
      ∧ TellsWhy node (made (mint.prepare request) world) (mint.prepare request world).1 := by
  intro mint
  have hfollows := follows_throughNode around node targetPostage
  exact ⟨tellsWhy_of_runs ((leads_run hfollows request).made world).2,
    tellsWhy_of_prepares ((leads_prepare hfollows request).made world).2⟩

/-! ## A funding error that is lost -/

/-- A node that funds nothing and that is too busy for anything else then. -/
def busyAnswers (history : History) : (call : Call) → call.Answer
  | .fund _ _ => .error (.funding (.reply .noHex))
  | .post call =>
    if history.any (·.call.kind = .fund) then some ⟨200, "\x7b\"error\":\"busy\"\x7d"⟩
    else localReplies history call.method
  | call => localAnswers history call

def busyMint : Mint Observed := throughNode busyAnswers localNode (.sats 10000)

/-- Was a transaction not funded for want of its hex? -/
def isUnfunded : Exchange → Bool
  | ⟨.fund _ _, .error (.funding (.reply .noHex))⟩ => true
  | _ => false

/-- Did a run end at the funding, but with a reply of the wrong shape? -/
def isMisread {α : Type} : Except Stopped α → Bool
  | .error ⟨.funded, .mismatch .notAnObject⟩ => true
  | _ => false

theorem exists_of_isUnfunded {made : History} (h : made.any isUnfunded = true) :
    ∃ skeleton feeRate, ⟨.fund skeleton feeRate, .error (.funding (.reply .noHex))⟩ ∈ made := by
  rcases List.any_eq_true.1 h with ⟨x, hx, hunfunded⟩
  unfold isUnfunded at hunfunded
  split at hunfunded
  · exact ⟨_, _, hx⟩
  · cases hunfunded

theorem eq_of_isMisread {α : Type} {result : Except Stopped α} (h : isMisread result = true) :
    result = .error ⟨.funded, .mismatch .notAnObject⟩ := by
  unfold isMisread at h
  split at h
  · rfl
  · cases h

/-- The node answers a transaction without hex, and what is told is another error. -/
theorem busyMint_hidden :
    (∃ skeleton feeRate, ⟨.fund skeleton feeRate, .error (.funding (.reply .noHex))⟩
        ∈ made (busyMint.run openRequest) ⟨[], none⟩)
      ∧ (busyMint.run openRequest ⟨[], none⟩).1 = .error ⟨.funded, .mismatch .notAnObject⟩
      ∧ EndsUnfunded localNode (.funding (.reply .noHex))
        (made (busyMint.run openRequest) ⟨[], none⟩) ⟨.funded, .mismatch .notAnObject⟩ := by
  have hfunding : (made (busyMint.run openRequest) ⟨[], none⟩).any isUnfunded = true := by
    decide +kernel
  have hunfunded := exists_of_isUnfunded hfunding
  have hresult : (busyMint.run openRequest ⟨[], none⟩).1
      = .error ⟨.funded, .mismatch .notAnObject⟩ := eq_of_isMisread (by decide +kernel)
  refine ⟨hunfunded, hresult, ?_⟩
  obtain ⟨skeleton, feeRate, hfailed⟩ := hunfunded
  rcases (tellsWhy_run_and_prepare busyAnswers localNode (.sats 10000) openRequest ⟨[], none⟩).1
    skeleton feeRate _ hfailed with ⟨stopped, htold, hends⟩
  change (busyMint.run openRequest ⟨[], none⟩).1 = _ at htold
  rw [hresult] at htold
  cases htold
  exact hends

end Runesmith.Mint
