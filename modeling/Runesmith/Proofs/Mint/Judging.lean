import Runesmith.Proofs.Mint.Refusals
import Runesmith.Proofs.Mint.Report
import Runesmith.Proofs.Mint.Spendable

/-!
# Checks and mints judge alike

A check of a rune and a mint of it are written down separately: each asks whether runes are indexed,
then for the height, then for the rune, and judges what it was told. Here they are shown to come to
the same, whatever is replied. Only the report of a check may fail to be written, where a mint goes
on.

* `Alike` says how a check ends beside the part of a mint that judges the rune, and they always end
  so (`alike_check_and_judge`);
* `Mint.run_eq` cuts a mint in two where the rune has been found eligible; what comes behind ends at
  a later stage and never with a refusal (`fails_complete`);
* `JudgesAlike` compares what a check reports with what becomes of a mint
  (`judgesAlike_check_and_run`);
* `eligible_and_withheld`: a rune that a mint finds eligible and a check cannot report;
* `CommandLine.runCommand_check`, `CommandLine.ofRun_check`: the command that checks connects like
  the one that mints, and ends with the report or with the reason why there is none.
-/

namespace Runesmith

/-! ## What a check looks up -/

namespace Check

section

variable {m : Type → Type} [Monad m]

/-- What is looked up once the index is known to know about runes. -/
def look (index : Index m) (rune : SpacedRune) : Action m Check := do
  let height ← index.chainHeight
  let some (id, entry) ← index.lookup rune | throw (.notEtched rune)
  return ⟨id, entry, height⟩

/-- A verdict as a mint takes it: an id with a pile, or a failure. -/
def settle (rune : SpacedRune) (check : Check) : Except Failure (RuneId × Pile) :=
  match check.verdict with
  | .ok pile => .ok (check.id, pile)
  | .error refusal => .error (.ineligible refusal (some rune))

end

theorem run_eq (mint : Mint Observed) (rune : SpacedRune) :
    run mint.index rune = mint.checkIndex >>= fun _ => look mint.index rune := by
  unfold run Mint.checkIndex
  rw [bind_assoc]
  congr 1
  funext indexed
  cases indexed <;> rfl

theorem eligible_eq (mint : Mint Observed) (rune : SpacedRune) :
    mint.eligible rune
      = look mint.index rune >>= fun check => ExceptT.mk (pure (check.settle rune)) := by
  -- Both ask for the height and for the rune; what is left to compare is what they make of it.
  unfold look Mint.eligible
  rw [bind_assoc]
  congr 1
  funext height
  rw [bind_assoc]
  congr 1
  funext found
  rcases found with _ | ⟨id, entry⟩
  · rfl
  · unfold settle verdict
    simp only [pure_bind]
    cases entry.mintable height <;> rfl

end Check

namespace Mint

section

variable {m : Type → Type} [Monad m] (self : Mint m)

/-- Everything up to a rune that is found eligible. -/
def judge (rune : SpacedRune) : ExceptT Stopped m (RuneId × Pile) := do
  reaching .indexChecked self.checkIndex
  reaching .eligible (self.eligible rune)

/-- Everything from there on. -/
def complete (request : MintRequest) (id : RuneId) : ExceptT Stopped m Json := do
  let (runestone, script) ←
    reaching .encoded (Action.ofExcept .runestone (Runestone.encipherMint id))
  let skeleton ← reaching .skeletonBuilt (self.buildSkeleton request script)
  let transaction ← reaching .funded (self.fundLocked skeleton request.feeRate)
  let signed ← reaching .signed (self.node.sign transaction)
  reaching .broadcast (self.broadcastChecked runestone signed)

theorem run_eq [LawfulMonad m] (request : MintRequest) :
    self.run request = self.judge request.rune >>= fun found =>
      Result.mk request.rune found.2 <$> self.complete request found.1 := by
  unfold run fund judge complete
  simp only [bind_assoc, map_eq_pure_bind, pure_bind]

end

/-! ## The part that judges -/

/-- A check beside the part of a mint that judges the rune. The two leave the same world behind, so
they made the same calls. -/
inductive Alike (rune : SpacedRune) :
    Except Failure Check × World → Except Stopped (RuneId × Pile) × World → Prop where
  | unchecked {e : Failure} {after : World} (h : NoRefusal e) :
      Alike rune (.error e, after) (.error ⟨.indexChecked, e⟩, after)
  | unknown {e : Failure} {after : World} (h : NoRefusal e) :
      Alike rune (.error e, after) (.error ⟨.eligible, e⟩, after)
  | refused {check : Check} {refusal : Entry.Refusal} {after : World}
      (h : check.verdict = .error refusal) :
      Alike rune (.ok check, after) (.error ⟨.eligible, .ineligible refusal (some rune)⟩, after)
  | eligible {check : Check} {pile : Pile} {after : World} (h : check.verdict = .ok pile) :
      Alike rune (.ok check, after) (.ok (check.id, pile), after)

theorem check_apply (mint : Mint Observed) (rune : SpacedRune) (world : World) :
    Check.run mint.index rune world = match mint.checkIndex world with
      | (.ok _, between) => Check.look mint.index rune between
      | (.error e, after) => (.error e, after) := by
  rw [Check.run_eq, bind_apply]
  rcases mint.checkIndex world with ⟨_ | _, _⟩ <;> rfl

theorem judge_apply (mint : Mint Observed) (rune : SpacedRune) (world : World) :
    mint.judge rune world = match mint.checkIndex world with
      | (.ok _, between) => match Check.look mint.index rune between with
        | (.ok check, after) => ((check.settle rune).mapError (Stopped.mk .eligible), after)
        | (.error e, after) => (.error ⟨.eligible, e⟩, after)
      | (.error e, after) => (.error ⟨.indexChecked, e⟩, after) := by
  rw [judge, bind_apply, reaching, adapt_apply]
  rcases mint.checkIndex world with ⟨e | _, between⟩
  · rfl
  show reaching .eligible (mint.eligible rune) between = _
  dsimp only
  rw [reaching, adapt_apply, Check.eligible_eq, bind_apply]
  rcases Check.look mint.index rune between with ⟨e | check, after⟩ <;> rfl

theorem run_apply (mint : Mint Observed) (request : MintRequest) (world : World) :
    mint.run request world = match mint.judge request.rune world with
      | (.ok (id, pile), after) => (((mint.complete request id after).1).map
          (Result.mk request.rune pile), (mint.complete request id after).2)
      | (.error e, after) => (.error e, after) := by
  rw [run_eq, bind_apply]
  rcases mint.judge request.rune world with ⟨e | ⟨id, pile⟩, after⟩
  · rfl
  · dsimp only
    rw [map_eq_pure_bind, bind_apply]
    rcases mint.complete request id after with ⟨_ | _, _⟩ <;> rfl

section

variable {mint : Mint Observed} (h : Impartial mint)

include h

theorem fails_look (rune : SpacedRune) : Fails (Check.look mint.index rune) NoRefusal := by
  refine .bind h.chainHeight fun height => .bind (h.lookup rune) fun found => ?_
  split
  · exact .pure _
  · exact .throw nofun

theorem alike_check_and_judge (rune : SpacedRune) (world : World) :
    Alike rune (Check.run mint.index rune world) (mint.judge rune world) := by
  rw [check_apply, judge_apply]
  -- They go through the same calls and part only with the verdict.
  rcases hindex : mint.checkIndex world with ⟨e | _, between⟩
  · apply Alike.unchecked
    exact fails_checkIndex h (fun _ => NoVerdict.noRefusal) world e (congrArg Prod.fst hindex)
  dsimp only
  rcases hlook : Check.look mint.index rune between with ⟨e | check, after⟩
  · exact .unknown (fails_look h rune between e (congrArg Prod.fst hlook))
  dsimp only
  unfold Check.settle
  cases hverdict : check.verdict with
  | error refusal => exact .refused hverdict
  | ok pile => exact .eligible hverdict

/-! ## The part that completes -/

/-- The stages at which a rune is judged. -/
def judgingStages : List Stage :=
  [.indexChecked, .eligible]

/-- A failure that has nothing to do with the judging of a rune. -/
def IsLater (stopped : Stopped) : Prop :=
  stopped.stage ∉ judgingStages ∧ NoRefusal stopped.cause

theorem fails_complete (request : MintRequest) (id : RuneId) :
    Fails (mint.complete request id) IsLater := by
  have hreaching : ∀ {α : Type} {stage : Stage} {action : Action Observed α},
      stage ∉ judgingStages → Fails action NoRefusal → Fails (reaching stage action) IsLater :=
    fun hstage haction => haction.adapt fun _ he => ⟨hstage, he⟩
  have hverdict : ∀ e, NoVerdict e → NoRefusal e := fun _ => NoVerdict.noRefusal
  refine .bind (hreaching (by decide) (.convert fun _ => nofun)) fun encoded => ?_
  refine .bind (hreaching (by decide) (fails_buildSkeleton h hverdict request
    fun _ _ _ => noRefusal_of_skeleton)) fun skeleton => ?_
  refine .bind (hreaching (by decide) (fails_fundLocked h skeleton _)) fun tx => ?_
  refine .bind (hreaching (by decide) (h.sign tx)) fun signed => ?_
  exact hreaching (by decide) (fails_broadcastChecked h hverdict _ signed)

/-- A run that ends with anything but a later failure ended where the rune is judged. -/
theorem judge_eq_error_iff {request : MintRequest} {stopped : Stopped} {world : World}
    (hstopped : ¬ IsLater stopped) :
    (mint.run request world).1 = .error stopped
      ↔ (mint.judge request.rune world).1 = .error stopped := by
  rw [run_apply]
  rcases mint.judge request.rune world with ⟨e | ⟨id, pile⟩, after⟩
  · simp only [Except.error.injEq]
  dsimp only
  -- The rune is eligible, so that only a later failure can be left.
  refine iff_of_false (fun herror => ?_) nofun
  cases hcomplete : (mint.complete request id after).1 with
  | error e =>
    rw [hcomplete] at herror
    cases herror
    exact hstopped (fails_complete h request id after _ hcomplete)
  | ok answer =>
    rw [hcomplete] at herror
    cases herror

end

end Mint

/-! ## Checks beside mints -/

namespace Mint

/-- The failure that refuses a rune for a reason. -/
def RefusedFor (e : Failure) (reason : String) : Prop :=
  ∃ refusal name, e = .ineligible refusal name ∧ refusal.reason = reason

/-- A mint finds its rune eligible with a pile, and goes on from there. -/
def ReachesEligible (mint : Mint Observed) (request : MintRequest) (pile : Pile) (world : World) :
    Prop :=
  ∃ id after, mint.judge request.rune world = (.ok (id, pile), after)
    ∧ mint.run request world = (Result.mk request.rune pile <$> mint.complete request id) after

theorem reachesEligible_iff {mint : Mint Observed} {request : MintRequest} {pile : Pile}
    {world : World} : ReachesEligible mint request pile world
      ↔ ∃ id, (mint.judge request.rune world).1 = .ok (id, pile) := by
  constructor
  · rintro ⟨id, after, hjudge, -⟩
    exact ⟨id, congrArg Prod.fst hjudge⟩
  · rintro ⟨id, hjudge⟩
    refine ⟨id, (mint.judge request.rune world).2, Prod.ext hjudge rfl, ?_⟩
    rw [run_eq, bind_apply]
    rcases hrun : mint.judge request.rune world with ⟨e | found, after⟩
    · rw [hrun] at hjudge
      cases hjudge
    · rw [hrun] at hjudge
      cases hjudge
      rfl

section

variable {rune : SpacedRune} {checked : Except Failure Check × World}
  {judged : Except Stopped (RuneId × Pile) × World}

theorem Alike.reportsPile_iff (h : Alike rune checked judged) (pile : Pile) :
    Check.ReportsPile checked.1 pile
      ↔ (∃ id, judged.1 = .ok (id, pile)) ∧ Check.Printable checked.1 := by
  cases h with
  | unchecked | unknown =>
    exact iff_of_false Check.not_reports_error (by rintro ⟨⟨_, h⟩, -⟩; cases h)
  | refused hverdict =>
    rw [Check.reportsPile_ok_iff, hverdict]
    exact iff_of_false nofun (by rintro ⟨⟨_, h⟩, -⟩; cases h)
  | eligible hverdict =>
    rw [Check.reportsPile_ok_iff, hverdict, Check.printable_ok_iff]
    refine and_congr_left fun _ => ?_
    constructor
    · rintro ⟨⟩
      exact ⟨_, rfl⟩
    · rintro ⟨_, ⟨⟩⟩
      rfl

theorem Alike.reportsReason_iff (h : Alike rune checked judged) (reason : String) :
    Check.ReportsReason checked.1 reason
      ↔ (∃ stopped, judged.1 = .error stopped ∧ RefusedFor stopped.cause reason)
        ∧ Check.Printable checked.1 := by
  cases h with
  | unchecked hnone | unknown hnone =>
    refine iff_of_false Check.not_reports_error ?_
    rintro ⟨⟨_, ⟨⟩, refusal, name, hcause, -⟩, -⟩
    exact hnone refusal name hcause
  | @refused check refusal after hverdict =>
    rw [Check.reportsReason_ok_iff, hverdict, Check.printable_ok_iff]
    refine and_congr_left fun _ => ?_
    constructor
    · rintro ⟨_, ⟨⟩, hreason⟩
      exact ⟨_, rfl, refusal, _, rfl, hreason⟩
    · rintro ⟨_, ⟨⟩, _, _, ⟨⟩, hreason⟩
      exact ⟨_, rfl, hreason⟩
  | eligible hverdict =>
    rw [Check.reportsReason_ok_iff, hverdict]
    exact iff_of_false (by rintro ⟨⟨_, h, -⟩, -⟩; cases h) (by rintro ⟨⟨_, h, -⟩, -⟩; cases h)

theorem Alike.exists_id_of_verdict (h : Alike rune checked judged) {check : Check} {pile : Pile}
    (hcheck : checked.1 = .ok check) (hverdict : check.verdict = .ok pile) :
    ∃ id, judged.1 = .ok (id, pile) := by
  cases h with
  | unchecked | unknown => cases hcheck
  | refused hrefused =>
    cases hcheck
    cases hrefused.symm.trans hverdict
  | eligible hopen =>
    cases hcheck
    cases hopen.symm.trans hverdict
    exact ⟨_, rfl⟩

/-- A check with a verdict that cannot be printed has judged the rune all the same. -/
theorem Alike.judged_of_not_printable (h : Alike rune checked judged)
    (hprintable : ¬ Check.Printable checked.1) : (∃ id pile, judged.1 = .ok (id, pile))
      ∨ ∃ stopped reason, judged.1 = .error stopped ∧ RefusedFor stopped.cause reason := by
  cases h with
  | unchecked | unknown => exact absurd (Check.printable_error _) hprintable
  | @refused check refusal => exact .inr ⟨_, refusal.reason, rfl, refusal, _, rfl, rfl⟩
  | eligible => exact .inl ⟨_, _, rfl⟩

theorem Alike.error_iff (h : Alike rune checked judged) (e : Failure) :
    checked.1 = .error e
      ↔ ∃ stage ∈ judgingStages, judged.1 = .error ⟨stage, e⟩ ∧ NoRefusal e := by
  cases h with
  | unchecked hnone =>
    constructor
    · rintro ⟨⟩
      exact ⟨.indexChecked, by decide, rfl, hnone⟩
    · rintro ⟨_, -, ⟨⟩, -⟩
      rfl
  | unknown hnone =>
    constructor
    · rintro ⟨⟩
      exact ⟨.eligible, by decide, rfl, hnone⟩
    · rintro ⟨_, -, ⟨⟩, -⟩
      rfl
  | refused =>
    refine iff_of_false nofun ?_
    rintro ⟨_, -, ⟨⟩, hnone⟩
    exact hnone _ _ rfl
  | eligible =>
    refine iff_of_false nofun ?_
    rintro ⟨_, -, h, -⟩
    cases h

theorem Alike.stage_mem (h : Alike rune checked judged) {stopped : Stopped}
    (hstopped : judged.1 = .error stopped) : stopped.stage ∈ judgingStages := by
  cases h <;> cases hstopped <;> simp [judgingStages]

end

theorem not_isLater_of_stage {stopped : Stopped} (h : stopped.stage ∈ judgingStages) :
    ¬ IsLater stopped :=
  fun hlater => hlater.1 h

theorem not_isLater_of_refusedFor {stopped : Stopped} {reason : String}
    (h : RefusedFor stopped.cause reason) : ¬ IsLater stopped := by
  obtain ⟨refusal, name, hcause, -⟩ := h
  exact fun hlater => hlater.2 refusal name hcause

/-- The pile that a rune is found eligible with is the one that is minted. -/
theorem pile_of_reachesEligible {mint : Mint Observed} {request : MintRequest} {pile : Pile}
    {result : Result} {world : World} (h : ReachesEligible mint request pile world)
    (hresult : (mint.run request world).1 = .ok result) : result.pile = pile := by
  obtain ⟨id, after, hjudge, -⟩ := h
  rw [run_apply, hjudge] at hresult
  dsimp only at hresult
  cases hcomplete : (mint.complete request id after).1 with
  | error e =>
    rw [hcomplete] at hresult
    cases hresult
  | ok answer =>
    rw [hcomplete] at hresult
    cases hresult
    rfl

/-- A rune is found eligible unless the mint ends before. -/
theorem exists_reachesEligible_iff {mint : Mint Observed} (h : Impartial mint)
    (request : MintRequest) (world : World) : (∃ pile, ReachesEligible mint request pile world)
      ↔ ∀ stopped, (mint.run request world).1 = .error stopped → stopped.stage ∉ judgingStages := by
  have halike := alike_check_and_judge h request.rune world
  constructor
  · rintro ⟨pile, hreaches⟩ stopped hstopped hstage
    obtain ⟨id, hjudge⟩ := reachesEligible_iff.1 hreaches
    rw [judge_eq_error_iff h (not_isLater_of_stage hstage), hjudge] at hstopped
    cases hstopped
  · intro hnone
    cases hjudge : (mint.judge request.rune world).1 with
    | error stopped =>
      have hstage := halike.stage_mem hjudge
      have hstopped := (judge_eq_error_iff h (not_isLater_of_stage hstage)).2 hjudge
      exact absurd hstage (hnone stopped hstopped)
    | ok found => exact ⟨found.2, reachesEligible_iff.2 ⟨found.1, hjudge⟩⟩

/-- A check and a mint that start in the same world judge the rune alike. -/
structure JudgesAlike (mint : Mint Observed) (request : MintRequest) (world : World)
    (result : Except Failure Check) (outcome : Except Stopped Result) : Prop where
  /-- The check reports a pile if and only if the mint finds its rune eligible with that pile, and
  the report can be printed. -/
  pile : ∀ pile, Check.ReportsPile result pile
    ↔ ReachesEligible mint request pile world ∧ Check.Printable result
  /-- It reports a reason if and only if the mint ends with a refusal for that reason, and the
  report can be printed. -/
  reason : ∀ reason, Check.ReportsReason result reason
    ↔ (∃ stopped, outcome = .error stopped ∧ RefusedFor stopped.cause reason)
      ∧ Check.Printable result
  /-- It fails for want of a report if and only if the report cannot be printed. -/
  withheld : (∃ cause, Check.Withheld result cause) ↔ ¬ Check.Printable result
  /-- Then the mint finds its rune eligible, or ends with a refusal. -/
  judged : ¬ Check.Printable result → (∃ pile, ReachesEligible mint request pile world)
    ∨ ∃ stopped reason, outcome = .error stopped ∧ RefusedFor stopped.cause reason
  /-- It fails otherwise if and only if the mint fails in the same way while the rune is judged. -/
  failure : ∀ e, result = .error e
    ↔ ∃ stage ∈ judgingStages, outcome = .error ⟨stage, e⟩ ∧ NoRefusal e
  /-- A rune is found eligible unless the mint ends at one of the stages that judge it. -/
  eligible : (∃ pile, ReachesEligible mint request pile world)
    ↔ ∀ stopped, outcome = .error stopped → stopped.stage ∉ judgingStages
  /-- What is minted is the pile that the rune was found eligible with. -/
  minted : ∀ pile result, ReachesEligible mint request pile world → outcome = .ok result →
    result.pile = pile

theorem judgesAlike_of_impartial {mint : Mint Observed} (h : Impartial mint)
    (request : MintRequest) (world : World) :
    JudgesAlike mint request world (Check.run mint.index request.rune world).1
      (mint.run request world).1 := by
  have halike := alike_check_and_judge h request.rune world
  have hrefused (reason : String) (stopped : Stopped) :
      (mint.judge request.rune world).1 = .error stopped ∧ RefusedFor stopped.cause reason
        ↔ (mint.run request world).1 = .error stopped ∧ RefusedFor stopped.cause reason :=
    and_congr_left fun hcause => (judge_eq_error_iff h (not_isLater_of_refusedFor hcause)).symm
  constructor
  case pile =>
    intro pile
    exact (halike.reportsPile_iff pile).trans (and_congr_left' reachesEligible_iff.symm)
  case reason =>
    intro reason
    exact (halike.reportsReason_iff reason).trans
      (and_congr_left' (exists_congr (hrefused reason)))
  case withheld => exact Check.withheld_iff _
  case judged =>
    intro hprintable
    rcases halike.judged_of_not_printable hprintable with ⟨id, pile, hok⟩ | ⟨stopped, reason, hend⟩
    · exact .inl ⟨pile, reachesEligible_iff.2 ⟨id, hok⟩⟩
    · exact .inr ⟨stopped, reason, (hrefused reason stopped).1 hend⟩
  case failure =>
    intro e
    refine (halike.error_iff e).trans (exists_congr fun stage => and_congr_right fun hstage => ?_)
    exact and_congr_left fun _ => (judge_eq_error_iff h (not_isLater_of_stage hstage)).symm
  case eligible => exact exists_reachesEligible_iff h request world
  case minted => exact fun _ _ => pile_of_reachesEligible

/-- Whatever is replied, a check and a mint over the same connection judge alike. -/
theorem judgesAlike_check_and_run (around : Behaviour) (context : MintContext)
    (config : RpcConfig) (request : MintRequest) (world : World) :
    JudgesAlike (ofContext around.transport context config) request world
      (Check.run (indexOf around.transport context config) request.rune world).1
      ((ofContext around.transport context config).run request world).1 :=
  judgesAlike_of_impartial (impartial_ofContext around context config) request world

/-! ## A symbol that cannot be printed -/

/-- Where the mint of the example finds its index. -/
def localContext : MintContext :=
  ⟨.str "ord", true, "http://127.0.0.1:80", .sats 10000⟩

def localConfig : RpcConfig :=
  ⟨.str "user", .str "password", RpcConfig.defaultHost, .int RpcConfig.defaultPort, false, .null⟩

/-- A document of the index about a rune with an open mint, whose symbol is one half of a pair. -/
def loneSymbolText : String :=
  "\x7b\"id\":\"840000:3\",\"entry\":\x7b\"block\":840000,\"spaced_rune\":\"ALM\"," ++
    "\"symbol\":\"\\ud800\",\"terms\":\x7b\"amount\":1000,\"cap\":100\x7d\x7d\x7d"

/-- The index answers that document about every rune. -/
def loneSymbolAnswers (history : History) : (call : Call) → call.Answer
  | .get query =>
    if query.url = "http://127.0.0.1:80/status" then some ⟨200, "\x7b\"rune_index\":true\x7d"⟩
    else some ⟨200, loneSymbolText⟩
  | .post _ => replyOf "850000"
  | call => localAnswers history call

def loneSymbolMint : Mint Observed :=
  ofContext (Behaviour.transport loneSymbolAnswers) localContext localConfig

/-- What a check of the rune comes to. -/
def loneSymbolCheck : Except Failure Check :=
  (Check.run loneSymbolMint.index openRequest.rune ⟨[], none⟩).1

/-- Why a check that finds its rune open cannot be reported. -/
def withheldOpen? : Except Failure Check → Option Json.Unwritable
  | .error _ => none
  | .ok check => match check.verdict, check.written with
    | .ok _, .error cause => some cause
    | _, _ => none

theorem exists_open_of_withheld {result : Except Failure Check} {cause : Json.Unwritable}
    (h : withheldOpen? result = some cause) : ∃ check pile, result = .ok check
      ∧ check.verdict = .ok pile ∧ check.written = .error cause := by
  unfold withheldOpen? at h
  split at h
  case h_1 => cases h
  case h_2 check =>
    split at h
    case h_1 pile other hverdict hwritten =>
      cases h
      exact ⟨check, pile, rfl, hverdict, hwritten⟩
    case h_2 => cases h

/-- A check that finds its rune open and cannot be reported, beside a mint. -/
theorem eligible_of_withheldOpen {mint : Mint Observed} (h : Impartial mint)
    {request : MintRequest} {world : World} {result : Except Failure Check}
    (hresult : (Check.run mint.index request.rune world).1 = result) {cause : Json.Unwritable}
    (hcause : withheldOpen? result = some cause) :
    (∃ pile, ReachesEligible mint request pile world ∧ ¬ Check.ReportsPile result pile)
      ∧ Check.Withheld result cause := by
  obtain ⟨check, pile, hcheck, hverdict, hwritten⟩ := exists_open_of_withheld hcause
  -- The mint looked up what the check did, and so found the rune open too.
  have halike := alike_check_and_judge h request.rune world
  refine ⟨⟨pile, reachesEligible_iff.2 ?_, ?_⟩, check, hcheck, hwritten⟩
  · exact halike.exists_id_of_verdict (hresult.trans hcheck) hverdict
  · rintro ⟨other, text, hother, htext, -⟩
    cases hcheck.symm.trans hother
    cases hwritten.symm.trans htext

theorem withheldOpen?_loneSymbolCheck :
    withheldOpen? loneSymbolCheck = some (.surrogates (.surrogate 0) 195 196) := by
  decide +kernel

/-- The mint of the example finds its rune eligible, and the check reports nothing but that it
cannot write the symbol. -/
theorem eligible_and_withheld :
    (∃ pile, ReachesEligible loneSymbolMint openRequest pile ⟨[], none⟩
        ∧ ¬ Check.ReportsPile loneSymbolCheck pile)
      ∧ Check.Withheld loneSymbolCheck (.surrogates (.surrogate 0) 195 196) :=
  eligible_of_withheldOpen (impartial_ofContext loneSymbolAnswers localContext localConfig)
    rfl withheldOpen?_loneSymbolCheck

end Mint

/-! ## Commands -/

namespace CommandLine

variable (around : Behaviour) (s : Surroundings) (stdin : String) (config : Option String)
  (connection : Connection)

/-- How the command ends with what a check comes to: with its report on the standard output, or with
a line about what went wrong. -/
theorem ofRun_check (result : Except Failure Check) :
    Outcome.ofRun ((result.mapError .failure).map fun check => document check.toJson)
      = match result with
        | .error e =>
          if isReportedFailure e then .exit 1 "" (errorLine e.message) else .abort (.failure e)
        | .ok check => match check.written with
          | .ok stdout => .exit 0 stdout ""
          | .error cause => .exit 1 "" (errorLine cause.message) := by
  cases result with
  | error e => rfl
  | ok check =>
    change Outcome.ofOutput (document check.toJson) = _
    dsimp only
    unfold Outcome.ofOutput Check.written
    cases (document check.toJson).text <;> rfl

/-- The command that checks connects like the one that mints, and writes what a check reports. -/
theorem runCommand_check (rune : SpacedRune) :
    runCommand around.transport s stdin ⟨config, .check rune connection⟩
      = connect around.transport s config connection >>= fun mint =>
        ExceptT.adapt .failure (Check.run mint.index rune) >>= fun check =>
          pure (document check.toJson) := by
  change (ExceptT.mk (pure (settings s config connection)) >>= _) = _
  unfold connect
  rw [bind_assoc]
  congr 1
  funext settled
  rcases settled with ⟨context, rpc⟩
  dsimp only
  rw [adapt_bind, bind_assoc]
  congr 1
  funext _
  rw [pure_bind, adapt_bind]
  rfl

end CommandLine

end Runesmith
