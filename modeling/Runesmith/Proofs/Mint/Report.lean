import Runesmith.CommandLine
import Runesmith.Proofs.Json.Writing

/-!
# Reports of checks

A check ends with a document that says whether the rune can be minted. The document is reported only
if it can be written: the index may have answered a symbol with a lone surrogate, or bounds whose
sum is too long to be printed.

* `written_ok_iff`: the document can be written exactly if it `IsPrintable`;
* `reportsPile_ok_iff`, `reportsReason_ok_iff`: what is reported is the verdict, if it is printable.
-/

namespace Runesmith.Check

/-! ## Documents of checks -/

/-- The document of a check as the command writes it. -/
def written (check : Check) : Except Json.Unwritable String :=
  (CommandLine.document check.toJson).text

/-- The number is short enough to be printed. -/
def IsShort (n : Int) : Prop :=
  n.natAbs < Json.longNumber

/-- Everything in the document of a check can be printed. -/
structure IsPrintable (check : Check) : Prop where
  height : IsShort check.height
  mints : IsShort check.entry.mints
  start : ∀ n ∈ check.entry.start, IsShort n
  stop : ∀ n ∈ check.entry.stop, IsShort n
  amount : ∀ pile, check.verdict = .ok pile → IsShort pile.amount
  divisibility : ∀ pile, check.verdict = .ok pile → IsShort pile.divisibility
  /-- The symbol is whatever the index answered. -/
  symbol : ∀ pile, check.verdict = .ok pile →
    pile.symbol.hasLongNumber = false ∧ pile.symbol.isSmooth = true

theorem hasLongNumber_int (n : Int) : (Json.int n).hasLongNumber = false ↔ IsShort n := by
  rw [Json.hasLongNumber, decide_eq_false_iff_not, Nat.not_le, IsShort]

theorem hasLongNumber_heightJson (height : Option Int) :
    (heightJson height).hasLongNumber = false ↔ ∀ n ∈ height, IsShort n := by
  cases height with
  | none => exact iff_of_true rfl nofun
  | some n =>
    rw [heightJson, hasLongNumber_int]
    exact ⟨fun h _ hn => Option.some.inj hn ▸ h, fun h => h n rfl⟩

theorem isSmooth_heightJson (height : Option Int) : (heightJson height).isSmooth = true := by
  cases height <;> rfl

theorem hasLongNumber_pile (pile : Pile) : pile.toJson.hasLongNumber = false
    ↔ IsShort pile.amount ∧ IsShort pile.divisibility ∧ pile.symbol.hasLongNumber = false := by
  simp only [Pile.toJson, Json.hasLongNumber, Json.membersLongNumber, Bool.or_eq_false_iff,
    and_true, decide_eq_false_iff_not, Nat.not_le, IsShort]

/-- The keys of a pile are plain, so that its symbol alone can have a lone surrogate. -/
theorem isSmooth_pile (pile : Pile) : pile.toJson.isSmooth = pile.symbol.isSmooth := by
  have hkeys : ∀ name ∈ ["amount", "divisibility", "symbol"], Json.isSmoothKey name = true := by
    decide
  simp [Pile.toJson, Json.isSmooth, Json.membersSmooth, hkeys]

/-- Of the verdict, only a pile can stand in the way of the report. -/
theorem verdictMembers_printable_iff (check : Check) :
    Json.membersLongNumber check.verdictMembers = false
        ∧ Json.membersSmooth check.verdictMembers = true
      ↔ ∀ pile, check.verdict = .ok pile →
        pile.toJson.hasLongNumber = false ∧ pile.toJson.isSmooth = true := by
  have hkeys : ∀ name ∈ ["mintable", "pile", "display", "reason"],
      Json.isSmoothKey name = true := by decide
  unfold verdictMembers
  cases check.verdict with
  | error refusal =>
    refine iff_of_true ⟨rfl, ?_⟩ nofun
    simp [Json.membersSmooth, Json.isSmooth, hkeys]
  | ok pile =>
    simp [Json.membersLongNumber, Json.hasLongNumber, Json.membersSmooth, Json.isSmooth, hkeys]

theorem toJson_printable_iff (check : Check) :
    check.toJson.hasLongNumber = false ∧ check.toJson.isSmooth = true ↔ check.IsPrintable := by
  have hkeys : ∀ name ∈ ["rune", "id", "height", "mints", "start", "end"],
      Json.isSmoothKey name = true := by decide
  -- In front of the verdict stand plain texts and whole numbers.
  have hfront : check.toJson.hasLongNumber = false ∧ check.toJson.isSmooth = true
      ↔ (IsShort check.height ∧ IsShort check.entry.mints
        ∧ (∀ n ∈ check.entry.start, IsShort n) ∧ ∀ n ∈ check.entry.stop, IsShort n)
      ∧ Json.membersLongNumber check.verdictMembers = false
      ∧ Json.membersSmooth check.verdictMembers = true := by
    rw [toJson, Json.hasLongNumber, Json.isSmooth, Json.membersLongNumber_append,
      Json.membersSmooth_append, Bool.or_eq_false_iff, Bool.and_eq_true,
      ← hasLongNumber_heightJson, ← hasLongNumber_heightJson, ← hasLongNumber_int,
      ← hasLongNumber_int]
    simp [Json.membersLongNumber, Json.membersSmooth, Json.isSmooth, Json.hasLongNumber,
      isSmooth_heightJson, hkeys, and_assoc]
  rw [hfront, verdictMembers_printable_iff]
  -- What is left is to take a pile to its parts.
  constructor
  · rintro ⟨⟨hheight, hmints, hstart, hstop⟩, hpile⟩
    have hparts (pile : Pile) (hverdict : check.verdict = .ok pile) :
        (IsShort pile.amount ∧ IsShort pile.divisibility ∧ pile.symbol.hasLongNumber = false)
          ∧ pile.symbol.isSmooth = true := by
      rw [← hasLongNumber_pile, ← isSmooth_pile]
      exact hpile pile hverdict
    exact ⟨hheight, hmints, hstart, hstop, fun pile hverdict => (hparts pile hverdict).1.1,
      fun pile hverdict => (hparts pile hverdict).1.2.1,
      fun pile hverdict => ⟨(hparts pile hverdict).1.2.2, (hparts pile hverdict).2⟩⟩
  · intro h
    refine ⟨⟨h.height, h.mints, h.start, h.stop⟩, fun pile hverdict => ?_⟩
    rw [hasLongNumber_pile, isSmooth_pile]
    exact ⟨⟨h.amount pile hverdict, h.divisibility pile hverdict, (h.symbol pile hverdict).1⟩,
      (h.symbol pile hverdict).2⟩

/-- The document of a check can be written exactly if everything in it can be printed. -/
theorem written_ok_iff (check : Check) :
    (∃ text, check.written = .ok text) ↔ check.IsPrintable := by
  have hkept : Json.Style.indented.asciiOnly = false := rfl
  have hwrite := Json.write_ok_iff hkept check.toJson
  rw [toJson_printable_iff] at hwrite
  rw [← hwrite]
  unfold written CommandLine.Output.text CommandLine.document
  cases check.toJson.write .indented with
  | ok text => exact iff_of_true ⟨_, rfl⟩ ⟨_, rfl⟩
  | error cause => exact iff_of_false nofun nofun

theorem written_error_iff (check : Check) :
    (∃ cause, check.written = .error cause) ↔ ¬ check.IsPrintable := by
  rw [← written_ok_iff]
  cases check.written with
  | ok text => exact iff_of_false nofun fun h => h ⟨text, rfl⟩
  | error cause => exact iff_of_true ⟨cause, rfl⟩ nofun

/-! ## Reports -/

/-- A check writes a report that says whether the rune can be minted, and something else besides. -/
def Reports (result : Except Failure Check) (mintable : Bool) (key : String) (value : Json) :
    Prop :=
  ∃ check text, result = .ok check ∧ check.written = .ok text
    ∧ check.toJson.member? "mintable" = .ok (some (.bool mintable))
    ∧ check.toJson.member? key = .ok (some value)

/-- A check reports that the rune can be minted, and what a mint of it yields. -/
def ReportsPile (result : Except Failure Check) (pile : Pile) : Prop :=
  Reports result true "pile" pile.toJson

/-- A check reports that the rune cannot be minted, and why. -/
def ReportsReason (result : Except Failure Check) (reason : String) : Prop :=
  Reports result false "reason" (.str reason)

/-- A check comes to a verdict, and fails because its report cannot be written. -/
def Withheld (result : Except Failure Check) (cause : Json.Unwritable) : Prop :=
  ∃ check, result = .ok check ∧ check.written = .error cause

/-- If a check comes to a verdict, its report can be printed. -/
def Printable (result : Except Failure Check) : Prop :=
  ∀ check, result = .ok check → check.IsPrintable

theorem printable_ok_iff {check : Check} : Printable (.ok check) ↔ check.IsPrintable := by
  constructor
  · exact fun h => h check rfl
  · rintro h _ ⟨⟩
    exact h

theorem printable_error (e : Failure) : Printable (.error e) := by
  intro check h
  cases h

/-- A report is withheld exactly if it cannot be printed. -/
theorem withheld_iff (result : Except Failure Check) :
    (∃ cause, Withheld result cause) ↔ ¬ Printable result := by
  cases result with
  | error e =>
    refine iff_of_false ?_ fun h => h (printable_error e)
    rintro ⟨_, _, ⟨⟩, -⟩
  | ok check =>
    rw [printable_ok_iff, ← written_error_iff]
    refine exists_congr fun cause => ?_
    simp [Withheld]

/-- Only the members of the verdict have these keys. -/
theorem member?_toJson (check : Check) {key : String} (h : key ∈ ["mintable", "pile", "reason"]) :
    check.toJson.member? key = .ok (Json.find? check.verdictMembers key) := by
  simp only [List.mem_cons, List.not_mem_nil, or_false] at h
  rcases h with rfl | rfl | rfl <;> rfl

theorem reports_ok_iff {check : Check} {mintable : Bool} {key : String} {value : Json}
    (hkey : key ∈ ["mintable", "pile", "reason"]) :
    Reports (.ok check) mintable key value
      ↔ (Json.find? check.verdictMembers "mintable" = some (.bool mintable)
        ∧ Json.find? check.verdictMembers key = some value) ∧ check.IsPrintable := by
  rw [← written_ok_iff]
  unfold Reports
  simp only [Except.ok.injEq, exists_and_left, exists_eq_left', exists_and_right]
  rw [member?_toJson check List.mem_cons_self, member?_toJson check hkey, Except.ok.injEq,
    Except.ok.injEq]
  exact and_comm

theorem not_reports_error {e : Failure} {mintable : Bool} {key : String} {value : Json} :
    ¬ Reports (.error e) mintable key value := by
  rintro ⟨check, _, h, -⟩
  cases h

theorem toJson_injective {pile other : Pile} (h : pile.toJson = other.toJson) : pile = other := by
  rcases pile with ⟨amount, divisibility, symbol⟩
  rcases other with ⟨amount', divisibility', symbol'⟩
  simp only [Pile.toJson, Json.obj.injEq, List.cons.injEq, Prod.mk.injEq, Json.int.injEq] at h
  obtain ⟨⟨-, rfl⟩, ⟨-, hdivisibility⟩, ⟨-, rfl⟩, -⟩ := h
  cases Int.ofNat.inj hdivisibility
  rfl

/-- The report and the verdict say the same. -/
theorem reportsPile_ok_iff {check : Check} {pile : Pile} :
    ReportsPile (.ok check) pile ↔ check.verdict = .ok pile ∧ check.IsPrintable := by
  unfold ReportsPile
  rw [reports_ok_iff (by simp), verdictMembers]
  refine and_congr_left fun _ => ?_
  cases check.verdict with
  | error refusal => exact iff_of_false (fun h => nomatch h.1) nofun
  | ok found =>
    constructor
    · rintro ⟨-, hpile⟩
      rw [toJson_injective (Option.some.inj hpile)]
    · rintro ⟨⟩
      exact ⟨rfl, rfl⟩

theorem reportsReason_ok_iff {check : Check} {reason : String} :
    ReportsReason (.ok check) reason
      ↔ (∃ refusal, check.verdict = .error refusal ∧ refusal.reason = reason)
        ∧ check.IsPrintable := by
  unfold ReportsReason
  rw [reports_ok_iff (by simp), verdictMembers]
  refine and_congr_left fun _ => ?_
  cases check.verdict with
  | ok found => exact iff_of_false (fun h => nomatch h.1) (by rintro ⟨_, h, -⟩; cases h)
  | error refusal =>
    constructor
    · rintro ⟨-, hreason⟩
      cases hreason
      exact ⟨refusal, rfl, rfl⟩
    · rintro ⟨_, ⟨⟩, rfl⟩
      exact ⟨rfl, rfl⟩

end Runesmith.Check
