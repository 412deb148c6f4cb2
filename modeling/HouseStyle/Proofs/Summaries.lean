import HouseStyle.Command
import HouseStyle.Proofs.Scores
import HouseStyle.Proofs.Stops

/-! What the command writes is the live stream of its run and a summary that agrees with it: exit
status, totals, counts by check, skipped paths and the listing all follow from the events that the
stream shows. -/
namespace HouseStyle.Report

def liveText : Event → String
  | .started file => "\nChecking file: " ++ file ++ "\n"
  | .found violation =>
    (if violation.isError then "  ❌ " else "  ⚠️ ") ++ violation.message ++ "\n"
  | .skipped failure => "warning: " ++ failure.message ++ "\n"

theorem livePlain (event : Event) : live false event = liveText event := by
  cases event with
  | started file => rfl
  | found violation =>
    obtain ⟨check, file, message, severity⟩ := violation
    cases severity <;> rfl
  | skipped failure => rfl

def amount (count : Nat) (thing : String) : String :=
  if count = 1 then "1 " ++ thing else toString count ++ " " ++ thing ++ "s"

def skippedText (unreadable : Nat) : String :=
  if unreadable = 0 then ""
  else "⚠️ Skipped " ++ amount unreadable "file" ++ " that could not be read\n"

def countsText (counts : List (String × Nat)) : String :=
  String.join (counts.map fun entry => "  " ++ entry.1 ++ ": " ++ toString entry.2 ++ "\n")

def entryText (index : Nat) (violation : Violation) : String :=
  toString (index + 1) ++ ". [" ++ violation.file ++ "] " ++ violation.message ++ "\n"

def verdictText (errors status : Nat) (found : List Violation) : String :=
  if errors = 0 then "Deduction: 0\n"
  else "Deduction: -" ++ toString status ++ "\n\nIssues:\n" ++ String.join (found.mapIdx entryText)

def ruleText : String := "============================================================\n"

def blockText (unreadable errors warnings status : Nat) (counts : List (String × Nat))
    (found : List Violation) : String :=
  "\n" ++ ruleText ++ "Code Style Check Results\n" ++ ruleText ++ skippedText unreadable ++
    (if errors + warnings = 0 then "✅ No style issues found\nDeduction: 0\n"
      else "Found " ++ amount (errors + warnings) "style issue" ++ " (" ++ amount errors "error" ++ ", " ++
        amount warnings "warning" ++ ")\n" ++ countsText counts ++ verdictText errors status found) ++
    ruleText

theorem countedAmount (count : Nat) (thing : String) :
    counted count thing (thing ++ "s") = amount count thing := by
  unfold counted amount
  split
  · rename_i one
    subst one
    rfl
  · simp only [String.append_assoc]

theorem skippedPlain (unreadable : Nat) : skippedLine false unreadable = skippedText unreadable := by
  have marked : marker .warning ++ " Skipped " = "⚠️ Skipped " := rfl
  unfold skippedLine skippedText
  split
  · rfl
  · rw [marked, ← countedAmount]
    rfl

theorem listingEntries (found : List Violation) :
    listing found = String.join (found.mapIdx entryText) := by
  rw [listing, List.zipIdx_succ, List.map_map, List.mapIdx_eq_zipIdx_map]
  rfl

theorem verdictPlain (deduction : UInt32) (record : Record) (errors : Nat)
    (costs : deduction.toNat = 0 ↔ errors = 0) :
    verdict false deduction record = verdictText errors deduction.toNat record.toList := by
  have nothing : deduction = 0 ↔ errors = 0 := by
    rw [← costs]
    exact UInt32.toNat_inj.symm
  unfold verdict verdictText
  by_cases clean : errors = 0
  · rw [if_pos clean, if_pos (nothing.mpr clean)]
  · rw [if_neg clean, if_neg (mt nothing.mp clean), listingEntries]
    simp only [Style.apply, Bool.false_eq_true, if_false, ← String.append_assoc]
    rfl

theorem ruled : ruleText = separator ++ "\n" := by decide +kernel

theorem summaryFrame (score : Score) (record : Record) (totals : RunTotals) :
    summary false score record totals =
      "\n" ++ ruleText ++ "Code Style Check Results\n" ++ ruleText ++
        skippedText totals.filesSkipped ++ issues false score record ++ ruleText := by
  have title : "Code Style Check Results\n" = bold.apply false "Code Style Check Results" ++ "\n" := rfl
  unfold summary
  rw [skippedPlain, title, ruled]
  simp only [String.append_assoc]

theorem summaryPlain (score : Score) (record : Record) (totals : RunTotals)
    (tallied : score.tally = Tally.ofList record.toList)
    (costs : score.deduction.toNat = 0 ↔ score.tally.errors = 0) :
    summary false score record totals =
      blockText totals.filesSkipped (record.toList.countP Violation.isError)
        (record.toList.countP Violation.isWarning) score.deduction.toNat
        (record.toList.foldl CheckCounts.see {}).entries record.toList := by
  have sums := errorsAndWarnings record.toList
  rw [tallyOfList] at tallied
  rw [tallied] at costs
  have empty : record.isEmpty = true ↔ record.toList.length = 0 := by
    simp [Record.isEmpty, Record.toList]
  rw [summaryFrame, blockText]
  unfold issues
  by_cases clean : record.toList.length = 0
  · rw [if_pos (empty.mpr clean), if_pos (sums.trans clean)]
    rfl
  · rw [if_neg (mt empty.mp clean), if_neg (by omega), tallied, verdictPlain _ _ _ costs, sums]
    simp only [← countedAmount]
    rfl

theorem liveAccepts (styled : Bool) (events : List Event) (written : String) :
    events.foldlM (liveObserver styled) written =
      .ok (written ++ String.join (events.map (live styled))) := by
  induction events generalizing written with
  | nil => exact congrArg Except.ok (String.append_empty).symm
  | cons event rest ih =>
    have later := ih (written ++ live styled event)
    rw [String.append_assoc, ← String.join_cons] at later
    exact later

theorem checkPathsRun (linter : Linter) (source : Source) (styled : Bool) (paths : List String) :
    ∃ record totals notes,
      Command.checkPaths linter source styled paths =
        (Score.ofRecord linter.config.scoring record,
          String.join ((Run.events linter source paths).map (live styled)) ++
            summary styled (Score.ofRecord linter.config.scoring record) record totals,
          notes) ∧
      record.toList = (Run.events linter source paths).filterMap Event.violation? ∧
      totals.filesSkipped = paths.countP (Run.unreadable source) := by
  have accepted := liveAccepts styled (Run.events linter source paths) ""
  rw [String.empty_append] at accepted
  have ran := Run.runAccepted Record.empty accepted
  generalize String.join ((Run.events linter source paths).map (live styled)) = stream at ran ⊢
  have recorded := Run.completedRecord linter source paths Record.empty stream
  have counted := Run.completedTotals linter source paths Record.empty stream
  have reached := Run.completedObserver linter source paths Record.empty stream
  generalize Run.completed linter source paths Record.empty stream = progress at *
  refine ⟨progress.record, progress.totals, progress.notes ++ [Command.totalsNote progress.totals],
    by simp only [Command.checkPaths, ran, reached], recorded, ?_⟩
  rw [counted, totalsSkipped, ← Run.toldSkips linter.lint source paths]
  exact Nat.zero_add _

theorem styleGuideConfig (config : Config) : (Linter.ofStyleGuide config).config = config := by
  rw [Linter.ofStyleGuide, Linter.registerAllChecks]
  rfl

theorem defaultCost (record : Record) :
    (Score.ofRecord {} record).deduction.toNat =
      if record.toList.countP Violation.isError = 0 then 0
      else min 20 (10 + 2 * (record.toList.countP Violation.isError - 1)) := by
  rw [Score.ofRecord, tallyOfList, deductionToNat, Nat.mul_comm]
  rfl

theorem defaultStatus (record : Record) :
    (Score.ofRecord {} record).exitStatus.toNat = (Score.ofRecord {} record).deduction.toNat := by
  have cost := defaultCost record
  have small : (Score.ofRecord {} record).deduction.toNat ≤ 20 := by
    split at cost <;> omega
  rw [Score.exitStatus, exitStatusToNat]
  omega

theorem reportsAgree (source : Source) (paths : List String) :
    let linter := Linter.ofStyleGuide {}
    let told := Run.events linter source paths
    let found := told.filterMap Event.violation?
    let errors := found.countP Violation.isError
    let warnings := found.countP Violation.isWarning
    let checked := Command.checkPaths linter source false paths
    let status := checked.1.exitStatus.toNat
    (linter.run source Run.recorder paths Record.empty []).map Progress.observer = .ok told ∧
    status = (if errors = 0 then 0 else min 20 (10 + 2 * (errors - 1))) ∧
    (status = 0 ↔ errors = 0) ∧
    (∃ counts : CheckCounts,
      checked.2.1 = String.join (told.map liveText) ++
        blockText (paths.countP (Run.unreadable source)) errors warnings status counts.entries
          found ∧
      counts.sum = errors + warnings ∧
      ∀ check count, counts.get? check = some count ↔
        0 < count ∧ found.countP (fun violation => violation.check == check) = count) ∧
    (Command.checkFiles source false paths).status = checked.1.exitStatus ∧
    (Command.checkFiles source false paths).stdout = checked.2.1 := by
  intro linter told found errors warnings checked status
  obtain ⟨record, totals, notes, ran, recorded, skipped⟩ := checkPathsRun linter source false paths
  have scoring : linter.config.scoring = {} := congrArg Config.scoring (styleGuideConfig {})
  rw [scoring] at ran
  have score : checked.1 = Score.ofRecord {} record := congrArg Prod.fst ran
  have written : checked.2.1 = String.join (told.map (live false)) ++
      summary false (Score.ofRecord {} record) record totals :=
    congrArg (fun result => result.2.1) ran
  have streamed : told.map (live false) = told.map liveText :=
    List.map_congr_left fun event _ => livePlain event
  have cost := defaultCost record
  rw [recorded] at cost
  have standing : status = (Score.ofRecord {} record).deduction.toNat := by
    rw [← defaultStatus, ← score]
  have exact : status = if errors = 0 then 0 else min 20 (10 + 2 * (errors - 1)) :=
    standing.trans cost
  have free : status = 0 ↔ errors = 0 := by
    rw [exact]
    split <;> omega
  refine ⟨Run.runRecorded linter source paths Record.empty, exact, free,
    ⟨found.foldl CheckCounts.see {}, ?_, ?_, ?_⟩, rfl, rfl⟩
  · have costs : (Score.ofRecord {} record).deduction.toNat = 0 ↔
        (Score.ofRecord {} record).tally.errors = 0 := by
      rw [← standing, free, Score.ofRecord, tallyOfList, recorded]
    rw [written, streamed, summaryPlain _ _ _ rfl costs, recorded, skipped, ← standing]
  · have sum := CheckCounts.sumAll {} found
    rw [errorsAndWarnings]
    exact sum.trans (Nat.zero_add _)
  · have agrees := CheckCounts.agreesAll CheckCounts.agreesEmpty found
    exact CheckCounts.agreesIff agrees

end HouseStyle.Report
