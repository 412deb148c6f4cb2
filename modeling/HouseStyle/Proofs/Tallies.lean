import HouseStyle.Proofs.Scores
import HouseStyle.Proofs.Stops

/-! Tallies of violations, said by counting: the checks stand in the order in which they first reported,
each once and with the number of its reports. What a run counts while it goes on and what is counted in
its record afterwards are the same. -/
namespace HouseStyle

namespace CheckCounts

theorem firstSeenStep (seen : List String) (check : String) :
    (seen ++ [check]).eraseDups =
      if check ∈ seen.eraseDups then seen.eraseDups else seen.eraseDups ++ [check] := by
  rw [List.eraseDups_append]
  by_cases old : check ∈ seen
  · rw [if_pos (List.mem_eraseDups.mpr old)]
    simp [List.removeAll, old]
  · rw [if_neg (mt List.mem_eraseDups.mp old)]
    simp [List.removeAll, old, List.eraseDups_cons]

theorem namesSeen {counts : CheckCounts} {seen : List Violation}
    (first : counts.names = (seen.map (·.check)).eraseDups) (violations : List Violation) :
    (violations.foldl see counts).names = ((seen ++ violations).map (·.check)).eraseDups := by
  induction violations generalizing counts seen with
  | nil => rwa [List.append_nil]
  | cons violation rest ih =>
    have grown : (counts.see violation).names = _ := raiseNames violation.check 1 counts.entries
    have step : (counts.see violation).names = ((seen ++ [violation]).map (·.check)).eraseDups := by
      rw [grown, List.map_append, List.map_singleton, firstSeenStep, ← first]
    have later := ih step
    rwa [List.append_assoc] at later

theorem countsSeen (violations : List Violation) :
    (violations.foldl see {}).entries =
      (violations.map (·.check)).eraseDups.map fun check => (check, reports check violations) := by
  have start : names {} = (List.map Violation.check []).eraseDups := rfl
  have seen := namesSeen start violations
  rw [List.nil_append] at seen
  rw [← seen, names, List.map_map]
  refine (List.map_id _).symm.trans (List.map_congr_left fun entry member => ?_)
  obtain ⟨_, count⟩ := (countedIff violations entry.1 entry.2).mp member
  simp only [id, Function.comp_def, count]

end CheckCounts

structure Tally.Counts (tally : Tally) (violations : List Violation) : Prop where
  errors : tally.errors = violations.countP Violation.isError
  warnings : tally.warnings = violations.countP Violation.isWarning
  total : tally.total = violations.length ∧ tally.total = tally.errors + tally.warnings
  byCheck : tally.byCheck.entries =
    (violations.map (·.check)).eraseDups.map fun check =>
      (check, violations.countP (·.check == check))
  distinct : (tally.byCheck.entries.map (·.1)).Nodup
  positive : ∀ entry ∈ tally.byCheck.entries, 0 < entry.2
  sum : tally.byCheck.sum = tally.total

theorem tallyCounts (violations : List Violation) : (Tally.ofList violations).Counts violations := by
  rw [tallyOfList]
  exact
    { errors := rfl
      warnings := rfl
      total := ⟨rfl, (errorsAndWarnings violations).symm⟩
      byCheck := CheckCounts.countsSeen violations
      distinct := CheckCounts.countsDistinct violations
      positive := fun entry member => ((CheckCounts.countedIff violations entry.1 entry.2).mp member).1
      sum := (CheckCounts.sumAll {} violations).trans (Nat.zero_add _) }

namespace Run

variable {σ ε : Type}

theorem runFinished {linter : Linter} {source : Source} {observe : Observer σ ε} {paths : List String}
    {record : Record} {start : σ} {progress : Progress σ}
    (ran : linter.run source observe paths record start = .ok progress) :
    ∃ last, progress = completed linter source paths record last := by
  rcases observerSplits observe (events linter source paths) start with
    ⟨last, accepted⟩ | ⟨done, event, left, last, error, told, accepted, refused⟩
  · rw [runAccepted record accepted] at ran
    exact ⟨last, (Except.ok.inj ran).symm⟩
  · obtain ⟨stopped, stops, _⟩ := runRefused record told accepted refused
    rw [stops] at ran
    contradiction

theorem runCounts {linter : Linter} {source : Source} {observe : Observer σ ε} {paths : List String}
    {record : Record} {start : σ} {progress : Progress σ}
    (ran : linter.run source observe paths record start = .ok progress) :
    ∃ found, progress.record.toList = record.toList ++ found ∧
      progress.totals.byCheck = found.foldl CheckCounts.see {} := by
  obtain ⟨last, rfl⟩ := runFinished ran
  refine ⟨_, completedRecord linter source paths record last, ?_⟩
  rw [completedTotals, totalsByCheck]

theorem talliesAgree :
    (∀ violations : List Violation,
      (Tally.ofList violations).Counts violations ∧
      (Tally.ofList violations).errors = Record.errorCount ⟨violations.toArray⟩) ∧
    ∀ (linter : Linter) (source : Source) (observe : Observer σ ε) (paths : List String) (start : σ)
      (progress : Progress σ), linter.run source observe paths .empty start = .ok progress →
      ∀ scoring check count, progress.totals.byCheck.get? check = some count ↔
        (check, count) ∈ (Score.ofRecord scoring progress.record).tally.byCheck.entries := by
  constructor
  · intro violations
    have counts := tallyCounts violations
    exact ⟨counts, counts.errors⟩
  · intro linter source observe paths start progress ran scoring check count
    obtain ⟨found, recorded, counted⟩ := runCounts ran
    rw [Record.toListEmpty, List.nil_append] at recorded
    rw [Score.ofRecord, recorded, tallyOfList, counted,
      CheckCounts.memberGet (CheckCounts.countsDistinct found)]

theorem talliesAgreeSample :
    let source : Source := fun path =>
      if path = "a.cpp" then .ok ⟨"int Count = 1; int First;", false⟩
      else if path = "b.h" then .ok ⟨"class song", false⟩
      else .error (.notFound path)
    let linter := Linter.ofStyleGuide {}
    let paths := ["b.h", "a.cpp", "gone.h", "b.h"]
    ∃ progress, linter.run source recorder paths .empty [] = .ok progress ∧
      progress.totals.byCheck.get? "variable-names" = some 2 ∧
      ("variable-names", 2) ∈ (Score.ofRecord {} progress.record).tally.byCheck.entries ∧
      ("class-names", 3) ∉ (Score.ofRecord {} progress.record).tally.byCheck.entries := by
  intro source linter paths
  have ran : linter.run source recorder paths .empty [] =
      .ok (completed linter source paths .empty (events linter source paths)) :=
    runAccepted .empty (recorderAccepts _ [])
  have agree := talliesAgree.2 linter source recorder paths [] _ ran {}
  have counted : (completed linter source paths .empty (events linter source paths)).totals.byCheck.get?
      "variable-names" = some 2 := by decide +kernel
  refine ⟨_, ran, counted, (agree _ _).mp counted, mt (agree "class-names" 3).mpr ?_⟩
  decide +kernel

end Run

end HouseStyle
