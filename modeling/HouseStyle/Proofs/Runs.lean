import HouseStyle.Proofs.Stages

/-! What a run does when its observer goes along with everything: what is recorded, what the observer
is told and what is counted, each given path by path without the loops of the run. -/
namespace HouseStyle

inductive Registration where
  | one (check : Check)
  | several (checks : List Check)

namespace Registration

def checks : Registration → List Check
  | .one check => [check]
  | .several checks => checks

def apply (linter : Linter) : Registration → Linter
  | .one check => linter.register check
  | .several checks => linter.registerAll checks

end Registration

namespace Linter

def built (config : Config) (registrations : List Registration) : Linter :=
  registrations.foldl Registration.apply (ofConfig config)

theorem registerChecks (linter : Linter) (check : Check) :
    linter.register check =
      ⟨linter.config, linter.checks ++ [check].filter fun check => linter.config.enables check.name⟩ := by
  cases enabled : linter.config.enables check.name <;> simp [register, enabled]

theorem registerAllChecks (linter : Linter) (checks : List Check) :
    linter.registerAll checks =
      ⟨linter.config, linter.checks ++ checks.filter fun check => linter.config.enables check.name⟩ := by
  induction checks generalizing linter with
  | nil => simp [registerAll]
  | cons check rest ih =>
    change (linter.register check).registerAll rest = _
    rw [ih, registerChecks, List.append_assoc, ← List.filter_append, List.singleton_append]

theorem applyChecks (linter : Linter) (registration : Registration) :
    Registration.apply linter registration =
      ⟨linter.config, linter.checks ++
        registration.checks.filter fun check => linter.config.enables check.name⟩ := by
  cases registration with
  | one check => exact registerChecks linter check
  | several checks => exact registerAllChecks linter checks

theorem builtChecks (config : Config) (registrations : List Registration) :
    built config registrations =
      ⟨config, (registrations.flatMap Registration.checks).filter fun check =>
        config.enables check.name⟩ := by
  have grows (linter : Linter) : registrations.foldl Registration.apply linter =
      ⟨linter.config, linter.checks ++ (registrations.flatMap Registration.checks).filter fun check =>
        linter.config.enables check.name⟩ := by
    induction registrations generalizing linter with
    | nil => simp
    | cons registration rest ih =>
      rw [List.foldl_cons, ih, applyChecks, List.append_assoc, ← List.filter_append,
        List.flatMap_cons]
  exact grows (ofConfig config)

theorem lintFlat (linter : Linter) (file : SourceFile) :
    linter.lint file =
      (linter.checks.filter fun check => check.appliesTo linter.config file.name).flatMap fun check =>
        check.run linter.config file := by
  simp [lint, findings, List.flatMap_map]

end Linter

namespace Run

def unreadable (source : Source) (path : String) : Bool :=
  match source path with
  | .error _ => true
  | .ok _ => false

def foundAt (lint : SourceFile → List Violation) (source : Source) (path : String) : List Violation :=
  match source path with
  | .error _ => []
  | .ok content => lint ⟨Path.baseName path, content.text⟩

def toldAt (lint : SourceFile → List Violation) (source : Source) (path : String) : List Event :=
  match source path with
  | .error failure => [.skipped failure]
  | .ok content =>
    .started (Path.baseName path) :: (lint ⟨Path.baseName path, content.text⟩).map .found

def events (linter : Linter) (source : Source) (paths : List String) : List Event :=
  paths.flatMap (toldAt linter.lint source)

theorem stageEvents (linter : Linter) (source : Source) (paths : List String) :
    (paths.flatMap (stages linter source)).map Stage.event = events linter source paths := by
  have each (path : String) :
      (stages linter source path).map Stage.event = toldAt linter.lint source path := by
    unfold stages toldAt
    cases source path with
    | error failure => rfl
    | ok content => simp [fileStages, Function.comp_def]
  simp only [events, List.map_flatMap, each]

theorem toldViolations (lint : SourceFile → List Violation) (source : Source) (paths : List String) :
    (paths.flatMap (toldAt lint source)).filterMap Event.violation? =
      paths.flatMap (foundAt lint source) := by
  have each (path : String) :
      (toldAt lint source path).filterMap Event.violation? = foundAt lint source path := by
    unfold toldAt foundAt
    cases source path with
    | error failure => rfl
    | ok content =>
      have reported : Event.violation? ∘ Event.found = some := rfl
      rw [List.filterMap_cons_none rfl, List.filterMap_map, reported, List.filterMap_some]
  simp only [List.filterMap_flatMap, each]

theorem toldSkips (lint : SourceFile → List Violation) (source : Source) (paths : List String) :
    (paths.flatMap (toldAt lint source)).countP Event.isSkip = paths.countP (unreadable source) := by
  induction paths with
  | nil => rfl
  | cons path rest ih =>
    have here : (toldAt lint source path).countP Event.isSkip =
        if unreadable source path then 1 else 0 := by
      unfold toldAt unreadable
      cases source path with
      | error failure => rfl
      | ok content => simp [Event.isSkip, List.countP_map, Function.comp_def]
    rw [List.flatMap_cons, List.countP_append, ih, here, List.countP_cons, Nat.add_comm]

theorem toldStarts (lint : SourceFile → List Violation) (source : Source) (paths : List String) :
    (paths.flatMap (toldAt lint source)).countP Event.isStart +
      (paths.flatMap (toldAt lint source)).countP Event.isSkip = paths.length := by
  induction paths with
  | nil => rfl
  | cons path rest ih =>
    have here : (toldAt lint source path).countP Event.isStart +
        (toldAt lint source path).countP Event.isSkip = 1 := by
      unfold toldAt
      cases source path with
      | error failure => rfl
      | ok content =>
        rw [List.countP_cons_of_pos rfl, List.countP_cons_of_neg Bool.false_ne_true]
        simp [Event.isStart, Event.isSkip, List.countP_map, Function.comp_def]
    simp only [List.flatMap_cons, List.countP_append, List.length_cons]
    omega

variable {σ ε : Type}

def opening (linter : Linter) (paths : List String) (record : Record) (observer : σ) : Progress σ :=
  { record, observer, notes := [⟨.info, "Checking " ++ toString paths.length ++ " files with " ++
    toString linter.checks.length ++ " checks"⟩] }

def closing (progress : Progress σ) : Progress σ :=
  note [⟨.info, "Checked " ++ toString progress.totals.filesChecked ++ " files (" ++
    toString progress.totals.filesSkipped ++ " skipped), " ++ toString progress.record.size ++
    " violations"⟩] progress

def completed (linter : Linter) (source : Source) (paths : List String) (record : Record) (last : σ) :
    Progress σ :=
  closing ((paths.flatMap (stages linter source)).foldl Stage.keep (opening linter paths record last))

theorem runIsStages (linter : Linter) (source : Source) (observe : Observer σ ε)
    (paths : List String) (record : Record) (start : σ) :
    linter.run source observe paths record start = (do
      let progress ← (paths.flatMap (stages linter source)).foldlM (Stage.perform observe)
        (opening linter paths record start)
      return closing progress) := by
  rw [← visitsAreStages]
  rfl

theorem runAccepted {linter : Linter} {source : Source} {observe : Observer σ ε}
    {paths : List String} {start last : σ} (record : Record)
    (accepted : (events linter source paths).foldlM observe start = .ok last) :
    linter.run source observe paths record start =
      .ok (completed linter source paths record last) := by
  rw [← stageEvents] at accepted
  rw [runIsStages, stagesAccepted _ _ accepted, ← keepAllHandOver]
  rfl

theorem completedRecord (linter : Linter) (source : Source) (paths : List String) (record : Record)
    (last : σ) :
    (completed linter source paths record last).record.toList =
      record.toList ++ (events linter source paths).filterMap Event.violation? := by
  rw [← stageEvents]
  exact keptRecord _ _

theorem completedTotals (linter : Linter) (source : Source) (paths : List String) (record : Record)
    (last : σ) :
    (completed linter source paths record last).totals =
      (events linter source paths).foldl RunTotals.after {} := by
  rw [← stageEvents]
  exact keptTotals _ _

theorem completedObserver (linter : Linter) (source : Source) (paths : List String) (record : Record)
    (last : σ) : (completed linter source paths record last).observer = last := by
  have same := keepAllHandOver (paths.flatMap (stages linter source)) (opening linter paths record last) last
  exact congrArg Progress.observer same

theorem steadyAccepts {observe : Observer σ ε}
    (steady : ∀ state event, ∃ next, observe state event = .ok next) (events : List Event) (start : σ) :
    ∃ last, events.foldlM observe start = .ok last := by
  induction events generalizing start with
  | nil => exact ⟨start, rfl⟩
  | cons event rest ih =>
    obtain ⟨next, accepted⟩ := steady start event
    obtain ⟨last, later⟩ := ih next
    refine ⟨last, ?_⟩
    rw [List.foldlM_cons, accepted]
    exact later

/- The reference for the results of a file: all enabled checks in the order of their registration,
those of them that apply, and what each of these reports. -/
def expectedIn (config : Config) (registrations : List Registration) (file : SourceFile) :
    List Violation :=
  let offered := registrations.flatMap Registration.checks
  let enabled := offered.filter fun check => config.enables check.name
  let applicable := enabled.filter fun check => check.appliesTo config file.name
  applicable.flatMap fun check => check.run config file

theorem builtLint (config : Config) (registrations : List Registration) :
    (Linter.built config registrations).lint = expectedIn config registrations := by
  funext file
  rw [Linter.lintFlat, Linter.builtChecks]
  rfl

theorem runMatchesReference (config : Config) (registrations : List Registration) (source : Source)
    (paths : List String) (record : Record) (observe : Observer σ ε) (start : σ)
    (steady : ∀ state event, ∃ next, observe state event = .ok next) :
    ∃ progress,
      (Linter.built config registrations).run source observe paths record start = .ok progress ∧
      progress.record.toList =
        record.toList ++ paths.flatMap (foundAt (expectedIn config registrations) source) ∧
      (paths.flatMap (toldAt (expectedIn config registrations) source)).foldlM observe start =
        .ok progress.observer ∧
      progress.totals.filesChecked + progress.totals.filesSkipped = paths.length ∧
      progress.totals.filesSkipped = paths.countP (unreadable source) ∧
      ∀ check count, progress.totals.byCheck.get? check = some count ↔
        0 < count ∧
          (paths.flatMap (foundAt (expectedIn config registrations) source)).countP
            (fun violation => violation.check == check) = count := by
  rw [← builtLint]
  generalize Linter.built config registrations = linter
  obtain ⟨last, accepted⟩ := steadyAccepts steady (events linter source paths) start
  refine ⟨completed linter source paths record last, runAccepted record accepted, ?_, ?_, ?_, ?_, ?_⟩
  · rw [completedRecord, events, toldViolations]
  · rw [completedObserver]
    exact accepted
  · rw [completedTotals, totalsChecked, totalsSkipped, ← toldStarts linter.lint source paths]
    simp only [events, Nat.zero_add]
  · rw [completedTotals, totalsSkipped, ← toldSkips linter.lint source paths]
    exact Nat.zero_add _
  · have agrees := CheckCounts.agreesAll CheckCounts.agreesEmpty
      ((events linter source paths).filterMap Event.violation?)
    rw [List.nil_append] at agrees
    rw [completedTotals, totalsByCheck, ← toldViolations]
    exact CheckCounts.agreesIff agrees

def recorder : Observer (List Event) Empty := fun seen event => .ok (seen ++ [event])

theorem runMatchesReferenceSample :
    let bare : Source := fun path => if path = "gone.h" then .error (.notFound path) else .ok ⟨"int x;", false⟩
    let registrations := [.one Layout.headerGuard.check, .several [Layout.sourceStructure.check]]
    let old : Violation := ⟨"class-names", "b.h", "old", .error⟩
    let guard : Violation :=
      ⟨"header-guard", "a.h", "header files must use #ifndef include guards", .error⟩
    (∀ seen event, ∃ next, recorder seen event = .ok next) ∧
    ∃ progress, (Linter.built {} registrations).run bare recorder ["a.h", "gone.h", "src/a.h"]
        ⟨#[old]⟩ [] = .ok progress ∧
      progress.record.toList = [old, guard, guard] ∧ progress.totals.filesSkipped = 1 ∧
      progress.totals.byCheck.get? "header-guard" = some 2 ∧
      progress.totals.byCheck.get? "class-names" = none := by
  intro bare registrations old guard
  have steady : ∀ seen event, ∃ next, recorder seen event = .ok next :=
    fun seen event => ⟨seen ++ [event], rfl⟩
  obtain ⟨progress, ran, recorded, _, _, skipped, counted⟩ := runMatchesReference {} registrations
    bare ["a.h", "gone.h", "src/a.h"] ⟨#[old]⟩ recorder [] steady
  refine ⟨steady, progress, ran, recorded.trans (by decide +kernel), skipped.trans (by decide +kernel),
    (counted _ _).mpr (by decide +kernel), ?_⟩
  cases found : progress.totals.byCheck.get? "class-names" with
  | none => rfl
  | some count =>
    obtain ⟨positive, same⟩ := (counted "class-names" count).mp found
    have nothing : count = 0 := same.symm.trans (by decide +kernel)
    omega

end Run

end HouseStyle
