import HouseStyle.Proofs.Counts
import HouseStyle.Run

/-! A run as one flat sequence of stages. Each stage tells the observer one event; what is counted,
recorded and noted before and after the event does not depend on the observer. The nested loops over
paths and violations are shown to be a single loop over stages, so that whatever holds of one stage
carries over to whole runs by one induction. -/
namespace HouseStyle

def Event.violation? : Event → Option Violation
  | .found violation => some violation
  | .started _ | .skipped _ => none

def Event.isStart : Event → Bool
  | .started _ => true
  | .found _ | .skipped _ => false

def Event.isSkip : Event → Bool
  | .skipped _ => true
  | .started _ | .found _ => false

def RunTotals.after (totals : RunTotals) : Event → RunTotals
  | .started _ => { totals with filesChecked := totals.filesChecked + 1 }
  | .found violation => { totals with byCheck := totals.byCheck.see violation }
  | .skipped _ => { totals with filesSkipped := totals.filesSkipped + 1 }

theorem totalsCount {count : RunTotals → Nat} {raises : Event → Bool}
    (step : ∀ totals event, count (totals.after event) = count totals + if raises event then 1 else 0)
    (events : List Event) (totals : RunTotals) :
    count (events.foldl RunTotals.after totals) = count totals + events.countP raises := by
  induction events generalizing totals with
  | nil => rfl
  | cons event rest ih =>
    rw [List.foldl_cons, ih, step, List.countP_cons]
    omega

theorem totalsChecked (events : List Event) (totals : RunTotals) :
    (events.foldl RunTotals.after totals).filesChecked =
      totals.filesChecked + events.countP Event.isStart :=
  totalsCount (fun _ event => by cases event <;> rfl) events totals

theorem totalsSkipped (events : List Event) (totals : RunTotals) :
    (events.foldl RunTotals.after totals).filesSkipped =
      totals.filesSkipped + events.countP Event.isSkip :=
  totalsCount (fun _ event => by cases event <;> rfl) events totals

theorem totalsByCheck (events : List Event) (totals : RunTotals) :
    (events.foldl RunTotals.after totals).byCheck =
      (events.filterMap Event.violation?).foldl CheckCounts.see totals.byCheck := by
  induction events generalizing totals with
  | nil => rfl
  | cons event rest ih =>
    rw [List.foldl_cons, ih]
    cases event <;> rfl

namespace Run

variable {σ ε : Type}

structure Stage where
  event : Event
  before : List Note := []
  after : List Note := []
  deriving DecidableEq, Repr

def Stage.prepare (stage : Stage) (progress : Progress σ) : Progress σ :=
  match stage.event with
  | .started _ => note stage.before progress
  | .found violation =>
    let totals := { progress.totals with byCheck := progress.totals.byCheck.add violation.check 1 }
    note stage.before { progress with totals, record := progress.record.push violation }
  | .skipped _ =>
    let totals := { progress.totals with filesSkipped := progress.totals.filesSkipped + 1 }
    note stage.before { progress with totals }

def Stage.settle (stage : Stage) (progress : Progress σ) : Progress σ :=
  match stage.event with
  | .started _ =>
    let totals := { progress.totals with filesChecked := progress.totals.filesChecked + 1 }
    note stage.after { progress with totals }
  | .found _ | .skipped _ => note stage.after progress

def Stage.perform (observe : Observer σ ε) (progress : Progress σ) (stage : Stage) :
    Except (Stopped σ ε) (Progress σ) := do
  let told ← tell observe stage.event (stage.prepare progress)
  return stage.settle told

def Stage.keep (progress : Progress σ) (stage : Stage) : Progress σ :=
  stage.settle (stage.prepare progress)

def fileStages (linter : Linter) (file : SourceFile) (notes : List Note) : List Stage :=
  { event := .started file.name, before := notes, after := linter.lintNotes file } ::
    (linter.lint file).map fun violation => { event := .found violation }

def stages (linter : Linter) (source : Source) (path : String) : List Stage :=
  match source path with
  | .error failure =>
    [{ event := .skipped failure
       before := [⟨.warn, "Skipping " ++ path ++ ": " ++ failure.message⟩] }]
  | .ok content => fileStages linter ⟨Path.baseName path, content.text⟩ (content.notes path)

theorem noteNothing (progress : Progress σ) : note [] progress = progress := by
  simp [note]

theorem reportIsStage (observe : Observer σ ε) (progress : Progress σ) (violation : Violation) :
    report observe progress violation =
      Stage.perform observe progress { event := .found violation } := by
  simp only [report, Stage.perform, Stage.prepare, noteNothing, Stage.settle]
  exact (bind_pure _).symm

theorem skipIsStage (observe : Observer σ ε) (path : String) (failure : ReadFailure)
    (progress : Progress σ) :
    skip observe path failure progress =
      Stage.perform observe progress
        { event := .skipped failure
          before := [⟨.warn, "Skipping " ++ path ++ ": " ++ failure.message⟩] } := by
  simp only [skip, Stage.perform, Stage.prepare, noteNothing, Stage.settle]
  exact (bind_pure _).symm

theorem checkFileIsStages (linter : Linter) (observe : Observer σ ε) (file : SourceFile)
    (progress : Progress σ) (notes : List Note) :
    checkFile linter observe file (note notes progress) =
      (fileStages linter file notes).foldlM (Stage.perform observe) progress := by
  have reports : report (σ := σ) observe =
      fun progress violation => Stage.perform observe progress { event := .found violation } := by
    funext progress violation
    exact reportIsStage observe progress violation
  simp only [checkFile, fileStages, List.foldlM_cons, List.foldlM_map, Stage.perform, Stage.prepare,
    Stage.settle, reports, bind_assoc, pure_bind]

theorem visitIsStages (linter : Linter) (source : Source) (observe : Observer σ ε)
    (progress : Progress σ) (path : String) :
    visit linter source observe progress path =
      (stages linter source path).foldlM (Stage.perform observe) progress := by
  unfold visit stages
  cases source path with
  | error failure =>
    simp only [List.foldlM_cons, List.foldlM_nil, bind_pure]
    exact skipIsStage observe path failure progress
  | ok content => exact checkFileIsStages linter observe _ progress _

theorem visitsAreStages (linter : Linter) (source : Source) (observe : Observer σ ε)
    (paths : List String) (progress : Progress σ) :
    paths.foldlM (visit linter source observe) progress =
      (paths.flatMap (stages linter source)).foldlM (Stage.perform observe) progress := by
  induction paths generalizing progress with
  | nil => rfl
  | cons path rest ih =>
    simp only [List.foldlM_cons, List.flatMap_cons, List.foldlM_append, visitIsStages, ih]

def handOver (progress : Progress σ) (observer : σ) : Progress σ := { progress with observer }

theorem handOverTwice (progress : Progress σ) (first last : σ) :
    handOver (handOver progress first) last = handOver progress last := rfl

theorem prepareObserver (stage : Stage) (progress : Progress σ) :
    (stage.prepare progress).observer = progress.observer := by
  unfold Stage.prepare
  split <;> rfl

theorem keepHandOver (stage : Stage) (progress : Progress σ) (observer : σ) :
    Stage.keep (handOver progress observer) stage = handOver (Stage.keep progress stage) observer := by
  unfold Stage.keep Stage.prepare Stage.settle
  cases stage.event <;> rfl

theorem keepAllHandOver (stages : List Stage) (progress : Progress σ) (observer : σ) :
    stages.foldl Stage.keep (handOver progress observer) =
      handOver (stages.foldl Stage.keep progress) observer := by
  induction stages generalizing progress with
  | nil => rfl
  | cons stage rest ih => rw [List.foldl_cons, List.foldl_cons, keepHandOver, ih]

theorem performAccepted {observe : Observer σ ε} {progress : Progress σ} {stage : Stage} {next : σ}
    (accepted : observe progress.observer stage.event = .ok next) :
    Stage.perform observe progress stage = .ok (handOver (Stage.keep progress stage) next) := by
  have told : tell observe stage.event (stage.prepare progress) =
      .ok (handOver (stage.prepare progress) next) := by
    simp only [tell, prepareObserver, accepted, handOver]
  simp only [Stage.perform, told, Stage.keep]
  unfold Stage.settle
  cases stage.event <;> rfl

theorem performRefused {observe : Observer σ ε} {progress : Progress σ} {stage : Stage} {error : ε}
    (refused : observe progress.observer stage.event = .error error) :
    Stage.perform observe progress stage = .error ⟨error, stage.prepare progress⟩ := by
  have told : tell observe stage.event (stage.prepare progress) =
      .error ⟨error, stage.prepare progress⟩ := by
    simp only [tell, prepareObserver, refused]
  simp only [Stage.perform, told]
  rfl

theorem stagesAccepted {observe : Observer σ ε} (stages : List Stage) (progress : Progress σ) {last : σ}
    (accepted : (stages.map Stage.event).foldlM observe progress.observer = .ok last) :
    stages.foldlM (Stage.perform observe) progress =
      .ok (handOver (stages.foldl Stage.keep progress) last) := by
  induction stages generalizing progress with
  | nil => cases accepted; rfl
  | cons stage rest ih =>
    rw [List.map_cons, List.foldlM_cons] at accepted
    cases first : observe progress.observer stage.event with
    | error error =>
      rw [first] at accepted
      cases accepted
    | ok next =>
      rw [first] at accepted
      have later := ih (handOver (Stage.keep progress stage) next) accepted
      rw [List.foldlM_cons, performAccepted first, List.foldl_cons]
      rw [keepAllHandOver, handOverTwice] at later
      exact later

/- The first refusal ends the run with the books prepared for the refused event, not settled. -/
theorem stagesRefused {observe : Observer σ ε} (done : List Stage) (stage : Stage) (left : List Stage)
    (progress : Progress σ) {last : σ} {error : ε}
    (accepted : (done.map Stage.event).foldlM observe progress.observer = .ok last)
    (refused : observe last stage.event = .error error) :
    (done ++ stage :: left).foldlM (Stage.perform observe) progress =
      .error ⟨error, stage.prepare (handOver (done.foldl Stage.keep progress) last)⟩ := by
  have stopped : Stage.perform observe (handOver (done.foldl Stage.keep progress) last) stage =
      .error ⟨error, stage.prepare (handOver (done.foldl Stage.keep progress) last)⟩ :=
    performRefused refused
  rw [List.foldlM_append, stagesAccepted done progress accepted]
  change (stage :: left).foldlM (Stage.perform observe) (handOver _ last) = _
  rw [List.foldlM_cons, stopped]
  rfl

theorem prepareRecord (stage : Stage) (progress : Progress σ) :
    (stage.prepare progress).record.toList =
      progress.record.toList ++ stage.event.violation?.toList := by
  unfold Stage.prepare
  cases stage.event <;> simp [note, Event.violation?]

theorem keepRecord (stage : Stage) (progress : Progress σ) :
    (Stage.keep progress stage).record.toList =
      progress.record.toList ++ stage.event.violation?.toList := by
  rw [← prepareRecord]
  unfold Stage.keep Stage.settle
  cases stage.event <;> rfl

theorem keptRecord (stages : List Stage) (progress : Progress σ) :
    (stages.foldl Stage.keep progress).record.toList =
      progress.record.toList ++ (stages.map Stage.event).filterMap Event.violation? := by
  induction stages generalizing progress with
  | nil => simp
  | cons stage rest ih =>
    rw [List.foldl_cons, ih, keepRecord, List.append_assoc]
    cases found : stage.event.violation? <;> simp [found]

theorem keepTotals (stage : Stage) (progress : Progress σ) :
    (Stage.keep progress stage).totals = progress.totals.after stage.event := by
  unfold Stage.keep Stage.prepare Stage.settle
  cases stage.event <;> rfl

theorem keptTotals (stages : List Stage) (progress : Progress σ) :
    (stages.foldl Stage.keep progress).totals =
      (stages.map Stage.event).foldl RunTotals.after progress.totals := by
  induction stages generalizing progress with
  | nil => rfl
  | cons stage rest ih => rw [List.foldl_cons, ih, keepTotals, List.map_cons, List.foldl_cons]

end Run

end HouseStyle
