import HouseStyle.Linter
import HouseStyle.Path
import HouseStyle.Source
import HouseStyle.Tally

/-! Runs of a linter over paths. A run tells an observer each event as it comes, and goes on until
the observer fails or the paths end. A path that cannot be read is skipped and stops nothing. -/
namespace HouseStyle

inductive Event where
  | started (file : String)
  /-- A violation was found; the record holds it already. -/
  | found (violation : Violation)
  | skipped (failure : ReadFailure)
  deriving DecidableEq, Repr

structure RunTotals where
  filesChecked : Nat := 0
  filesSkipped : Nat := 0
  byCheck : CheckCounts := {}
  deriving DecidableEq, Repr, Inhabited

abbrev Observer (σ ε : Type) := σ → Event → Except ε σ

structure Progress (σ : Type) where
  totals : RunTotals := {}
  record : Record
  observer : σ
  notes : List Note := []

structure Stopped (σ ε : Type) where
  error : ε
  progress : Progress σ

namespace Run

variable {σ ε : Type}

def tell (observe : Observer σ ε) (event : Event) (progress : Progress σ) :
    Except (Stopped σ ε) (Progress σ) :=
  match observe progress.observer event with
  | .ok observer => .ok { progress with observer }
  | .error error => .error ⟨error, progress⟩

def note (notes : List Note) (progress : Progress σ) : Progress σ :=
  { progress with notes := progress.notes ++ notes }

def report (observe : Observer σ ε) (progress : Progress σ) (violation : Violation) :
    Except (Stopped σ ε) (Progress σ) :=
  let totals := { progress.totals with byCheck := progress.totals.byCheck.add violation.check 1 }
  tell observe (.found violation)
    { progress with totals, record := progress.record.push violation }

def skip (observe : Observer σ ε) (path : String) (failure : ReadFailure) (progress : Progress σ) :
    Except (Stopped σ ε) (Progress σ) :=
  let totals := { progress.totals with filesSkipped := progress.totals.filesSkipped + 1 }
  tell observe (.skipped failure)
    (note [⟨.warn, "Skipping " ++ path ++ ": " ++ failure.message⟩] { progress with totals })

def checkFile (linter : Linter) (observe : Observer σ ε) (file : SourceFile)
    (progress : Progress σ) : Except (Stopped σ ε) (Progress σ) := do
  let progress ← tell observe (.started file.name) progress
  let totals := { progress.totals with filesChecked := progress.totals.filesChecked + 1 }
  (linter.lint file).foldlM (report observe) (note (linter.lintNotes file) { progress with totals })

def visit (linter : Linter) (source : Source) (observe : Observer σ ε) (progress : Progress σ)
    (path : String) : Except (Stopped σ ε) (Progress σ) :=
  match source path with
  | .error failure => skip observe path failure progress
  | .ok content =>
    checkFile linter observe ⟨Path.baseName path, content.text⟩
      (note (content.notes path) progress)

end Run

def Linter.run {σ ε : Type} (linter : Linter) (source : Source) (observe : Observer σ ε)
    (paths : List String) (record : Record) (observer : σ) :
    Except (Stopped σ ε) (Progress σ) := do
  let start : Note := ⟨.info, "Checking " ++ toString paths.length ++ " files with " ++
    toString linter.checks.length ++ " checks"⟩
  let progress ← paths.foldlM (Run.visit linter source observe)
    { record, observer, notes := [start] }
  let done : Note := ⟨.info, "Checked " ++ toString progress.totals.filesChecked ++ " files (" ++
    toString progress.totals.filesSkipped ++ " skipped), " ++ toString progress.record.size ++
    " violations"⟩
  return Run.note [done] progress

end HouseStyle
