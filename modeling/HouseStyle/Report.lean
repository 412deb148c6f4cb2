import HouseStyle.Run
import HouseStyle.Score

/-! The reports of a run for a reader: the live stream, one line an event, and the closing summary.
Styling only adds escape sequences around parts of the text. -/
namespace HouseStyle.Report

inductive Color where
  | red
  | green
  | yellow
  deriving DecidableEq, Repr

structure Style where
  color : Option Color := none
  bold : Bool := false
  deriving DecidableEq, Repr

def Color.code : Color → String
  | .red => "\x1b[31m"
  | .green => "\x1b[32m"
  | .yellow => "\x1b[33m"

def Style.opening (style : Style) : String :=
  (match style.color with | some color => color.code | none => "") ++
  (if style.bold then "\x1b[1m" else "")

def styleReset : String := "\x1b[0m"

def Style.apply (style : Style) (styled : Bool) (text : String) : String :=
  if styled then style.opening ++ text ++ styleReset else text

def bold : Style := { bold := true }

def red : Style := { color := some .red }

def yellow : Style := { color := some .yellow }

def green : Style := { color := some .green }

def marker : Severity → String
  | .error => "❌"
  | .warning => "⚠️"

def severityStyle : Severity → Style
  | .error => red
  | .warning => yellow

def live (styled : Bool) : Event → String
  | .started file => "\nChecking file: " ++ bold.apply styled file ++ "\n"
  | .found violation =>
    "  " ++ marker violation.severity ++ " " ++
      (severityStyle violation.severity).apply styled violation.message ++ "\n"
  | .skipped failure =>
    ({ yellow with bold := true } : Style).apply styled "warning:" ++ " " ++ failure.message ++ "\n"

def liveObserver (styled : Bool) : Observer String Empty :=
  fun written event => .ok (written ++ live styled event)

def counted (count : Nat) (one many : String) : String :=
  toString count ++ " " ++ (if count = 1 then one else many)

def separator : String := "============================================================"

def skippedLine (styled : Bool) (skipped : Nat) : String :=
  if skipped = 0 then ""
  else marker .warning ++ " Skipped " ++ yellow.apply styled (counted skipped "file" "files") ++
    " that could not be read\n"

def checkLines (counts : CheckCounts) : String :=
  String.join (counts.entries.map fun (check, count) =>
    "  " ++ check ++ ": " ++ toString count ++ "\n")

def listingLine (entry : Violation × Nat) : String :=
  toString entry.2 ++ ". [" ++ entry.1.file ++ "] " ++ entry.1.message ++ "\n"

def listing (violations : List Violation) : String :=
  String.join ((violations.zipIdx 1).map listingLine)

def verdict (styled : Bool) (deduction : UInt32) (record : Record) : String :=
  if deduction = 0 then "Deduction: 0\n"
  else "Deduction: " ++ ({ red with bold := true } : Style).apply styled
      ("-" ++ toString deduction.toNat) ++ "\n\nIssues:\n" ++ listing record.toList

def issues (styled : Bool) (score : Score) (record : Record) : String :=
  if record.isEmpty then green.apply styled "✅" ++ " No style issues found\nDeduction: 0\n"
  else
    "Found " ++ counted score.tally.total "style issue" "style issues" ++ " (" ++
      counted score.tally.errors "error" "errors" ++ ", " ++
      counted score.tally.warnings "warning" "warnings" ++ ")\n" ++
      checkLines score.tally.byCheck ++ verdict styled score.deduction record

def summary (styled : Bool) (score : Score) (record : Record) (totals : RunTotals) : String :=
  "\n" ++ separator ++ "\n" ++ bold.apply styled "Code Style Check Results" ++ "\n" ++
    separator ++ "\n" ++ skippedLine styled totals.filesSkipped ++ issues styled score record ++
    separator ++ "\n"

end HouseStyle.Report
