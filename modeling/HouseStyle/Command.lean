import HouseStyle.Arguments
import HouseStyle.Report

/-! The command: checks files and reports on them, or says how it is used. -/
namespace HouseStyle

structure Outcome where
  status : UInt32
  stdout : String := ""
  stderr : String := ""
  notes : List Note := []
  deriving DecidableEq, Repr

namespace Command

def usageLine : String := "Usage: cppstyle [FILE]...\n"

def examples : String :=
  "Examples:\n" ++
  "  cppstyle src/main.cpp src/Song.h     Check two files\n" ++
  "  cppstyle $(git ls-files '*.cpp' '*.h')   Check every tracked C++ file\n"

def briefHelp : String :=
  "Naming-convention and structural linter for C++ sources\n\n" ++ usageLine ++
  "\nArguments:\n" ++
  "  [FILE]...  Files to check\n" ++
  "\nOptions:\n" ++
  "  -h, --help     Print help (see more with '--help')\n" ++
  "  -V, --version  Print version\n\n" ++ examples

def fullHelp : String :=
  "Checks function, variable, class and macro names, file-scope variables and header include " ++
  "guards against a fixed style guide.\n\n" ++
  "The exit status is the penalty: 0 with no errors, 10 for the first error, 2 more for each " ++
  "further error, capped at 20.\n\n" ++ usageLine ++
  "\nArguments:\n" ++
  "  [FILE]...\n" ++
  "          Files to check\n" ++
  "\nOptions:\n" ++
  "  -h, --help\n" ++
  "          Print help (see a summary with '-h')\n\n" ++
  "  -V, --version\n" ++
  "          Print version\n\n" ++ examples

def version : String := "cppstyle 0.1.0\n"

def namesShown (names : List String) : String :=
  "[" ++ ", ".intercalate (names.map fun name => "\"" ++ name ++ "\"") ++ "]"

def countsShown (counts : CheckCounts) : String :=
  "\x7b" ++ ", ".intercalate (counts.entries.map fun (check, count) =>
    "\"" ++ check ++ "\": " ++ toString count) ++ "\x7d"

def activeNote (linter : Linter) : Note :=
  ⟨.debug, "Active checks: " ++ namesShown linter.checkNames⟩

def totalsNote (totals : RunTotals) : Note :=
  ⟨.debug, toString totals.filesChecked ++ " files checked, " ++ toString totals.filesSkipped ++
    " skipped, by check: " ++ countsShown totals.byCheck⟩

def checkPaths (linter : Linter) (source : Source) (styled : Bool) (paths : List String) :
    Score × String × List Note :=
  match linter.run source (Report.liveObserver styled) paths Record.empty "" with
  | .error stopped => nomatch stopped.error
  | .ok progress =>
    let score := Score.ofRecord linter.config.scoring progress.record
    (score, progress.observer ++ Report.summary styled score progress.record progress.totals,
      progress.notes ++ [totalsNote progress.totals])

def checkFiles (source : Source) (styled : Bool) (paths : List String) : Outcome :=
  let linter := Linter.ofStyleGuide {}
  let (score, written, notes) := checkPaths linter source styled paths
  { status := score.exitStatus
    stdout := written
    notes := Linter.styleGuideNotes {} ++ activeNote linter :: notes }

def perform (source : Source) (styled : Bool) : Request → Outcome
  | .check [] => { status := 1, stderr := "Usage: cppstyle <FILE>...\n" }
  | .check files => checkFiles source styled files
  | .briefHelp => { status := 0, stdout := briefHelp }
  | .fullHelp => { status := 0, stdout := fullHelp }
  | .version => { status := 0, stdout := version }

def refusalText (refusal : Refusal) : String :=
  let reason := match refusal with
    | .unknownArgument argument => "unexpected argument '" ++ argument ++ "' found"
    | .emptyFile => "a value is required for '[FILE]...' but none was supplied"
    | .unexpectedValue flag value =>
      "unexpected value '" ++ value ++ "' for '" ++ flag ++ "' found; no more were expected"
  "error: " ++ reason ++ "\n\n" ++ usageLine ++ "\nFor more information, try '--help'.\n"

def refused (refusal : Refusal) : Outcome := { status := 2, stderr := refusalText refusal }

def run (source : Source) (styled : Bool) (arguments : List String) : Outcome :=
  match Request.parse arguments with
  | .ok request => perform source styled request
  | .error refusal => refused refusal

end Command

end HouseStyle
