import HouseStyle.Violation

/-! Counts of violations: by check, in the order in which the checks first reported, and by
severity. -/
namespace HouseStyle

structure CheckCounts where
  entries : List (String × Nat) := []
  deriving DecidableEq, Repr, Inhabited

def raise (check : String) (count : Nat) : List (String × Nat) → List (String × Nat)
  | [] => [(check, count)]
  | (name, old) :: rest =>
    if name = check then (name, old + count) :: rest else (name, old) :: raise check count rest

def CheckCounts.add (counts : CheckCounts) (check : String) (count : Nat) : CheckCounts :=
  if count = 0 then counts else ⟨raise check count counts.entries⟩

def CheckCounts.get? (counts : CheckCounts) (check : String) : Option Nat := counts.entries.lookup check

structure Tally where
  errors : Nat := 0
  warnings : Nat := 0
  total : Nat := 0
  byCheck : CheckCounts := {}
  deriving DecidableEq, Repr, Inhabited

def Tally.add (tally : Tally) (violation : Violation) : Tally where
  errors := match violation.severity with
    | .error => tally.errors + 1
    | .warning => tally.errors
  warnings := match violation.severity with
    | .error => tally.warnings
    | .warning => tally.warnings + 1
  total := tally.total + 1
  byCheck := tally.byCheck.add violation.check 1

def Tally.ofList (violations : List Violation) : Tally := violations.foldl Tally.add {}

end HouseStyle
