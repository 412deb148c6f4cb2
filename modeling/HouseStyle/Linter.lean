import HouseStyle.Check.StyleGuide
import HouseStyle.Log

/-! A linter: a configuration and the checks that run under it, in the order in which they were
registered. -/
namespace HouseStyle

structure Linter where
  config : Config
  checks : List Check

namespace Linter

def ofConfig (config : Config) : Linter := ⟨config, []⟩

def register (linter : Linter) (check : Check) : Linter :=
  if linter.config.enables check.name then { linter with checks := linter.checks ++ [check] }
  else linter

def registerNote (linter : Linter) (check : Check) : Note :=
  ⟨.debug, (if linter.config.enables check.name then "Registering check: "
    else "Skipping disabled check: ") ++ check.name⟩

def registerAll (linter : Linter) (checks : List Check) : Linter := checks.foldl register linter

def registerNotes (linter : Linter) (checks : List Check) : List Note :=
  checks.map linter.registerNote

def ofStyleGuide (config : Config) : Linter := (ofConfig config).registerAll defaultChecks

def styleGuideNotes (config : Config) : List Note := (ofConfig config).registerNotes defaultChecks

def checkNames (linter : Linter) : List String := linter.checks.map (·.name)

def findings (linter : Linter) (file : SourceFile) : List (String × List Violation) :=
  (linter.checks.filter (·.appliesTo linter.config file.name)).map fun check =>
    (check.name, check.run linter.config file)

/-- The violations in a file: check by check, and for each check in the order of its own report. -/
def lint (linter : Linter) (file : SourceFile) : List Violation :=
  (linter.findings file).flatMap (·.2)

def lintNotes (linter : Linter) (file : SourceFile) : List Note :=
  (linter.findings file).map fun (check, found) =>
    ⟨.debug, check ++ " found " ++ toString found.length ++ " violations in " ++ file.name⟩

end Linter

end HouseStyle
