import HouseStyle.Config
import HouseStyle.Violation

/-! A check looks at the name and the text of one file and reports violations. It never fails: text
that does not look like code gives no report. -/
namespace HouseStyle

structure SourceFile where
  name : String
  text : String
  deriving DecidableEq, Repr

structure Check where
  name : String
  description : String
  appliesTo : Config → (fileName : String) → Bool
  /-- The violations in the order of the report. A check that looks for several kinds of violation
  reports kind by kind, so this need not be the order of the text. -/
  run : Config → SourceFile → List Violation

structure Rule where
  name : String
  description : String
  severity : Severity := .error
  appliesTo : Config → (fileName : String) → Bool := fun _ _ => true
  messages : Config → (text : List Char) → List String

def Rule.check (rule : Rule) : Check where
  name := rule.name
  description := rule.description
  appliesTo := rule.appliesTo
  run config file := (rule.messages config file.text.toList).map fun message =>
    { check := rule.name, file := file.name, message, severity := rule.severity }

end HouseStyle
