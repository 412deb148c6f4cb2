import HouseStyle.Check
import HouseStyle.Declaration

/-! Variables use lower camel case. Constants, all uppercase, and data members, with an underscore at
the end, are exempt. -/
namespace HouseStyle.VariableNames
open Text Declaration Naming

def declared (text : List Char) : List String :=
  (occurrences variableDeclaration text).map (·.value)

def isExempt (name : String) : Bool := isAllUppercase name || endsWith name "_"

def startsUppercase (name : String) : Bool := name.toList.head?.any isUppercase

def rule : Rule where
  name := "variable-names"
  description := "Local variables use lower camel case"
  messages _ text := (declared text).filterMap fun name =>
    if isExempt name || !startsUppercase name then none
    else some ("variable name '" ++ name ++
      "' should use lower camel case (lowercase first letter)")

end HouseStyle.VariableNames
