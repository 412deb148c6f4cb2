import HouseStyle.Check
import HouseStyle.Declaration

/-! Macros use uppercase with underscores. Include guards are exempt, whatever their case. -/
namespace HouseStyle.MacroNames
open Text Declaration Naming

def defined (text : List Char) : List String :=
  (occurrences macroDefinition text).map (·.value)

def rule : Rule where
  name := "macro-names"
  description := "Macros use uppercase with underscores"
  messages _ text := (defined text).filterMap fun name =>
    if isHeaderGuard name || isUpperSnake name then none
    else some ("macro '" ++ name ++ "' should use uppercase with underscores")

end HouseStyle.MacroNames
