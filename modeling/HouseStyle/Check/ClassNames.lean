import HouseStyle.Check
import HouseStyle.Declaration

/-! Classes use upper camel case without underscores. -/
namespace HouseStyle.ClassNames
open Text Declaration Naming

def declared (text : List Char) : List String :=
  (occurrences classDeclaration text).map (·.value)

def rule : Rule where
  name := "class-names"
  description := "Classes use upper camel case"
  messages _ text := (declared text).filterMap fun name =>
    if isUpperCamel name then none
    else some ("class name '" ++ name ++ "' should use upper camel case (no underscores)")

end HouseStyle.ClassNames
