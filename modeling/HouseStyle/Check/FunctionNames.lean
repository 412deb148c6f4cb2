import HouseStyle.Check
import HouseStyle.Declaration

/-! Functions use lowercase with underscores, members too. A definition outside its class without a
type is a constructor and has the name of its class. All constructors are reported first, then all
members, then all free functions. -/
namespace HouseStyle.FunctionNames
open Text Declaration Naming

def constructorMessages (text : List Char) : List String :=
  (occurrences (function constructorHead) text).filterMap fun found =>
    if found.value.name = found.value.owner then none
    else some ("constructor name '" ++ found.value.name ++ "' should match class name '" ++
      found.value.owner ++ "'")

def memberMessages (text : List Char) : List String :=
  (occurrences (function memberHead) text).filterMap fun found =>
    -- a destructor needs no case of its own: a name that is read never begins with a tilde
    if found.value.name = found.value.owner || isLowerSnake found.value.name then none
    else some ("member function '" ++ found.value.name ++ "' should use lowercase with underscores")

/-- A function shortly after a `::` is taken for a member, which is not examined here. -/
def freeMessages (width : Nat) (text : List Char) : List String :=
  (occurrences (function freeHead) text).filterMap fun found =>
    if holds colons (found.context width) || isLowerSnake found.value then none
    else some ("function name '" ++ found.value ++ "' should use lowercase with underscores")

def rule : Rule where
  name := "function-names"
  description := "Functions and member functions use lowercase with underscores"
  messages config text :=
    constructorMessages text ++ memberMessages text ++ freeMessages config.scopeContextChars text

end HouseStyle.FunctionNames
