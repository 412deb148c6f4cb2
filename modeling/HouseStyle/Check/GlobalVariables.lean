import HouseStyle.Check
import HouseStyle.Declaration
import HouseStyle.Text.Line

/-! Variables at file scope are static. File scope is told line by line: the braces so far balance,
and no line so far mentions a class. A brace in a comment or a string counts like any other. -/
namespace HouseStyle.GlobalVariables
open Text Declaration

structure Scope where
  depth : Int := 0
  classes : Nat := 0
  deriving DecidableEq, Repr

def mentionsClass (line : List Char) : Bool := holds ['c', 'l', 'a', 's', 's', ' '] line

def Scope.after (scope : Scope) (line : List Char) : Scope where
  depth := scope.depth + line.count '{' - line.count '}'
  classes := if mentionsClass line then scope.classes + 1 else scope.classes

def Scope.isFile (scope : Scope) : Bool := scope.depth == 0 && scope.classes == 0

def declared? (line : List Char) : Option String :=
  let trimmed := trim line
  if ['s', 't', 'a', 't', 'i', 'c'].isPrefixOf trimmed then none
  else (declarator globalTypes (blanks trimmed)).map (·.1)

def declaredFrom (scope : Scope) : List (List Char) → List String
  | [] => []
  | line :: rest =>
    let here := scope.after line
    let others := declaredFrom here rest
    if here.isFile then
      match declared? line with
      | some name => name :: others
      | none => others
    else others

def declared (text : List Char) : List String := declaredFrom {} (lines text)

def rule : Rule where
  name := "global-variables"
  description := "Avoids non-static file-scope variables"
  severity := .warning
  messages _ text := (declared text).map fun name =>
    "global variable '" ++ name ++ "' should be static or avoided"

end HouseStyle.GlobalVariables
