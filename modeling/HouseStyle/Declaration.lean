import HouseStyle.Text.Search
import HouseStyle.Text.Word

/-! The shapes by which C++ declarations are recognised in raw text. There is no parsing: comments,
strings and macros are text like any other, and parentheses do not nest. -/
namespace HouseStyle.Declaration
open Text

def isIdentifierStart (c : Char) : Bool := c.isAlpha || c == '_'

def isIdentifierPart (c : Char) : Bool := c.isAlphanum || c == '_'

def identifier (text : List Char) : Option (String × List Char) :=
  run isIdentifierStart isIdentifierPart text

def ownerName (text : List Char) : Option (String × List Char) :=
  run Char.isUpper Char.isAlphanum text

def globalTypes : List (List Char) :=
  [['i', 'n', 't'], ['b', 'o', 'o', 'l'], ['f', 'l', 'o', 'a', 't'], ['d', 'o', 'u', 'b', 'l', 'e'],
   ['c', 'h', 'a', 'r'], ['s', 't', 'r', 'i', 'n', 'g'],
   ['s', 't', 'd', ':', ':', 's', 't', 'r', 'i', 'n', 'g']]

def variableTypes : List (List Char) := globalTypes ++ [['a', 'u', 't', 'o']]

def functionTypes : List (List Char) := ['v', 'o', 'i', 'd'] :: variableTypes

/-- Drops a type and the blanks behind it. No type begins another one, so at most one fits. -/
def typeThenBlanks (types : List (List Char)) (text : List Char) : Option (List Char) := do
  let rest ← types.findSome? (literal · text)
  someBlanks rest

def colons : List Char := [':', ':']

def opening (text : List Char) : Option (List Char) := single (· == '(') (blanks text)

def parameters (text : List Char) : Option (List Char) :=
  single (· == ')') (text.dropWhile (· != ')'))

def qualifier (text : List Char) : List Char :=
  let rest := blanks text
  blanks ((literal ['c', 'o', 'n', 's', 't'] rest).getD rest)

def bodyOrEnd (text : List Char) : Option (List Char) :=
  single (fun c => c == '{' || c == ';') (qualifier text)

def function {α : Type} (head : Shape α) : Shape α := fun before text => do
  let (value, rest) ← head before text
  let rest ← parameters rest
  let rest ← bodyOrEnd rest
  some (value, rest)

structure Member where
  owner : String
  name : String
  deriving DecidableEq, Repr

def constructorHead : Shape Member := fun before text => do
  guard (atLineStart before)
  let (owner, rest) ← ownerName text
  let rest ← literal colons rest
  let (name, rest) ← identifier rest
  let rest ← opening rest
  some (⟨owner, name⟩, rest)

def memberHead : Shape Member := fun before text => do
  let rest ← typeThenBlanks functionTypes text
  guard (atWordStart before)
  let (owner, rest) ← ownerName rest
  let rest ← literal colons rest
  let (name, rest) ← identifier (blanks rest)
  let rest ← opening rest
  some (⟨owner, name⟩, rest)

def freeHead : Shape String := fun before text => do
  let rest ← typeThenBlanks functionTypes text
  guard (atWordStart before)
  let (name, rest) ← identifier rest
  let rest ← opening rest
  some (name, rest)

def declarator (types : List (List Char)) (text : List Char) : Option (String × List Char) := do
  let rest ← typeThenBlanks types text
  let (name, rest) ← identifier rest
  let rest ← single (fun c => c == '=' || c == ';') (blanks rest)
  some (name, rest)

def variableDeclaration : Shape String := fun before text => do
  let found ← declarator variableTypes text
  guard (atWordStart before)
  some found

def classDeclaration : Shape String := fun before text => do
  let rest ← literal ['c', 'l', 'a', 's', 's'] text
  guard (atWordStart before)
  let rest ← someBlanks rest
  identifier rest

def macroDefinition : Shape String := fun _ text => do
  let rest ← literal ['#', 'd', 'e', 'f', 'i', 'n', 'e'] text
  let rest ← someBlanks rest
  identifier rest

end HouseStyle.Declaration
