/-! The names of checks. One check may be called `function-names`, `function_names`, `FunctionNames`
or `FunctionNamesCheck`; names are compared by their normal form. -/
namespace HouseStyle.CheckName

/-- The normal form so far, last character first, with one character of the name added: an underscore
becomes a hyphen, and a capital letter becomes small and begins a new word. -/
def extend (done : List Char) (c : Char) : List Char :=
  if c = '_' then '-' :: done
  else if c.isUpper then
    if done = [] ∨ done.head? = some '-' then c.toLower :: done else c.toLower :: '-' :: done
  else c :: done

def hyphenated (name : List Char) : List Char := (name.foldl extend []).reverse

def checkEnding : List Char := ['-', 'c', 'h', 'e', 'c', 'k']

def dropCheck (name : List Char) : List Char :=
  if checkEnding.isSuffixOf name then name.take (name.length - checkEnding.length) else name

def normalForm (name : String) : String := String.ofList (dropCheck (hyphenated name.toList))

end HouseStyle.CheckName
