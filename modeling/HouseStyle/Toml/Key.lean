import HouseStyle.Toml.Quoted

/-! Keys: bare or quoted, and joined by dots to paths. -/
namespace HouseStyle.Toml

structure KeyPath where
  parents : List String
  last : String
  deriving DecidableEq, Repr

def KeyPath.toList (path : KeyPath) : List String := path.parents ++ [path.last]

def depthLimit : Nat := 80

def isBare (c : Char) : Bool := c.isAlphanum || c == '_' || c == '-'

def simpleKey : Reader String := fun text =>
  match text with
  | [] => .error (.malformed "key")
  | c :: rest =>
    if c == '"' || c == '\'' then shortString text
    else if isBare c then .ok (String.ofList (c :: rest.takeWhile isBare), rest.dropWhile isBare)
    else .error (.malformed "key")

def keyPathFrom : (limit : Nat) → (parents : List String) → Reader KeyPath
  | 0, _, _ => .error .tooDeep
  | limit + 1, parents, text => do
    let (key, rest) ← simpleKey (spaces text)
    match spaces rest with
    | '.' :: rest => keyPathFrom limit (key :: parents) rest
    | rest => .ok (⟨parents.reverse, key⟩, rest)

def keyPath : Reader KeyPath := keyPathFrom (depthLimit - 1) []

def equals (text : List Char) : Except Fault (List Char) :=
  match text with
  | '=' :: rest => .ok (spaces rest)
  | _ => .error (.malformed "key")

end HouseStyle.Toml
