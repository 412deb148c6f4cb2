/-! Paths as texts whose pieces are divided by slashes. -/
namespace HouseStyle.Path

def split : List Char → List (List Char)
  | [] => [[]]
  | c :: rest =>
    if c = '/' then [] :: split rest
    else match split rest with
      | [] => [[c]]
      | piece :: others => (c :: piece) :: others

def isStep (piece : List Char) : Bool := piece != [] && piece != ['.']

def steps (path : List Char) : List (List Char) := (split path).filter isStep

/-- The last step of a path, under which a file is reported. A path without steps, or whose last step
leads upwards, is reported as it was written. -/
def baseName (path : String) : String :=
  match (steps path.toList).getLast? with
  | none => path
  | some piece => if piece = ['.', '.'] then path else String.ofList piece

end HouseStyle.Path
