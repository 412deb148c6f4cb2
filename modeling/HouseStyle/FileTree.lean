import HouseStyle.Path
import HouseStyle.Source

/-! A tree of files and directories as it stands when a run begins, and the look-up of paths in it.
Nothing is known of what lies outside the tree but that it is there: no name is found in it. -/
namespace HouseStyle

inductive FileNode where
  | file (bytes : List UInt8)
  | directory
  deriving DecidableEq, Repr

/-- Files and directories under the names that lead to them from the working directory, the latest
first. A name that leads to another one is a directory without being listed. -/
structure FileTree where
  nodes : List (List (List Char) × FileNode) := []
  deriving Repr

inductive LookupFault where
  | notFound
  | notADirectory
  | isADirectory
  | nameTooLong
  | holdsNul
  deriving DecidableEq, Repr

def LookupFault.message : LookupFault → String
  | .notFound => "No such file or directory (os error 2)"
  | .notADirectory => "Not a directory (os error 20)"
  | .isADirectory => "Is a directory (os error 21)"
  | .nameTooLong => "File name too long (os error 36)"
  | .holdsNul => "file name contained an unexpected NUL byte"

namespace FileTree

def names (path : List Char) : List (List Char) :=
  (Path.steps path).foldl (fun done piece =>
    if piece = ['.', '.'] then done.dropLast else done ++ [piece]) []

def put (tree : FileTree) (path : String) (node : FileNode) : FileTree :=
  ⟨(names path.toList, node) :: tree.nodes⟩

def find? (tree : FileTree) (names : List (List Char)) : Option FileNode :=
  match tree.nodes.lookup names with
  | some node => some node
  | none => if tree.nodes.any (names.isPrefixOf ·.1) then some .directory else none

inductive Place where
  | file (bytes : List UInt8)
  | directory (names : List (List Char))
  | outside
  deriving DecidableEq, Repr

def byteLength (name : List Char) : Nat := name.foldl (fun length c => length + c.utf8Size) 0

def nameLimit : Nat := 255

def pathLimit : Nat := 4096

/-- One piece further. Every piece, even an empty one, asks that the path so far is a directory. -/
def step (tree : FileTree) (place : Place) (piece : List Char) : Except LookupFault Place :=
  match place with
  | .file _ => .error .notADirectory
  | .outside =>
    if !Path.isStep piece || piece == ['.', '.'] then .ok .outside
    else if nameLimit < byteLength piece then .error .nameTooLong
    else .error .notFound
  | .directory names =>
    if !Path.isStep piece then .ok place
    else if piece = ['.', '.'] then
      if names.isEmpty then .ok .outside else .ok (.directory names.dropLast)
    else if nameLimit < byteLength piece then .error .nameTooLong
    else match tree.find? (names ++ [piece]) with
      | none => .error .notFound
      | some (.file bytes) => .ok (.file bytes)
      | some .directory => .ok (.directory (names ++ [piece]))

def resolve (tree : FileTree) (path : String) : Except LookupFault Place :=
  if path.toList.contains '\x00' then .error .holdsNul
  else if path.toList = [] then .error .notFound
  else if pathLimit ≤ byteLength path.toList then .error .nameTooLong
  else
    let start : Place := if path.toList.head? = some '/' then .outside else .directory []
    (Path.split path.toList).foldlM tree.step start

def source (tree : FileTree) : Source := fun path =>
  match tree.resolve path with
  | .error _ => .error (.notFound path)
  | .ok (.file bytes) => .ok (Content.ofBytes bytes)
  | .ok _ => .error (.notAFile path)

def bytes (tree : FileTree) (path : String) : Except LookupFault (List UInt8) :=
  match tree.resolve path with
  | .error fault => .error fault
  | .ok (.file bytes) => .ok bytes
  | .ok _ => .error .isADirectory

end FileTree

end HouseStyle
