import HouseStyle.Log
import HouseStyle.Text.Utf8

/-! Where the texts of files come from. -/
namespace HouseStyle

inductive ReadFailure where
  | notFound (path : String)
  | notAFile (path : String)
  | unreadable (path cause : String)
  deriving DecidableEq, Repr

namespace ReadFailure

def path : ReadFailure → String
  | .notFound path | .notAFile path | .unreadable path _ => path

def message : ReadFailure → String
  | .notFound path => "file does not exist: " ++ path
  | .notAFile path => "not a regular file: " ++ path
  | .unreadable path cause => "failed to read " ++ path ++ ": " ++ cause

end ReadFailure

structure Content where
  text : String
  repaired : Bool := false
  deriving DecidableEq, Repr

def Content.ofBytes (bytes : List UInt8) : Content :=
  match Text.strictText? bytes with
  | some text => ⟨text, false⟩
  | none => ⟨Text.repairedText bytes, true⟩

def Content.notes (content : Content) (path : String) : List Note :=
  if content.repaired then [⟨.debug, path ++ " is not valid UTF-8, decoding lossily"⟩] else []

abbrev Source := (path : String) → Except ReadFailure Content

structure Shelf where
  files : List (String × Except ReadFailure Content) := []

def Shelf.put (shelf : Shelf) (path : String) (file : Except ReadFailure Content) : Shelf :=
  ⟨shelf.files.filter (·.1 != path) ++ [(path, file)]⟩

def Shelf.source (shelf : Shelf) : Source := fun path =>
  (shelf.files.lookup path).getD (.error (.notFound path))

end HouseStyle
