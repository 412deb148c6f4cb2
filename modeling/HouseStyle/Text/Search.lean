import HouseStyle.Text.Blank

/-! Shapes in a text and the search for them. A shape is read greedily and without a second try,
which loses nothing where what a step consumes can never be what the next step begins with. -/
namespace HouseStyle.Text

/-- Reads a shape at one place of a text: `before` holds the characters in front of the place,
nearest first, and `text` those from it on. Gives what was read and the text after it. -/
abbrev Shape (α : Type) := (before text : List Char) → Option (α × List Char)

def literal : (word text : List Char) → Option (List Char)
  | [], text => some text
  | _ :: _, [] => none
  | w :: word, c :: text => if w = c then literal word text else none

def blanks (text : List Char) : List Char := text.dropWhile isBlank

def someBlanks : List Char → Option (List Char)
  | [] => none
  | c :: text => if isBlank c then some (blanks text) else none

def run (first more : Char → Bool) : List Char → Option (String × List Char)
  | [] => none
  | c :: text =>
    if first c then some (String.ofList (c :: text.takeWhile more), text.dropWhile more) else none

def single (p : Char → Bool) : List Char → Option (List Char)
  | [] => none
  | c :: text => if p c then some text else none

def holds (word : List Char) : (text : List Char) → Bool
  | [] => word.isEmpty
  | c :: text => word.isPrefixOf (c :: text) || holds word text

structure Occurrence (α : Type) where
  value : α
  before : List Char
  deriving DecidableEq, Repr

def Occurrence.context {α : Type} (found : Occurrence α) (width : Nat) : List Char :=
  (found.before.take width).reverse

def occurrencesFrom {α : Type} (shape : Shape α) :
    (before : List Char) → (covered : Nat) → (text : List Char) → List (Occurrence α)
  | _, _, [] => []
  | before, covered + 1, c :: text => occurrencesFrom shape (c :: before) covered text
  | before, 0, c :: text =>
    match shape before (c :: text) with
    | none => occurrencesFrom shape (c :: before) 0 text
    | some (value, rest) =>
      ⟨value, before⟩ :: occurrencesFrom shape (c :: before) (text.length - rest.length) text

/-- The occurrences of a shape from left to right. They do not overlap: after one the search goes
on behind its last character. -/
def occurrences {α : Type} (shape : Shape α) (text : List Char) : List (Occurrence α) :=
  occurrencesFrom shape [] 0 text

end HouseStyle.Text
