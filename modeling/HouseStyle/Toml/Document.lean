import HouseStyle.Toml.Nested

/-! Whole documents: a list of statements, each on a line of its own, that build up one table. -/
namespace HouseStyle.Toml

inductive Statement where
  | pair (path : KeyPath) (value : Value)
  | table (path : KeyPath)
  | tables (path : KeyPath)

def closed (brackets : List Char) (text : List Char) : Except Fault (List Char) :=
  if brackets.isPrefixOf text then .ok (text.drop brackets.length)
  else .error (.malformed "table header")

def statement : Reader Statement
  | '[' :: '[' :: text => do
    let (path, rest) ← keyPath text
    .ok (.tables path, ← closed [']', ']'] rest)
  | '[' :: text => do
    let (path, rest) ← keyPath text
    .ok (.table path, ← closed [']'] rest)
  | text => do
    let (path, rest) ← keyPath text
    let (value, rest) ← value (depthLimit - 1) (← equals rest)
    .ok (.pair path value, rest)

def statementsFrom : (bound : Nat) → (text : List Char) → Except Fault (List Statement)
  | 0, text => if (spaces text).isEmpty then .ok [] else .error (.malformed "document")
  | bound + 1, text =>
    match lineEnd? text with
    | some [] => .ok []
    | some rest => statementsFrom bound rest
    | none => do
      let (first, rest) ← statement (spaces text)
      match lineEnd? rest with
      | some rest => return first :: (← statementsFrom bound rest)
      | none => .error (.malformed "line")

def statements (text : List Char) : Except Fault (List Statement) :=
  match text with
  | '\ufeff' :: rest => statementsFrom rest.length rest
  | _ => statementsFrom text.length text

structure Building where
  root : Table := ⟨.header, []⟩
  here : List String := []

def Building.step (building : Building) : Statement → Except Fault Building
  | .pair path value => do
    let root ← change .implied (addPair path value) building.here building.root
    .ok { building with root }
  | .table path => do
    let root ← openTable path building.root
    .ok ⟨root, path.toList⟩
  | .tables path => do
    let root ← openNext path building.root
    .ok ⟨root, path.toList⟩

def parse (text : String) : Except Fault (List (String × Value)) := do
  let list ← statements text.toList
  let building ← list.foldlM Building.step {}
  .ok building.root.entries

end HouseStyle.Toml
