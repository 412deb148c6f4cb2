import HouseStyle.Toml.Key

/-! Tables while a document is read. A table is finished once it stands between braces; one that has
a header takes no dotted keys from elsewhere; and no key is ever given twice. -/
namespace HouseStyle.Toml

structure Table where
  kind : TableKind
  entries : List (String × Value)

def Table.toValue (table : Table) : Value := .table table.kind table.entries

def setEntry (key : String) (value : Value) : List (String × Value) → List (String × Value)
  | [] => [(key, value)]
  | (name, old) :: rest =>
    if name = key then (name, value) :: rest else (name, old) :: setEntry key value rest

def Table.set (table : Table) (key : String) (value : Value) : Table :=
  { table with entries := setEntry key value table.entries }

/-- Changes the table that a path leads to from a given one. Tables that are missing on the way are
made, as dotted or as implied ones. A table of several is entered at the last of them. -/
def change (made : TableKind) (act : Table → Except Fault Table) :
    (path : List String) → Table → Except Fault Table
  | [], table => act table
  | key :: path, table =>
    match table.entries.lookup key with
    | none => do
      let child ← change made act path ⟨made, []⟩
      .ok (table.set key child.toValue)
    | some (.table kind entries) =>
      if kind = .inline ∨ (made = .dotted ∧ kind = .header) then .error (.duplicate key)
      else do
        let child ← change made act path ⟨kind, entries⟩
        .ok (table.set key child.toValue)
    | some (.tables last earlier) => do
      let child ← change made act path ⟨.header, last⟩
      .ok (table.set key (.tables child.entries earlier))
    | some _ => .error (.notATable key)

def addPair (path : KeyPath) (value : Value) : Table → Except Fault Table :=
  change .dotted (fun table =>
    if path.parents.isEmpty == (table.kind == .dotted) then .error (.duplicate path.last)
    else match table.entries.lookup path.last with
      | some _ => .error (.duplicate path.last)
      | none => .ok (table.set path.last value)) path.parents

def openTable (path : KeyPath) : Table → Except Fault Table :=
  change .implied (fun parent =>
    match parent.entries.lookup path.last with
    | none => .ok (parent.set path.last (.table .header []))
    | some (.table .implied entries) => .ok (parent.set path.last (.table .header entries))
    | some _ => .error (.duplicate path.last)) path.parents

def openNext (path : KeyPath) : Table → Except Fault Table :=
  change .implied (fun parent =>
    match parent.entries.lookup path.last with
    | none => .ok (parent.set path.last (.tables [] []))
    | some (.tables last earlier) => .ok (parent.set path.last (.tables [] (last :: earlier)))
    | some _ => .error (.duplicate path.last)) path.parents

def addPairs (table : Table) (pairs : List (KeyPath × Value)) : Except Fault Table :=
  pairs.foldlM (fun table (path, value) => addPair path value table) table

end HouseStyle.Toml
