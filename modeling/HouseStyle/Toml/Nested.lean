import HouseStyle.Toml.Moment
import HouseStyle.Toml.Table

/-! Values of every kind. Arrays may stand on several lines and end with a comma; inline tables stand
on one line and do not. -/
namespace HouseStyle.Toml

def arrayItems (item : Reader Value) : (bound : Nat) → Reader (List Value)
  | 0, _ => .error (.malformed "array")
  | bound + 1, text =>
    match gap text with
    | ']' :: rest => .ok ([], rest)
    | text => do
      let (value, rest) ← item text
      match gap rest with
      | ',' :: rest => do
        let (values, rest) ← arrayItems item bound rest
        .ok (value :: values, rest)
      | ']' :: rest => .ok ([value], rest)
      | _ => .error (.malformed "array")

def inlinePairs (item : Reader Value) : (bound : Nat) → Reader (List (KeyPath × Value))
  | 0, _ => .error (.malformed "inline table")
  | bound + 1, text => do
    let (path, rest) ← keyPath text
    let (value, rest) ← item (← equals rest)
    match spaces rest with
    | ',' :: rest => do
      let (pairs, rest) ← inlinePairs item bound rest
      .ok ((path, value) :: pairs, rest)
    | '\x7d' :: rest => .ok ([(path, value)], rest)
    | _ => .error (.malformed "inline table")

def inlineTable (item : Reader Value) : Reader Value := fun text =>
  match spaces text with
  | '\x7d' :: rest => .ok (.table .inline [], rest)
  | text => do
    let (pairs, rest) ← inlinePairs item text.length text
    let table ← addPairs ⟨.inline, []⟩ pairs
    .ok (table.toValue, rest)

def valueWith (item : Reader Value) : Reader Value := fun text =>
  match text with
  | [] => .error (.malformed "value")
  | c :: rest =>
    match c with
    | '"' | '\'' => (quotedString text).map fun (content, rest) => (.string content, rest)
    | '[' => (arrayItems item text.length rest).map fun (items, rest) => (.array items, rest)
    | '\x7b' => inlineTable item rest
    | 't' =>
      match rest with
      | 'r' :: 'u' :: 'e' :: rest => .ok (.boolean true, rest)
      | _ => .error (.malformed "value")
    | 'f' =>
      match rest with
      | 'a' :: 'l' :: 's' :: 'e' :: rest => .ok (.boolean false, rest)
      | _ => .error (.malformed "value")
    | _ => momentOrNumber text

def value : (depth : Nat) → Reader Value
  | 0, text =>
    if text.head? == some '[' || text.head? == some '\x7b' then .error .tooDeep
    else valueWith (fun _ => .error .tooDeep) text
  | depth + 1, text => valueWith (value depth) text

end HouseStyle.Toml
