import HouseStyle.Toml.Blank
import HouseStyle.Toml.Value

/-! Strings: basic ones, between double quotes and with escapes, and literal ones, between single
quotes and without; each on one line or, between three quotes, on several. -/
namespace HouseStyle.Toml

def hexValue (c : Char) : Nat :=
  if c.isDigit then c.toNat - '0'.toNat
  else if 'a' ≤ c && c ≤ 'f' then c.toNat - 'a'.toNat + 10
  else c.toNat - 'A'.toNat + 10

def isHexDigit (c : Char) : Bool := c.isDigit || ('a' ≤ c && c ≤ 'f') || ('A' ≤ c && c ≤ 'F')

def ofDigits (base : Nat) (digits : List Char) : Nat :=
  digits.foldl (fun value c => value * base + hexValue c) 0

def codePoint (width : Nat) (text : List Char) : Except Fault Char :=
  let digits := text.take width
  if digits.length = width ∧ digits.all isHexDigit then
    let code := ofDigits 16 digits
    if code.isValidChar then .ok (Char.ofNat code) else .error (.outOfRange "escaped character")
  else .error (.malformed "escape")

def escape : (text : List Char) → Except Fault (Char × Nat)
  | [] => .error (.malformed "escape")
  | c :: rest =>
    match c with
    | 'b' => .ok ('\x08', 1)
    | 't' => .ok ('\t', 1)
    | 'n' => .ok ('\n', 1)
    | 'f' => .ok ('\x0c', 1)
    | 'r' => .ok ('\r', 1)
    | '"' => .ok ('"', 1)
    | '\\' => .ok ('\\', 1)
    | 'u' => do .ok (← codePoint 4 rest, 5)
    | 'U' => do .ok (← codePoint 8 rest, 9)
    | _ => .error (.malformed "escape")

def prepend (c : Char) (read : Except Fault (List Char × List Char)) :
    Except Fault (List Char × List Char) :=
  read.map fun (content, rest) => (c :: content, rest)

def basicFrom : (covered : Nat) → Reader (List Char)
  | _, [] => .error (.malformed "string")
  | covered + 1, _ :: rest => basicFrom covered rest
  | 0, c :: rest =>
    if c = '"' then .ok ([], rest)
    else if c = '\\' then
      match escape rest with
      | .ok (named, width) => prepend named (basicFrom width rest)
      | .error fault => .error fault
    else if isPlain c then prepend c (basicFrom 0 rest)
    else .error (.malformed "string")

def literalFrom : Reader (List Char)
  | [] => .error (.malformed "string")
  | c :: rest =>
    if c = '\'' then .ok ([], rest)
    else if isPlain c then prepend c (literalFrom rest)
    else .error (.malformed "string")

/-- The end of a string of several lines, given what follows a first quote: three quotes, before
which up to two more belong to the string. Nothing where fewer than three quotes stand. -/
def closing? (quote : Char) (rest : List Char) : Option (List Char × List Char) :=
  let quotes := 1 + (rest.takeWhile (· == quote)).length
  if quotes < 3 then none
  else
    let kept := min (quotes - 3) 2
    some (List.replicate kept quote, rest.drop (kept + 2))

def joined? (rest : List Char) : Option Nat :=
  (newline? (spaces rest)).map fun below => rest.length - (blankLines below).length

def longBasicFrom : (covered : Nat) → Reader (List Char)
  | _, [] => .error (.malformed "string")
  | covered + 1, _ :: rest => longBasicFrom covered rest
  | 0, c :: rest =>
    if c = '"' then
      match closing? '"' rest with
      | some closed => .ok closed
      | none => prepend c (longBasicFrom 0 rest)
    else if c = '\\' then
      match joined? rest with
      | some width => longBasicFrom width rest
      | none =>
        match escape rest with
        | .ok (named, width) => prepend named (longBasicFrom width rest)
        | .error fault => .error fault
    else if endsLine c rest then longBasicFrom 0 rest
    else if c = '\n' || isPlain c then prepend c (longBasicFrom 0 rest)
    else .error (.malformed "string")

def longLiteralFrom : Reader (List Char)
  | [] => .error (.malformed "string")
  | c :: rest =>
    if c = '\'' then
      match closing? '\'' rest with
      | some closed => .ok closed
      | none => prepend c (longLiteralFrom rest)
    else if endsLine c rest then longLiteralFrom rest
    else if c = '\n' || isPlain c then prepend c (longLiteralFrom rest)
    else .error (.malformed "string")

def firstLine (text : List Char) : List Char := (newline? text).getD text

def asString (read : Except Fault (List Char × List Char)) : Except Fault (String × List Char) :=
  read.map fun (content, rest) => (String.ofList content, rest)

def shortString : Reader String
  | '"' :: rest => asString (basicFrom 0 rest)
  | '\'' :: rest => asString (literalFrom rest)
  | _ => .error (.malformed "string")

def quotedString : Reader String
  | '"' :: '"' :: '"' :: rest => asString (longBasicFrom 0 (firstLine rest))
  | '\'' :: '\'' :: '\'' :: rest => asString (longLiteralFrom (firstLine rest))
  | text => shortString text

end HouseStyle.Toml
