import HouseStyle.Toml.Quoted

/-! Integers and floats. -/
namespace HouseStyle.Toml

def digitRun (p : Char → Bool) : List Char → List Char × List Char
  | [] => ([], [])
  | c :: rest =>
    if p c then
      let (digits, after) := digitRun p rest
      (c :: digits, after)
    else if c = '_' ∧ rest.head?.any p then digitRun p rest
    else ([], c :: rest)

def someDigits (p : Char → Bool) (text : List Char) : Option (List Char × List Char) :=
  if text.head?.any p then some (digitRun p text) else none

def sign : List Char → Option Char × List Char
  | [] => (none, [])
  | c :: rest => if c == '+' || c == '-' then (some c, rest) else (none, c :: rest)

def decimalDigits (text : List Char) : Option (List Char × List Char) :=
  match text with
  | '0' :: rest => some (['0'], rest)
  | _ => someDigits Char.isDigit text

def integerInRange (value : Int) : Except Fault Value :=
  if -0x8000000000000000 ≤ value ∧ value ≤ 0x7FFFFFFFFFFFFFFF then .ok (.integer value)
  else .error (.outOfRange "integer")

def basedInteger (base : Nat) (p : Char → Bool) : Reader Value := fun text =>
  match someDigits p text with
  | none => .error (.malformed "integer")
  | some (digits, rest) => do .ok (← integerInRange (ofDigits base digits), rest)

def floatLimit : Nat := Nat.pow 2 1024 - Nat.pow 2 970

/-- Whether `digits` times ten to the power of `exponent` is too great for a float. The bounds on the
exponent keep the powers of ten small: 400 zeros are too many for any number but zero, and digits
cannot make up for as many places below the point. -/
def overflows (digits : List Char) (exponent : Int) : Bool :=
  let value := ofDigits 10 digits
  if value = 0 then false
  else if 0 ≤ exponent then 400 < exponent || floatLimit ≤ value * Nat.pow 10 exponent.toNat
  else exponent.natAbs < digits.length && floatLimit * Nat.pow 10 exponent.natAbs ≤ value

def fraction (text : List Char) : Except Fault (Option (List Char) × List Char) :=
  match text with
  | '.' :: rest =>
    match someDigits Char.isDigit rest with
    | some (digits, rest) => .ok (some digits, rest)
    | none => .error (.malformed "float")
  | _ => .ok (none, text)

def exponent (text : List Char) : Except Fault (Option Int × List Char) :=
  match text with
  | [] => .ok (none, [])
  | c :: rest =>
    if c == 'e' || c == 'E' then
      let (minus, rest) := sign rest
      match someDigits Char.isDigit rest with
      | some (digits, rest) =>
        let value : Int := ofDigits 10 digits
        .ok (some (if minus = some '-' then -value else value), rest)
      | none => .error (.malformed "float")
    else .ok (none, c :: rest)

def spelling (text rest : List Char) : String := String.ofList (text.take (text.length - rest.length))

def specialFloat? (text : List Char) : Option (List Char) :=
  match text with
  | 'i' :: 'n' :: 'f' :: rest => some rest
  | 'n' :: 'a' :: 'n' :: rest => some rest
  | _ => none

def decimalNumber : Reader Value := fun text =>
  let (mark, body) := sign text
  match specialFloat? body with
  | some rest => .ok (.float (spelling text rest), rest)
  | none =>
    match decimalDigits body with
    | none => .error (.malformed "number")
    | some (whole, rest) => do
      let (places, rest) ← fraction rest
      let (power, rest) ← exponent rest
      if places.isNone && power.isNone then
        let value : Int := ofDigits 10 whole
        .ok (← integerInRange (if mark = some '-' then -value else value), rest)
      else
        let places := places.getD []
        if mark != some '-' && overflows (whole ++ places) (power.getD 0 - places.length) then
          .error (.outOfRange "float")
        else .ok (.float (spelling text rest), rest)

def number : Reader Value
  | '0' :: 'x' :: rest => basedInteger 16 isHexDigit rest
  | '0' :: 'o' :: rest => basedInteger 8 (fun c => '0' ≤ c && c ≤ '7') rest
  | '0' :: 'b' :: rest => basedInteger 2 (fun c => c == '0' || c == '1') rest
  | text => decimalNumber text

end HouseStyle.Toml
