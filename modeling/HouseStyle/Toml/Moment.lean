import HouseStyle.Toml.Number

/-! Dates and times. They are checked and kept as they were spelled. -/
namespace HouseStyle.Toml

def fixedNumber (width : Nat) (text : List Char) : Option (Nat × List Char) :=
  let digits := text.take width
  if digits.length = width ∧ digits.all Char.isDigit then some (ofDigits 10 digits, text.drop width)
  else none

def twoDigits (low high : Nat) (text : List Char) : Option (Nat × List Char) := do
  let (value, rest) ← fixedNumber 2 text
  if low ≤ value ∧ value ≤ high then some (value, rest) else none

def mark (c : Char) : List Char → Option (List Char)
  | [] => none
  | d :: rest => if c = d then some rest else none

def isLeapYear (year : Nat) : Bool := year % 4 == 0 && (year % 100 != 0 || year % 400 == 0)

def daysInMonth (year month : Nat) : Nat :=
  if month = 2 then if isLeapYear year then 29 else 28
  else if month ∈ [4, 6, 9, 11] then 30
  else 31

def monthAndDay (year : Nat) (text : List Char) : Option (List Char) := do
  let rest ← mark '-' text
  let (month, rest) ← twoDigits 1 12 rest
  let rest ← mark '-' rest
  let (_, rest) ← twoDigits 1 (daysInMonth year month) rest
  some rest

def minuteAndSecond (text : List Char) : Option (List Char) := do
  let rest ← mark ':' text
  let (_, rest) ← twoDigits 0 59 rest
  let rest ← mark ':' rest
  let (_, rest) ← twoDigits 0 60 rest
  match rest with
  | '.' :: d :: after => if d.isDigit then some (after.dropWhile Char.isDigit) else some rest
  | _ => some rest

def offset (text : List Char) : Option (List Char) :=
  match text with
  | [] => some []
  | c :: rest =>
    if c == 'Z' || c == 'z' then some rest
    else if c == '+' || c == '-' then do
      let (_, rest) ← twoDigits 0 23 rest
      let rest ← mark ':' rest
      let (_, rest) ← twoDigits 0 59 rest
      some rest
    else some text

def hour? (text : List Char) : Option (List Char) := do
  let (_, rest) ← twoDigits 0 23 text
  let _ ← mark ':' rest
  some rest

def timeOfDay (text : List Char) : Option (List Char) :=
  match text with
  | [] => some []
  | c :: rest =>
    if c == 'T' || c == 't' || c == ' ' then
      match hour? rest with
      | none => some text
      | some rest => (minuteAndSecond rest).bind offset
    else some text

def moment? (text : List Char) : Option (Option (List Char)) :=
  match fixedNumber 4 text with
  | some (year, rest) =>
    if rest.head? = some '-' then some ((monthAndDay year rest).bind timeOfDay) else none
  | none => (hour? text).map minuteAndSecond

def momentOrNumber : Reader Value := fun text =>
  match moment? text with
  | none => number text
  | some none => .error (.malformed "date or time")
  | some (some rest) => .ok (.moment (spelling text rest), rest)

end HouseStyle.Toml
