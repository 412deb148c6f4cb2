/-! UTF-8. Bytes that are no text are content too: they are replaced, and the rest of a file is still
read. -/
namespace HouseStyle.Text

/-- The ranges in which the bytes behind a first byte lie, if the byte can be a first one. They leave
out the longer spellings of a character, surrogates, and codes beyond U+10FFFF. -/
def tailRanges (first : UInt8) : Option (List (UInt8 × UInt8)) :=
  let any : UInt8 × UInt8 := (0x80, 0xBF)
  if first < 0x80 then some []
  else if first < 0xC2 then none
  else if first < 0xE0 then some [any]
  else if first = 0xE0 then some [(0xA0, 0xBF), any]
  else if first = 0xED then some [(0x80, 0x9F), any]
  else if first < 0xF0 then some [any, any]
  else if first = 0xF0 then some [(0x90, 0xBF), any, any]
  else if first < 0xF4 then some [any, any, any]
  else if first = 0xF4 then some [(0x80, 0x8F), any, any]
  else none

def tailLength : List (UInt8 × UInt8) → List UInt8 → Nat
  | (low, high) :: ranges, byte :: bytes =>
    if low ≤ byte && byte ≤ high then tailLength ranges bytes + 1 else 0
  | _, _ => 0

def leadBits (first : UInt8) (tail : Nat) : Nat :=
  match tail with
  | 0 => first.toNat
  | 1 => first.toNat % 0x20
  | 2 => first.toNat % 0x10
  | _ => first.toNat % 0x08

def codeOf (first : UInt8) (tail : List UInt8) : Nat :=
  tail.foldl (fun code byte => code * 0x40 + byte.toNat % 0x40) (leadBits first tail.length)

/-- The character that a first byte and the bytes behind it begin with, and how many of the latter
belong to it. No character stands for the longest beginning of one that nothing completes. -/
def front (first : UInt8) (bytes : List UInt8) : Option Char × Nat :=
  match tailRanges first with
  | none => (none, 0)
  | some ranges =>
    let length := tailLength ranges bytes
    if length = ranges.length then (some (Char.ofNat (codeOf first (bytes.take length))), length)
    else (none, length)

def decodeFrom : (covered : Nat) → List UInt8 → List (Option Char)
  | _, [] => []
  | covered + 1, _ :: bytes => decodeFrom covered bytes
  | 0, byte :: bytes => (front byte bytes).1 :: decodeFrom (front byte bytes).2 bytes

def decode (bytes : List UInt8) : List (Option Char) := decodeFrom 0 bytes

def strictText? (bytes : List UInt8) : Option String := ((decode bytes).mapM id).map String.ofList

def replacement : Char := '�'

def repairedText (bytes : List UInt8) : String :=
  String.ofList ((decode bytes).map (·.getD replacement))

end HouseStyle.Text
