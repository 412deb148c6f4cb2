/-! What may stand between the parts of a document: spaces, line ends and comments. -/
namespace HouseStyle.Toml

def isSpace (c : Char) : Bool := c == ' ' || c == '\t'

def spaces (text : List Char) : List Char := text.dropWhile isSpace

def isPlain (c : Char) : Bool := c == '\t' || (0x20 ≤ c.toNat && c.toNat != 0x7F)

def newline? : List Char → Option (List Char)
  | [] => none
  | c :: rest =>
    if c = '\n' then some rest
    else if c = '\r' then
      match rest with
      | [] => none
      | d :: rest => if d = '\n' then some rest else none
    else none

def endsLine (c : Char) (rest : List Char) : Bool := c == '\r' && rest.head? == some '\n'

def comment (text : List Char) : List Char :=
  match text with
  | [] => []
  | c :: rest => if c = '#' then rest.dropWhile isPlain else text

def blankLines : List Char → List Char
  | [] => []
  | c :: rest => if isSpace c || c == '\n' || endsLine c rest then blankLines rest else c :: rest

def gapFrom : (commented : Bool) → List Char → List Char
  | _, [] => []
  | commented, c :: rest =>
    if c == '\n' || endsLine c rest then gapFrom false rest
    else if commented then if isPlain c then gapFrom true rest else c :: rest
    else if isSpace c then gapFrom false rest
    else if c == '#' then gapFrom true rest
    else c :: rest

def gap (text : List Char) : List Char := gapFrom false text

def lineEnd? (text : List Char) : Option (List Char) :=
  match comment (spaces text) with
  | [] => some []
  | c :: rest => newline? (c :: rest)

end HouseStyle.Toml
