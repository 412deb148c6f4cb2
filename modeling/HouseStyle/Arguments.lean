/-! The arguments of the command. They are taken from left to right, and the first fault or the first
flag that answers by itself decides. -/
namespace HouseStyle

inductive Request where
  | check (files : List String)
  | briefHelp
  | fullHelp
  | version
  deriving DecidableEq, Repr

inductive Refusal where
  | unknownArgument (argument : String)
  | emptyFile
  | unexpectedValue (flag value : String)
  deriving DecidableEq, Repr

namespace Request

def splitValue (flag : List Char) : List Char × Option (List Char) :=
  let name := flag.takeWhile (· != '=')
  (name, match flag.dropWhile (· != '=') with
    | [] => none
    | _ :: value => some value)

def answer (files : List String) (request : Request) : Except Refusal Request :=
  if files.contains "" then .error .emptyFile else .ok request

def longFlag (files : List String) (argument : String) (flag : List Char) :
    Except Refusal Request :=
  match splitValue flag with
  | (['h', 'e', 'l', 'p'], none) => answer files .fullHelp
  | (['v', 'e', 'r', 's', 'i', 'o', 'n'], none) => answer files .version
  | (name, some value) =>
    if name = ['h', 'e', 'l', 'p'] ∨ name = ['v', 'e', 'r', 's', 'i', 'o', 'n'] then
      .error (.unexpectedValue ("--" ++ String.ofList name) (String.ofList value))
    else .error (.unknownArgument argument)
  | (_, none) => .error (.unknownArgument argument)

def shortFlag (files : List String) (argument : String) (letter : Char) :
    Except Refusal Request :=
  if letter = 'h' then answer files .briefHelp
  else if letter = 'V' then answer files .version
  else .error (.unknownArgument argument)

/-- Takes arguments behind the files `files`, latest first. A lone hyphen is a file, and behind two
hyphens everything is. -/
def parseFrom (files : List String) : List String → Except Refusal Request
  | [] => answer files (.check files.reverse)
  | argument :: rest =>
    match argument.toList with
    | ['-', '-'] => answer (rest ++ files) (.check (files.reverse ++ rest))
    | '-' :: '-' :: flag => longFlag files argument flag
    | '-' :: letter :: _ => shortFlag files argument letter
    | _ => parseFrom (argument :: files) rest

def parse (arguments : List String) : Except Refusal Request := parseFrom [] arguments

end Request

end HouseStyle
