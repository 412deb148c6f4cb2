/-! The values of a TOML document, and why a text is none. -/
namespace HouseStyle.Toml

inductive Fault where
  | malformed (construct : String)
  | outOfRange (construct : String)
  | tooDeep
  | duplicate (key : String)
  | notATable (key : String)
  deriving DecidableEq, Repr

def Fault.message : Fault → String
  | .malformed construct => "invalid " ++ construct
  | .outOfRange construct => construct ++ " out of range"
  | .tooDeep => "nested too deeply"
  | .duplicate key => "duplicate key: " ++ key
  | .notATable key => "not a table: " ++ key

/-- How a table came to be, which decides what may still be added to it. -/
inductive TableKind where
  | header
  | implied
  | dotted
  | inline
  deriving DecidableEq, Repr

inductive Value where
  | string (text : String)
  | integer (value : Int)
  | float (spelling : String)
  | boolean (value : Bool)
  | moment (spelling : String)
  | array (items : List Value)
  | table (kind : TableKind) (entries : List (String × Value))
  /-- An array of tables that headers write, the last table first. -/
  | tables (last : List (String × Value)) (earlier : List (List (String × Value)))
  deriving Inhabited

abbrev Reader (α : Type) := (text : List Char) → Except Fault (α × List Char)

end HouseStyle.Toml
