/-! What a run notes about itself for whoever looks into it later. -/
namespace HouseStyle

inductive Level where
  | debug
  | info
  | warn
  deriving DecidableEq, Repr

def Level.label : Level → String
  | .debug => "DEBUG"
  | .info => "INFO"
  | .warn => "WARN"

structure Note where
  level : Level
  message : String
  deriving DecidableEq, Repr

def Note.line (note : Note) : String := note.level.label ++ " " ++ note.message

end HouseStyle
