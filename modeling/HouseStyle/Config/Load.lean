import HouseStyle.Config.Document
import HouseStyle.FileTree

/-! Configurations in files. -/
namespace HouseStyle

inductive FileFault where
  | lookup (fault : LookupFault)
  | notUtf8
  deriving DecidableEq, Repr

def FileFault.message : FileFault → String
  | .lookup fault => fault.message
  | .notUtf8 => "stream did not contain valid UTF-8"

inductive ConfigError where
  | unread (path : String) (fault : FileFault)
  | unparsed (path : Option String) (fault : ConfigFault)
  deriving DecidableEq, Repr

def ConfigError.context : ConfigError → List String
  | .unread path _ => ["reading lint configuration " ++ path]
  | .unparsed none _ => ["parsing lint configuration"]
  | .unparsed (some path) _ => ["in " ++ path, "parsing lint configuration"]

def ConfigError.cause : ConfigError → String
  | .unread _ fault => fault.message
  | .unparsed _ fault => fault.message

def ConfigError.messages (error : ConfigError) : List String := error.context ++ [error.cause]

def Config.ofText (text : String) : Except ConfigError Config :=
  match Config.parse text with
  | .ok config => .ok config
  | .error fault => .error (.unparsed none fault)

def Config.load (tree : FileTree) (path : String) : Except ConfigError Config :=
  match tree.bytes path with
  | .error fault => .error (.unread path (.lookup fault))
  | .ok bytes =>
    match Text.strictText? bytes with
    | none => .error (.unread path .notUtf8)
    | some text =>
      match Config.parse text with
      | .error fault => .error (.unparsed (some path) fault)
      | .ok config => .ok config

def Config.loadNote (path : String) : Note := ⟨.debug, "Loaded lint config from " ++ path⟩

end HouseStyle
