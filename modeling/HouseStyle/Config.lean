import HouseStyle.CheckName
import HouseStyle.Naming

/-! What a run can be told: which files are headers or sources, which checks are off, how far back a
scope is looked for, and what errors cost. The defaults are the style guide's own. -/
namespace HouseStyle

structure Scoring where
  firstError : UInt32 := 10
  perAdditionalError : UInt32 := 2
  maxDeduction : UInt32 := 20
  deriving DecidableEq, Repr, Inhabited

structure Config where
  headerExtensions : List String := ["h"]
  sourceExtensions : List String := ["cpp"]
  scopeContextChars : Nat := 50
  disabledChecks : List String := []
  scoring : Scoring := {}
  deriving DecidableEq, Repr, Inhabited

def hasExtension (fileName : String) (extensions : List String) : Bool :=
  extensions.any fun ext => ('.' :: ext.toList).isSuffixOf fileName.toList

def Config.isHeader (config : Config) (fileName : String) : Bool :=
  hasExtension fileName config.headerExtensions

def Config.isSource (config : Config) (fileName : String) : Bool :=
  hasExtension fileName config.sourceExtensions

def Config.enables (config : Config) (check : String) : Bool :=
  !config.disabledChecks.any fun name => CheckName.normalForm name == CheckName.normalForm check

end HouseStyle
