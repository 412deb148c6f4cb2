import HouseStyle.Check
import HouseStyle.Text.Blank

/-! The layout of files. A header opens with an include guard. The two structure rules hold a place for
the order of includes and declarations, and report nothing. -/
namespace HouseStyle.Layout
open Text

def opensGuarded (text : List Char) : Bool :=
  ['#', 'i', 'f', 'n', 'd', 'e', 'f'].isPrefixOf (trimStart text)

def headerGuard : Rule where
  name := "header-guard"
  description := "Header files start with an #ifndef include guard"
  appliesTo := Config.isHeader
  messages _ text :=
    if opensGuarded text then [] else ["header files must use #ifndef include guards"]

def headerStructure : Rule where
  name := "header-structure"
  description := "Header file layout"
  appliesTo := Config.isHeader
  messages _ _ := []

def sourceStructure : Rule where
  name := "source-structure"
  description := "Source file layout"
  appliesTo := Config.isSource
  messages _ _ := []

end HouseStyle.Layout
