import HouseStyle.Check.FunctionNames
import HouseStyle.Check.VariableNames
import HouseStyle.Check.ClassNames
import HouseStyle.Check.MacroNames
import HouseStyle.Check.GlobalVariables
import HouseStyle.Check.Layout

/-! The style guide: its eight rules in the order in which they are checked. -/
namespace HouseStyle

def styleGuide : List Rule :=
  [FunctionNames.rule, VariableNames.rule, ClassNames.rule, MacroNames.rule, GlobalVariables.rule,
   Layout.headerGuard, Layout.headerStructure, Layout.sourceStructure]

def defaultChecks : List Check := styleGuide.map Rule.check

end HouseStyle
