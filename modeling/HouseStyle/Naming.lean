import HouseStyle.Text.Case

/-! The naming conventions of the style guide. The case conventions speak of ASCII letters only; the
test for constants looks at the case of every character. -/
namespace HouseStyle.Naming

def shaped (first more : Char → Bool) : List Char → Bool
  | [] => false
  | c :: rest => first c && rest.all more

def isLowerSnake (name : String) : Bool :=
  shaped Char.isLower (fun c => c.isLower || c.isDigit || c == '_') name.toList

def isUpperCamel (name : String) : Bool :=
  shaped Char.isUpper Char.isAlphanum name.toList

def isUpperSnake (name : String) : Bool :=
  shaped Char.isUpper (fun c => c.isUpper || c.isDigit || c == '_') name.toList

def isAllUppercase (name : String) : Bool :=
  name.toList.any Text.isUppercase && !name.toList.any Text.isLowercase

def endsWith (text ending : String) : Bool := ending.toList.isSuffixOf text.toList

def isHeaderGuard (name : String) : Bool := endsWith name "_H" || endsWith name "_HPP"

end HouseStyle.Naming
