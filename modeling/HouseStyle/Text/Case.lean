import HouseStyle.Text.Case.Table

/-! Letter case over the whole character set, title-case letters counting as neither. -/
namespace HouseStyle.Text

def isUppercase (c : Char) : Bool :=
  if isAscii c then c.isUpper else inRuns uppercaseRuns c

def isLowercase (c : Char) : Bool :=
  if isAscii c then c.isLower else inRuns lowercaseRuns c

end HouseStyle.Text
