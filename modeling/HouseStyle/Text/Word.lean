import HouseStyle.Text.Word.Table

/-! Word characters. A keyword counts only where no word character stands right before it. -/
namespace HouseStyle.Text

def isWord (c : Char) : Bool :=
  if isAscii c then c.isAlphanum || c == '_' else inRuns wordRuns c

def atWordStart : (before : List Char) → Bool
  | [] => true
  | c :: _ => !isWord c

def atLineStart : (before : List Char) → Bool
  | [] => true
  | c :: _ => c == '\n'

end HouseStyle.Text
