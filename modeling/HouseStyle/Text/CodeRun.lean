/-! Runs of code points, the form in which the character tables are kept. -/
namespace HouseStyle.Text

/-- The code points `first`, `first + step`, and so on up to `last`. -/
structure CodeRun where
  first : Nat
  last : Nat
  step : Nat
  deriving DecidableEq, Repr

def CodeRun.holds (run : CodeRun) (code : Nat) : Bool :=
  run.first ≤ code && code ≤ run.last && (code - run.first) % run.step == 0

def inRuns (runs : List CodeRun) (c : Char) : Bool := runs.any (·.holds c.toNat)

def isAscii (c : Char) : Bool := c.toNat < 128

end HouseStyle.Text
