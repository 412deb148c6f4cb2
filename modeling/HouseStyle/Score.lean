import HouseStyle.Config
import HouseStyle.Tally

/-! What a record of violations costs. The deduction is reckoned in 32-bit words that stop at the
greatest word instead of wrapping around. -/
namespace HouseStyle

def greatestWord : UInt32 := 0xFFFFFFFF

def cappedAdd (a b : UInt32) : UInt32 :=
  if a.toNat + b.toNat ≤ greatestWord.toNat then a + b else greatestWord

def cappedMul (a b : UInt32) : UInt32 :=
  if a.toNat * b.toNat ≤ greatestWord.toNat then a * b else greatestWord

def cappedWord (n : Nat) : UInt32 :=
  if n ≤ greatestWord.toNat then UInt32.ofNat n else greatestWord

def deduction (scoring : Scoring) : (errors : Nat) → UInt32
  | 0 => 0
  | further + 1 =>
    min (cappedAdd scoring.firstError (cappedMul (cappedWord further) scoring.perAdditionalError))
      scoring.maxDeduction

structure Score where
  deduction : UInt32
  tally : Tally
  deriving DecidableEq, Repr

def Score.ofRecord (scoring : Scoring) (record : Record) : Score :=
  let tally := Tally.ofList record.toList
  ⟨HouseStyle.deduction scoring tally.errors, tally⟩

/-- The exit status of a process is a signed word, so greater deductions are cut. -/
def exitStatus (deduction : UInt32) : UInt32 := min deduction 0x7FFFFFFF

def Score.exitStatus (score : Score) : UInt32 := HouseStyle.exitStatus score.deduction

end HouseStyle
