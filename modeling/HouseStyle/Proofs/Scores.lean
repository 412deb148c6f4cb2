import HouseStyle.Proofs.Counts
import HouseStyle.Score

/-! Scores over the natural numbers. Stopping at the greatest word on the way loses nothing, since the
greatest deduction is a word itself; a tally holds what counting the violations gives. -/
namespace HouseStyle

theorem wordBound (a : UInt32) : a.toNat ≤ greatestWord.toNat := Nat.le_of_lt_succ a.toNat_lt

theorem cutToNat {n : Nat} {word : UInt32} (wraps : word.toNat = n % UInt32.size) :
    (if n ≤ greatestWord.toNat then word else greatestWord).toNat = min n greatestWord.toNat := by
  split
  · rename_i fits
    rw [wraps, Nat.min_eq_left fits]
    exact Nat.mod_eq_of_lt (Nat.lt_succ_of_le fits)
  · omega

theorem cappedAddToNat (a b : UInt32) :
    (cappedAdd a b).toNat = min (a.toNat + b.toNat) greatestWord.toNat :=
  cutToNat (UInt32.toNat_add a b)

theorem cappedMulToNat (a b : UInt32) :
    (cappedMul a b).toNat = min (a.toNat * b.toNat) greatestWord.toNat :=
  cutToNat (UInt32.toNat_mul a b)

theorem cappedWordToNat (n : Nat) : (cappedWord n).toNat = min n greatestWord.toNat :=
  cutToNat UInt32.toNat_ofNat

theorem minToNat (a b : UInt32) : (min a b).toNat = min a.toNat b.toNat := by
  change (if a ≤ b then a else b).toNat = _
  split
  · rename_i below
    have := UInt32.le_iff_toNat_le.mp below
    omega
  · rename_i above
    have := mt UInt32.le_iff_toNat_le.mpr above
    omega

/- A product that was cut at `top` on the way is past `top` anyway, or has a factor nought. -/
theorem cutProduct (n price top : Nat) : min (min n top * price) top = min (n * price) top := by
  rcases Nat.le_total n top with small | large
  · rw [Nat.min_eq_left small]
  · rw [Nat.min_eq_right large]
    rcases Nat.eq_zero_or_pos price with rfl | positive
    · simp
    · have reached : top ≤ top * price := Nat.le_mul_of_pos_right top positive
      have further : top * price ≤ n * price := Nat.mul_le_mul_right price large
      omega

theorem deductionToNat (scoring : Scoring) (errors : Nat) :
    (deduction scoring errors).toNat =
      if errors = 0 then 0
      else min scoring.maxDeduction.toNat
        (scoring.firstError.toNat + (errors - 1) * scoring.perAdditionalError.toNat) := by
  cases errors with
  | zero => rfl
  | succ further =>
    have bound := wordBound scoring.maxDeduction
    have product := cutProduct further scoring.perAdditionalError.toNat greatestWord.toNat
    rw [deduction, minToNat, cappedAddToNat, cappedMulToNat, cappedWordToNat, product,
      if_neg (Nat.succ_ne_zero further), Nat.add_sub_cancel]
    omega

theorem exitStatusToNat (word : UInt32) : (exitStatus word).toNat = min word.toNat 0x7FFFFFFF :=
  minToNat word 0x7FFFFFFF

structure Scoring.AtMost (cheap dear : Scoring) : Prop where
  firstError : cheap.firstError ≤ dear.firstError
  perAdditionalError : cheap.perAdditionalError ≤ dear.perAdditionalError
  maxDeduction : cheap.maxDeduction ≤ dear.maxDeduction

theorem scoringAtMostRefl (scoring : Scoring) : scoring.AtMost scoring :=
  ⟨UInt32.le_refl _, UInt32.le_refl _, UInt32.le_refl _⟩

theorem deductionAtMost {cheap dear : Scoring} (atMost : cheap.AtMost dear) {fewer more : Nat}
    (few : fewer ≤ more) : deduction cheap fewer ≤ deduction dear more := by
  have first := UInt32.le_iff_toNat_le.mp atMost.firstError
  have greatest := UInt32.le_iff_toNat_le.mp atMost.maxDeduction
  have further : (fewer - 1) * cheap.perAdditionalError.toNat ≤
      (more - 1) * dear.perAdditionalError.toNat :=
    Nat.mul_le_mul (Nat.sub_le_sub_right few 1) (UInt32.le_iff_toNat_le.mp atMost.perAdditionalError)
  rw [UInt32.le_iff_toNat_le, deductionToNat, deductionToNat]
  split
  · exact Nat.zero_le _
  · rw [if_neg (by omega)]
    omega

theorem deductionBound (scoring : Scoring) (errors : Nat) :
    deduction scoring errors ≤ scoring.maxDeduction := by
  rw [UInt32.le_iff_toNat_le, deductionToNat]
  split
  · exact Nat.zero_le _
  · exact Nat.min_le_left _ _

theorem deductionExact :
    (∀ (scoring : Scoring) (errors : Nat), (deduction scoring errors).toNat =
      if errors = 0 then 0
      else min scoring.maxDeduction.toNat
        (scoring.firstError.toNat + (errors - 1) * scoring.perAdditionalError.toNat)) ∧
    (∀ cheap dear : Scoring, cheap.AtMost dear → ∀ fewer more : Nat, fewer ≤ more →
      deduction cheap fewer ≤ deduction dear more) ∧
    (∀ (scoring : Scoring) (errors : Nat), deduction scoring errors ≤ scoring.maxDeduction) ∧
    ∀ score : Score, score.exitStatus.toNat = min score.deduction.toNat 0x7FFFFFFF := by
  refine ⟨deductionToNat, ?_, deductionBound, fun score => exitStatusToNat score.deduction⟩
  intro cheap dear atMost fewer more few
  exact deductionAtMost atMost few

theorem deductionExactSample :
    let cheap : Scoring := ⟨0xFFFFFFF0, 0, 0xFFFFFFFF⟩
    let dear : Scoring := ⟨0xFFFFFFF0, 3, 0xFFFFFFFF⟩
    let most : Nat := 0xFFFFFFFFFFFFFFFF
    (cheap.AtMost dear ∧ most - 1 ≤ most) ∧
    deduction cheap (most - 1) = 0xFFFFFFF0 ∧ deduction dear most = 0xFFFFFFFF ∧
    deduction cheap (most - 1) ≤ deduction dear most := by
  intro cheap dear most
  have atMost : cheap.AtMost dear := ⟨by decide, by decide, by decide⟩
  have few : most - 1 ≤ most := Nat.sub_le most 1
  exact ⟨⟨atMost, few⟩, by decide +kernel, by decide +kernel,
    deductionExact.2.1 cheap dear atMost (most - 1) most few⟩

def Violation.isWarning (violation : Violation) : Bool := violation.severity == .warning

theorem tallyFrom (tally : Tally) (violations : List Violation) :
    violations.foldl Tally.add tally =
      { errors := tally.errors + violations.countP Violation.isError
        warnings := tally.warnings + violations.countP Violation.isWarning
        total := tally.total + violations.length
        byCheck := violations.foldl CheckCounts.see tally.byCheck } := by
  induction violations generalizing tally with
  | nil => rfl
  | cons violation rest ih =>
    rw [List.foldl_cons, ih]
    cases severe : violation.severity <;>
      simp [Tally.add, Violation.isError, Violation.isWarning, severe, CheckCounts.see] <;> omega

theorem tallyOfList (violations : List Violation) :
    Tally.ofList violations =
      { errors := violations.countP Violation.isError
        warnings := violations.countP Violation.isWarning
        total := violations.length
        byCheck := violations.foldl CheckCounts.see {} } := by
  rw [Tally.ofList, tallyFrom]
  simp

def scoreOf (scoring : Scoring) (violations : List Violation) : Score :=
  ⟨deduction scoring (Tally.ofList violations).errors, Tally.ofList violations⟩

theorem errorsAndWarnings (violations : List Violation) :
    violations.countP Violation.isError + violations.countP Violation.isWarning =
      violations.length := by
  induction violations with
  | nil => rfl
  | cons violation rest ih =>
    rw [List.countP_cons, List.countP_cons, List.length_cons]
    cases severe : violation.severity <;> simp [Violation.isError, Violation.isWarning, severe] <;> omega

end HouseStyle
