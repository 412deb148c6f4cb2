import HouseStyle.Proofs.Scores
import HouseStyle.Proofs.Stops

/-! Reports that lose some of their violations, and what that does to the cost of a run. Losing never
makes a run dearer, and losing nothing but warnings leaves its cost as it is. -/
namespace HouseStyle

/- `short` is `long` in the same order without some of its items, each of which was one to lose. -/
inductive Thinned {α : Type} (lost : α → Prop) : (short long : List α) → Prop where
  | nil : Thinned lost [] []
  | keep {item short long} (rest : Thinned lost short long) :
      Thinned lost (item :: short) (item :: long)
  | lose {item short long} (gone : lost item) (rest : Thinned lost short long) :
      Thinned lost short (item :: long)

section Thinned

variable {α β : Type} {lost : α → Prop} {short long : List α}

theorem thinnedRefl (items : List α) : Thinned lost items items := by
  induction items with
  | nil => exact .nil
  | cons item rest ih => exact .keep ih

theorem thinnedSublist (thinned : Thinned lost short long) : short.Sublist long := by
  induction thinned with
  | nil => exact List.Sublist.slnil
  | keep _ ih => exact ih.cons_cons _
  | lose _ _ ih => exact ih.cons _

theorem thinnedWiden {wider : α → Prop} (thinned : Thinned lost short long)
    (widens : ∀ item, lost item → wider item) : Thinned wider short long := by
  induction thinned with
  | nil => exact .nil
  | keep _ ih => exact .keep ih
  | lose gone _ ih => exact .lose (widens _ gone) ih

theorem thinnedAppend {left right : List α} (first : Thinned lost short long)
    (second : Thinned lost left right) : Thinned lost (short ++ left) (long ++ right) := by
  induction first with
  | nil => exact second
  | keep _ ih => exact .keep ih
  | lose gone _ ih => exact .lose gone ih

theorem thinnedMap {gone : β → Prop} (f : α → β) (thinned : Thinned lost short long)
    (maps : ∀ item, lost item → gone (f item)) : Thinned gone (short.map f) (long.map f) := by
  induction thinned with
  | nil => exact .nil
  | keep _ ih => exact .keep ih
  | lose out _ ih => exact .lose (maps _ out) ih

theorem thinnedFlatMap {gone : β → Prop} {f g : α → List β} (items : List α)
    (each : ∀ item ∈ items, Thinned gone (f item) (g item)) :
    Thinned gone (items.flatMap f) (items.flatMap g) := by
  induction items with
  | nil => exact .nil
  | cons item rest ih =>
    exact thinnedAppend (each item List.mem_cons_self)
      (ih fun other member => each other (List.mem_cons_of_mem _ member))

theorem thinnedFilter (keep : α → Bool) (items : List α) :
    Thinned (fun item => item ∈ items ∧ keep item = false) (items.filter keep) items := by
  induction items with
  | nil => exact .nil
  | cons item rest ih =>
    have later := thinnedWiden ih fun other (out : other ∈ rest ∧ keep other = false) =>
      (⟨List.mem_cons_of_mem item out.1, out.2⟩ : other ∈ item :: rest ∧ keep other = false)
    cases kept : keep item with
    | true =>
      rw [List.filter_cons_of_pos kept]
      exact .keep later
    | false =>
      rw [List.filter_cons_of_neg (by simp [kept])]
      exact .lose ⟨List.mem_cons_self, kept⟩ later

theorem thinnedFilterMap {gone : β → Prop} {strict lax : α → Option β} (items : List α)
    (keeps : ∀ item ∈ items, ∀ value, strict item = some value → lax item = some value)
    (loses : ∀ item ∈ items, ∀ value, strict item = none → lax item = some value → gone value) :
    Thinned gone (items.filterMap strict) (items.filterMap lax) := by
  induction items with
  | nil => exact .nil
  | cons item rest ih =>
    have later := ih (fun other member => keeps other (List.mem_cons_of_mem _ member))
      (fun other member => loses other (List.mem_cons_of_mem _ member))
    cases picked : strict item with
    | some value =>
      rw [List.filterMap_cons_some picked,
        List.filterMap_cons_some (keeps item List.mem_cons_self value picked)]
      exact .keep later
    | none =>
      rw [List.filterMap_cons_none picked]
      cases taken : lax item with
      | none =>
        rw [List.filterMap_cons_none taken]
        exact later
      | some value =>
        rw [List.filterMap_cons_some taken]
        exact .lose (loses item List.mem_cons_self value picked taken) later

end Thinned

theorem thinnedErrorsAtMost {lost : Violation → Prop} {short long : List Violation}
    (thinned : Thinned lost short long) :
    short.countP Violation.isError ≤ long.countP Violation.isError :=
  (thinnedSublist thinned).countP_le

theorem thinnedErrorsSame {lost : Violation → Prop} {short long : List Violation}
    (thinned : Thinned lost short long) (mild : ∀ violation, lost violation → violation.isError = false) :
    short.countP Violation.isError = long.countP Violation.isError := by
  induction thinned with
  | nil => rfl
  | keep _ ih => rw [List.countP_cons, List.countP_cons, ih]
  | @lose violation short long gone _ ih =>
    have free : ¬ violation.isError = true := by simp [mild violation gone]
    rw [ih, List.countP_cons_of_neg free]

theorem deductionMono (scoring : Scoring) {fewer more : Nat} (atMost : fewer ≤ more) :
    deduction scoring fewer ≤ deduction scoring more :=
  deductionAtMost (scoringAtMostRefl scoring) atMost

namespace Run

/- The score of a run that starts from `record`, whatever observer goes along with all its events. -/
def Scores (linter : Linter) (source : Source) (paths : List String) (record : Record)
    (score : Score) : Prop :=
  ∀ (σ ε : Type) (accept : σ → Event → σ) (start : σ), ∃ progress,
    linter.run source (steadily accept : Observer σ ε) paths record start = .ok progress ∧
    Score.ofRecord linter.config.scoring progress.record = score

def Costs (linter : Linter) (source : Source) (paths : List String) (record : Record)
    (cost : UInt32) : Prop :=
  ∃ score, Scores linter source paths record score ∧ score.deduction = cost

def recorded (linter : Linter) (source : Source) (paths : List String) (record : Record) :
    List Violation :=
  record.toList ++ paths.flatMap (foundAt linter.lint source)

theorem runScores (linter : Linter) (source : Source) (paths : List String) (record : Record) :
    Scores linter source paths record
      (scoreOf linter.config.scoring (recorded linter source paths record)) := by
  intro σ ε accept start
  have ran : linter.run source (steadily accept : Observer σ ε) paths record start = .ok _ :=
    runAccepted record (steadilyAccepts accept (events linter source paths) start)
  refine ⟨_, ran, ?_⟩
  rw [Score.ofRecord, completedRecord, events, toldViolations]
  rfl

theorem runCosts (linter : Linter) (source : Source) (paths : List String) (record : Record) :
    Costs linter source paths record
      (deduction linter.config.scoring
        ((recorded linter source paths record).countP Violation.isError)) := by
  refine ⟨_, runScores linter source paths record, ?_⟩
  rw [scoreOf, tallyOfList]

theorem thinnedRecorded {lost : SourceFile → Violation → Prop} {a b : Linter}
    (each : ∀ file, Thinned (lost file) (a.lint file) (b.lint file)) (source : Source)
    (paths : List String) (record : Record) :
    Thinned (fun violation => ∃ file, lost file violation) (recorded a source paths record)
      (recorded b source paths record) := by
  refine thinnedAppend (thinnedRefl record.toList) (thinnedFlatMap paths fun path _ => ?_)
  unfold foundAt
  cases source path with
  | error failure => exact .nil
  | ok content => exact thinnedWiden (each _) fun violation gone => ⟨_, gone⟩

theorem thinnedCosts {lost : SourceFile → Violation → Prop} {a b : Linter}
    (scoring : a.config.scoring = b.config.scoring)
    (each : ∀ file, Thinned (lost file) (a.lint file) (b.lint file)) (source : Source)
    (paths : List String) (record : Record) :
    ∃ less more, Costs a source paths record less ∧ Costs b source paths record more ∧
      less ≤ more ∧
      ((∀ file violation, lost file violation → violation.isError = false) → less = more) := by
  have thinned := thinnedRecorded each source paths record
  have costs := runCosts a source paths record
  rw [scoring] at costs
  refine ⟨_, _, costs, runCosts b source paths record,
    deductionMono _ (thinnedErrorsAtMost thinned), fun mild => ?_⟩
  rw [thinnedErrorsSame thinned fun violation ⟨file, gone⟩ => mild file violation gone]

end Run

end HouseStyle
