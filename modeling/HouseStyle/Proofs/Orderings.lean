import HouseStyle.Proofs.Losses
import Mathlib.Data.List.Flatten
import Mathlib.Data.List.Nodup

/-! Which paths a run is given, and in which order. A record keeps the order of the paths, the score
made from it does not: paths in another order cost the same, fewer paths never cost more, and a path
that cannot be read costs nothing. -/
namespace HouseStyle

structure Score.AtMost (small large : Score) : Prop where
  deduction : small.deduction ≤ large.deduction
  errors : small.tally.errors ≤ large.tally.errors
  warnings : small.tally.warnings ≤ large.tally.warnings
  total : small.tally.total ≤ large.tally.total
  byCheck : ∀ check count, (check, count) ∈ small.tally.byCheck.entries →
    ∃ most, (check, most) ∈ large.tally.byCheck.entries ∧ count ≤ most

/- Scores that differ at most in the order in which the checks first reported. -/
structure Score.Alike (one other : Score) : Prop where
  deduction : one.deduction = other.deduction
  errors : one.tally.errors = other.tally.errors
  warnings : one.tally.warnings = other.tally.warnings
  total : one.tally.total = other.tally.total
  byCheck : one.tally.byCheck.entries.Perm other.tally.byCheck.entries

theorem countsPermuted {one other : List Violation} (permuted : one.Perm other) :
    (one.foldl CheckCounts.see {}).entries.Perm (other.foldl CheckCounts.see {}).entries := by
  have distinct (violations : List Violation) :
      (violations.foldl CheckCounts.see {}).entries.Nodup :=
    List.Nodup.of_map _ (CheckCounts.countsDistinct violations)
  rw [List.perm_ext_iff_of_nodup (distinct one) (distinct other)]
  rintro ⟨check, count⟩
  rw [CheckCounts.countedIff, CheckCounts.countedIff, CheckCounts.reports, CheckCounts.reports,
    permuted.countP_eq]

theorem scorePermuted (scoring : Scoring) {one other : List Violation} (permuted : one.Perm other) :
    (scoreOf scoring one).Alike (scoreOf scoring other) := by
  unfold scoreOf
  rw [tallyOfList, tallyOfList]
  exact {
    deduction := by rw [permuted.countP_eq]
    errors := permuted.countP_eq _
    warnings := permuted.countP_eq _
    total := permuted.length_eq
    byCheck := countsPermuted permuted }

theorem scoreSublist (scoring : Scoring) {short long : List Violation} (among : short.Sublist long) :
    (scoreOf scoring short).AtMost (scoreOf scoring long) := by
  unfold scoreOf
  rw [tallyOfList, tallyOfList]
  refine {
    deduction := deductionMono scoring among.countP_le
    errors := among.countP_le
    warnings := among.countP_le
    total := among.length_le
    byCheck := ?_ }
  intro check count counted
  obtain ⟨positive, rfl⟩ := (CheckCounts.countedIff _ _ _).mp counted
  have atMost : CheckCounts.reports check short ≤ CheckCounts.reports check long := among.countP_le
  exact ⟨_, (CheckCounts.countedIff _ _ _).mpr ⟨Nat.lt_of_lt_of_le positive atMost, rfl⟩, atMost⟩

theorem alikeAtMost {one small large : Score} (alike : one.Alike small) (atMost : small.AtMost large) :
    one.AtMost large where
  deduction := alike.deduction ▸ atMost.deduction
  errors := alike.errors ▸ atMost.errors
  warnings := alike.warnings ▸ atMost.warnings
  total := alike.total ▸ atMost.total
  byCheck check count counted := atMost.byCheck check count (alike.byCheck.mem_iff.mp counted)

namespace Run

theorem freshScores (linter : Linter) (source : Source) (paths : List String) :
    Scores linter source paths Record.empty
      (scoreOf linter.config.scoring (paths.flatMap (foundAt linter.lint source))) := by
  have scores := runScores linter source paths Record.empty
  rwa [recorded, Record.toListEmpty, List.nil_append] at scores

theorem unreadableFindNothing (lint : SourceFile → List Violation) {source : Source}
    {fewer more : List String}
    (thinned : Thinned (fun path => unreadable source path = true) fewer more) :
    fewer.flatMap (foundAt lint source) = more.flatMap (foundAt lint source) := by
  induction thinned with
  | nil => rfl
  | keep _ ih => rw [List.flatMap_cons, List.flatMap_cons, ih]
  | @lose path short long skipped _ ih =>
    have nothing : foundAt lint source path = [] := by
      unfold unreadable at skipped
      unfold foundAt
      cases answer : source path with
      | error failure => rfl
      | ok content => simp [answer] at skipped
    rw [List.flatMap_cons, nothing, ih, List.nil_append]

theorem readablePermuted {source : Source} {fewer more : List String}
    (atMost : ∀ path, fewer.count path ≤ more.count path)
    (left : ∀ path, fewer.count path < more.count path → unreadable source path = true) :
    (fewer.filter fun path => !unreadable source path).Perm
      (more.filter fun path => !unreadable source path) := by
  rw [List.perm_iff_count]
  intro path
  cases skipped : unreadable source path with
  | true =>
    rw [List.count_eq_zero.mpr (by simp [skipped]), List.count_eq_zero.mpr (by simp [skipped])]
  | false =>
    rw [List.count_filter (by simp [skipped]), List.count_filter (by simp [skipped])]
    refine Nat.le_antisymm (atMost path) (Nat.not_lt.mp fun less => ?_)
    rw [left path less] at skipped
    contradiction

theorem readableFindings (lint : SourceFile → List Violation) (source : Source) (paths : List String) :
    (paths.filter fun path => !unreadable source path).flatMap (foundAt lint source) =
      paths.flatMap (foundAt lint source) := by
  refine unreadableFindNothing lint (thinnedWiden (thinnedFilter _ paths) ?_)
  rintro path ⟨_, skipped⟩
  simpa using skipped

theorem fewerPathsScoreLess (linter : Linter) (source : Source) (fewer kept more : List String)
    (permuted : fewer.Perm kept) (among : kept.Sublist more) :
    ∃ small large, Scores linter source fewer Record.empty small ∧
      Scores linter source more Record.empty large ∧
      small.AtMost large ∧
      ((∀ path, fewer.count path < more.count path → unreadable source path = true) →
        small.Alike large) ∧
      (Thinned (fun path => unreadable source path = true) fewer more → small = large) := by
  refine ⟨_, _, freshScores linter source fewer, freshScores linter source more, ?_, ?_, ?_⟩
  · have reordered := permuted.flatMap_right (foundAt linter.lint source)
    have inside := among.flatMap (foundAt linter.lint source)
    exact alikeAtMost (scorePermuted _ reordered) (scoreSublist _ inside)
  · intro left
    have atMost (path : String) : fewer.count path ≤ more.count path := by
      rw [permuted.count_eq]
      exact among.count_le path
    have readable := (readablePermuted atMost left).flatMap_right (foundAt linter.lint source)
    rw [readableFindings, readableFindings] at readable
    exact scorePermuted _ readable
  · intro thinned
    rw [unreadableFindNothing linter.lint thinned]

theorem scoresUnique {linter : Linter} {source : Source} {paths : List String} {record : Record}
    {one other : Score} (first : Scores linter source paths record one)
    (second : Scores linter source paths record other) : one = other := by
  obtain ⟨progress, ran, rfl⟩ := first Unit Empty (fun _ _ => ()) ()
  obtain ⟨again, same, rfl⟩ := second Unit Empty (fun _ _ => ()) ()
  cases Except.ok.inj (ran.symm.trans same)
  rfl

theorem fewerPathsScoreLessSample :
    let source : Source := fun path =>
      if path = "a.cpp" then .ok ⟨"int Count = 1;", false⟩
      else if path = "b.h" then .ok ⟨"class song", false⟩
      else .error (.notFound path)
    let linter := Linter.ofStyleGuide {}
    let turned := ["b.h", "a.cpp"]
    let kept := ["a.cpp", "b.h"]
    let all := ["a.cpp", "gone.h", "b.h", "gone.h"]
    (turned.Perm kept ∧ kept.Sublist all ∧
      (∀ path, turned.count path < all.count path → unreadable source path = true) ∧
      Thinned (fun path => unreadable source path = true) kept all) ∧
    (∃ small large, Scores linter source turned Record.empty small ∧
      Scores linter source all Record.empty large ∧
      small.AtMost large ∧ small.Alike large ∧ small ≠ large) ∧
    ∃ score, Scores linter source kept Record.empty score ∧
      Scores linter source all Record.empty score ∧
      score.deduction = 14 := by
  intro source linter turned kept all
  have permuted : turned.Perm kept := .swap _ _ _
  have among : kept.Sublist all := by decide
  have left : ∀ path, turned.count path < all.count path → unreadable source path = true := by
    intro path less
    by_cases gone : path = "gone.h"
    · subst gone
      rfl
    · simp only [turned, all, List.count_cons, List.count_nil, beq_iff_eq, Ne.symm gone,
        if_false] at less
      omega
  have thinned : Thinned (fun path => unreadable source path = true) kept all :=
    .keep (.lose rfl (.keep (.lose rfl .nil)))
  refine ⟨⟨permuted, among, left, thinned⟩, ?_, ?_⟩
  · obtain ⟨small, large, scored, scoredAll, atMost, alike, _⟩ :=
      fewerPathsScoreLess linter source turned kept all permuted among
    refine ⟨small, large, scored, scoredAll, atMost, alike left, ?_⟩
    rw [scoresUnique scored (freshScores _ _ _), scoresUnique scoredAll (freshScores _ _ _)]
    decide +kernel
  · obtain ⟨small, large, scored, scoredAll, _, _, same⟩ :=
      fewerPathsScoreLess linter source kept kept all (.refl kept) among
    refine ⟨small, scored, same thinned ▸ scoredAll, ?_⟩
    rw [scoresUnique scored (freshScores _ _ _)]
    decide +kernel

end Run

end HouseStyle
