import HouseStyle.Tally

/-! Counts by check are right after every violation: a check that reported has a positive count, the
number of its reports, and one that did not has none. The counts add up to all reports. -/
namespace HouseStyle

theorem raiseLookup (check name : String) (count : Nat) (entries : List (String × Nat)) :
    (raise check count entries).lookup name =
      if name = check then some ((entries.lookup name).getD 0 + count) else entries.lookup name := by
  induction entries with
  | nil =>
    by_cases same : name = check
    · simp [raise, same]
    · simp [raise, List.lookup_cons, same, beq_eq_false_iff_ne.mpr same]
  | cons entry rest ih =>
    obtain ⟨first, old⟩ := entry
    by_cases same : name = first
    · subst same
      by_cases here : name = check <;> simp [raise, here]
    · have other : (name == first) = false := beq_eq_false_iff_ne.mpr same
      by_cases here : first = check
      · have apart : name ≠ check := fun equal => same (equal.trans here.symm)
        simp [raise, here, List.lookup_cons, apart, beq_eq_false_iff_ne.mpr apart]
      · simp only [raise, if_neg here, List.lookup_cons, other, ih]

namespace CheckCounts

def sum (counts : CheckCounts) : Nat := counts.entries.foldr (fun entry total => entry.2 + total) 0

theorem raiseSum (check : String) (count : Nat) (entries : List (String × Nat)) :
    sum ⟨raise check count entries⟩ = sum ⟨entries⟩ + count := by
  unfold sum
  induction entries with
  | nil => simp [raise]
  | cons entry rest ih =>
    obtain ⟨first, old⟩ := entry
    by_cases here : first = check
    · simp only [raise, if_pos here, List.foldr_cons]
      omega
    · simp only [raise, if_neg here, List.foldr_cons, ih]
      omega

def see (counts : CheckCounts) (violation : Violation) : CheckCounts := counts.add violation.check 1

def reports (check : String) (violations : List Violation) : Nat :=
  violations.countP fun violation => violation.check == check

def Agrees (counts : CheckCounts) (violations : List Violation) : Prop :=
  ∀ check, counts.get? check =
    if reports check violations = 0 then none else some (reports check violations)

theorem agreesEmpty : Agrees {} [] := by
  intro check
  rfl

theorem agreesSee {counts : CheckCounts} {seen : List Violation} (agrees : Agrees counts seen)
    (violation : Violation) : Agrees (counts.see violation) (seen ++ [violation]) := by
  intro check
  have old : counts.entries.lookup check =
      if reports check seen = 0 then none else some (reports check seen) := agrees check
  change (raise violation.check 1 counts.entries).lookup check = _
  rw [raiseLookup, old]
  by_cases same : check = violation.check
  · have more : reports check (seen ++ [violation]) = reports check seen + 1 := by
      simp [reports, same]
    rw [if_pos same, more, if_neg (Nat.succ_ne_zero _)]
    by_cases first : reports check seen = 0
    · simp [first]
    · simp [first]
  · have equal : reports check (seen ++ [violation]) = reports check seen := by
      simp [reports, Ne.symm same]
    rw [if_neg same, equal]

theorem agreesAll {counts : CheckCounts} {seen : List Violation} (agrees : Agrees counts seen)
    (violations : List Violation) : Agrees (violations.foldl see counts) (seen ++ violations) := by
  induction violations generalizing counts seen with
  | nil => simpa using agrees
  | cons violation rest ih =>
    have step := ih (agreesSee agrees violation)
    rwa [List.append_assoc] at step

theorem agreesIff {counts : CheckCounts} {violations : List Violation}
    (agrees : Agrees counts violations) (check : String) (count : Nat) :
    counts.get? check = some count ↔ 0 < count ∧ reports check violations = count := by
  rw [agrees check]
  by_cases none : reports check violations = 0
  · rw [if_pos none]
    constructor
    · intro h; cases h
    · intro h; omega
  · rw [if_neg none]
    constructor
    · intro h
      cases Option.some.inj h
      exact ⟨Nat.pos_of_ne_zero none, rfl⟩
    · intro h
      rw [h.2]

def names (counts : CheckCounts) : List String := counts.entries.map (·.1)

theorem raiseNames (check : String) (count : Nat) (entries : List (String × Nat)) :
    names ⟨raise check count entries⟩ =
      if check ∈ names ⟨entries⟩ then names ⟨entries⟩ else names ⟨entries⟩ ++ [check] := by
  unfold names
  induction entries with
  | nil => rfl
  | cons entry rest ih =>
    obtain ⟨first, old⟩ := entry
    by_cases here : first = check
    · simp [raise, here]
    · simp only [raise, if_neg here, List.map_cons, List.mem_cons, Ne.symm here, false_or] at ih ⊢
      rw [ih]
      split <;> rfl

theorem seeDistinct {counts : CheckCounts} (distinct : counts.names.Nodup) (violation : Violation) :
    (counts.see violation).names.Nodup := by
  have grown : (counts.see violation).names = _ := raiseNames violation.check 1 counts.entries
  rw [grown]
  split
  · exact distinct
  · rename_i fresh
    exact List.nodup_append.mpr ⟨distinct, by simp, fun name old other new same =>
      fresh (by cases List.mem_singleton.mp new; rwa [← same])⟩

theorem allDistinct {counts : CheckCounts} (distinct : counts.names.Nodup)
    (violations : List Violation) : (violations.foldl see counts).names.Nodup := by
  induction violations generalizing counts with
  | nil => exact distinct
  | cons violation rest ih => exact ih (seeDistinct distinct violation)

theorem memberGet {counts : CheckCounts} (distinct : counts.names.Nodup) (check : String)
    (count : Nat) : (check, count) ∈ counts.entries ↔ counts.get? check = some count := by
  obtain ⟨entries⟩ := counts
  unfold get? names at *
  induction entries with
  | nil => simp
  | cons entry rest ih =>
    obtain ⟨first, old⟩ := entry
    obtain ⟨absent, later⟩ := List.nodup_cons.mp distinct
    rw [List.mem_cons, ih later, List.lookup_cons]
    by_cases here : check = first
    · subst here
      have missing : rest.lookup check ≠ some count := fun found =>
        absent (List.mem_map.mpr ⟨(check, count), (ih later).mpr found, rfl⟩)
      simp [missing, eq_comm]
    · simp [here, beq_eq_false_iff_ne.mpr here]

theorem countsDistinct (violations : List Violation) :
    (violations.foldl see {}).names.Nodup := by
  have start : names {} = [] := rfl
  exact allDistinct (start ▸ List.nodup_nil) violations

theorem countedIff (violations : List Violation) (check : String) (count : Nat) :
    (check, count) ∈ (violations.foldl see {}).entries ↔
      0 < count ∧ reports check violations = count := by
  rw [memberGet (countsDistinct violations)]
  exact agreesIff (agreesAll agreesEmpty violations) check count

theorem sumAll (counts : CheckCounts) (violations : List Violation) :
    (violations.foldl see counts).sum = counts.sum + violations.length := by
  induction violations generalizing counts with
  | nil => rfl
  | cons violation rest ih =>
    have step : (counts.see violation).sum = counts.sum + 1 := raiseSum violation.check 1 counts.entries
    rw [List.foldl_cons, ih, step, List.length_cons]
    omega

end CheckCounts

end HouseStyle
