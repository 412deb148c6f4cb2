import HouseStyle.Text.Search

/-! What stands at the places of a text, listed from its first place to its last. A place is a number of
characters or of lines, and holds one thing at most. -/
namespace HouseStyle.Text

variable {α : Type} {At : Nat → α → Prop}

def Listed (At : Nat → α → Prop) (values : List α) : Prop :=
  ∃ rows : List (Nat × α), rows.Pairwise (fun row later => row.1 < later.1) ∧
    (∀ place value, (place, value) ∈ rows ↔ At place value) ∧ values = rows.map (·.2)

/- The same for the places from `start` on. A list is made from its end, by one place more at a time. -/
def ListedFrom (start : Nat) (At : Nat → α → Prop) (values : List α) : Prop :=
  Listed (fun place value => start ≤ place ∧ At place value) values

theorem listedAll {values : List α} (listed : ListedFrom 0 At values) : Listed At values := by
  obtain ⟨rows, ascending, all, rfl⟩ := listed
  exact ⟨rows, ascending, fun place value => (all place value).trans (by simp), rfl⟩

theorem listedNone {start : Nat} (none : ∀ place value, start ≤ place → ¬ At place value) :
    ListedFrom start At [] := by
  refine ⟨[], .nil, fun place value => ⟨fun member => by simp at member, ?_⟩, rfl⟩
  rintro ⟨reached, stands⟩
  exact absurd stands (none place value reached)

theorem listedSkip {start next : Nat} {values : List α} (reached : start ≤ next)
    (none : ∀ place value, start ≤ place → place < next → ¬ At place value)
    (later : ListedFrom next At values) : ListedFrom start At values := by
  obtain ⟨rows, ascending, all, rfl⟩ := later
  refine ⟨rows, ascending, fun place value => (all place value).trans ⟨?_, ?_⟩, rfl⟩
  · rintro ⟨further, stands⟩
    exact ⟨by omega, stands⟩
  · rintro ⟨further, stands⟩
    exact ⟨Nat.le_of_not_lt fun short => none place value further short stands, stands⟩

theorem listedStep {place : Nat} {found : Option α} {values : List α}
    (here : ∀ value, found = some value ↔ At place value) (later : ListedFrom (place + 1) At values) :
    ListedFrom place At (found.toList ++ values) := by
  cases found with
  | none =>
    refine listedSkip (Nat.le_succ place) (fun other value reached short stands => ?_) later
    obtain rfl : other = place := by omega
    have absent := (here value).mpr stands
    contradiction
  | some value =>
    obtain ⟨rows, ascending, all, rfl⟩ := later
    refine ⟨(place, value) :: rows, List.pairwise_cons.mpr ⟨?_, ascending⟩, ?_, rfl⟩
    · intro row member
      exact ((all row.1 row.2).mp member).1
    · intro other found
      rw [List.mem_cons, all, Prod.mk.injEq]
      constructor
      · rintro (⟨rfl, rfl⟩ | ⟨further, stands⟩)
        · exact ⟨Nat.le_refl _, (here _).mp rfl⟩
        · exact ⟨by omega, stands⟩
      · rintro ⟨reached, stands⟩
        rcases Nat.eq_or_lt_of_le reached with rfl | further
        · exact Or.inl ⟨rfl, (Option.some.inj ((here found).mpr stands)).symm⟩
        · exact Or.inr ⟨further, stands⟩

theorem saidFiltered {β γ : Type} {passes reported : β → Prop} [DecidablePred passes]
    [DecidablePred reported] (either : ∀ item, ¬ passes item ↔ reported item) (wording : β → γ)
    (items : List β) :
    (items.filterMap fun item => if passes item then none else some (wording item)) =
      (items.filter fun item => reported item).map wording := by
  induction items with
  | nil => rfl
  | cons item items ih =>
    by_cases fits : passes item
    · have silent : ¬ reported item := fun said => (either item).mpr said fits
      simp [fits, silent, ih]
    · have said : reported item := (either item).mp fits
      simp [fits, said, ih]

end HouseStyle.Text
