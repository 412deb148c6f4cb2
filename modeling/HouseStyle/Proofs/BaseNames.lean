import HouseStyle.Path

/-! Base names of paths. What stands behind the last step of a path, slashes and single dots, does not
count, nor does anything before it; and what is a base name already stays so. -/
namespace HouseStyle.Path

inductive Trail : List Char → Prop where
  | none : Trail []
  | slash {trail : List Char} (more : Trail trail) : Trail ('/' :: trail)
  | dot {trail : List Char} (more : Trail trail) : Trail ('/' :: '.' :: trail)

def Opens (before : List Char) : Prop := before = [] ∨ ∃ front, before = front ++ ['/']

structure IsName (name : String) : Prop where
  some : name ≠ ""
  undivided : '/' ∉ name.toList
  noDot : name ≠ "."
  notUp : name ≠ ".."

structure Component (path piece : List Char) : Prop where
  some : piece ≠ []
  undivided : '/' ∉ piece
  stands : ∃ before after, path = before ++ (piece ++ after) ∧ Opens before ∧
    (after = [] ∨ ∃ rest, after = '/' :: rest)

structure LastStep (path piece : List Char) : Prop where
  step : isStep piece = true
  undivided : '/' ∉ piece
  ends : ∃ before trail, path = before ++ (piece ++ trail) ∧ Opens before ∧ Trail trail

theorem splitStep {c : Char} (ordinary : c ≠ '/') (text : List Char) :
    ∃ piece others, split text = piece :: others ∧ split (c :: text) = (c :: piece) :: others := by
  have some : split text ≠ [] := by
    cases text with
    | nil => simp [split]
    | cons d text =>
      rw [split]
      split
      · simp
      · split <;> simp
  obtain ⟨piece, others, pieces⟩ := List.exists_cons_of_ne_nil some
  refine ⟨piece, others, pieces, ?_⟩
  rw [split, if_neg ordinary, pieces]

theorem splitSlash (front back : List Char) :
    split (front ++ '/' :: back) = split front ++ split back := by
  induction front with
  | nil => simp [split]
  | cons c front ih =>
    by_cases slash : c = '/'
    · simp [split, slash, ih]
    · obtain ⟨piece, others, rest, whole⟩ := splitStep slash front
      obtain ⟨piece', others', rest', whole'⟩ := splitStep slash (front ++ '/' :: back)
      rw [ih, rest] at rest'
      obtain ⟨rfl, rfl⟩ := List.cons.inj rest'
      rw [List.cons_append, whole', whole]
      rfl

theorem splitUndivided {piece : List Char} (undivided : '/' ∉ piece) : split piece = [piece] := by
  induction piece with
  | nil => rfl
  | cons c piece ih =>
    simp only [List.mem_cons, not_or] at undivided
    rw [split, if_neg (Ne.symm undivided.1), ih undivided.2]

theorem stepsSlash (front back : List Char) :
    steps (front ++ '/' :: back) = steps front ++ steps back := by
  rw [steps, splitSlash, List.filter_append, steps, steps]

theorem stepsUndivided {piece : List Char} (undivided : '/' ∉ piece) :
    steps piece = if isStep piece then [piece] else [] := by
  rw [steps, splitUndivided undivided, List.filter_cons, List.filter_nil]

theorem stepsTrail (front : List Char) {trail : List Char} (trails : Trail trail) :
    steps (front ++ trail) = steps front := by
  induction trails generalizing front with
  | none => rw [List.append_nil]
  | slash more ih =>
    have nothing : steps ([] ++ _) = [] := ih []
    rw [stepsSlash]
    exact (congrArg (steps front ++ ·) nothing).trans (List.append_nil _)
  | dot more ih =>
    have nothing : steps (['.'] ++ _) = [] := ih ['.']
    rw [stepsSlash]
    exact (congrArg (steps front ++ ·) nothing).trans (List.append_nil _)

theorem stepsOpening {before : List Char} (opens : Opens before) (rest : List Char) :
    ∃ above, steps (before ++ rest) = above ++ steps rest := by
  rcases opens with rfl | ⟨front, rfl⟩
  · exact ⟨[], rfl⟩
  · refine ⟨steps front, ?_⟩
    rw [List.append_assoc]
    exact stepsSlash front rest

theorem trailAppend {trail more : List Char} (first : Trail trail) (second : Trail more) :
    Trail (trail ++ more) := by
  induction first with
  | none => exact second
  | slash _ ih => exact .slash ih
  | dot _ ih => exact .dot ih

theorem stepsLast {path piece : List Char} (last : LastStep path piece) :
    (steps path).getLast? = some piece := by
  obtain ⟨step, undivided, before, trail, rfl, opens, trails⟩ := last
  obtain ⟨above, split⟩ := stepsOpening opens (piece ++ trail)
  rw [split, stepsTrail piece trails, stepsUndivided undivided, if_pos step, List.getLast?_concat]

theorem lastSlash {path : List Char} (slash : '/' ∈ path) :
    ∃ front last, path = front ++ '/' :: last ∧ '/' ∉ last := by
  obtain ⟨last, front, split, free⟩ := List.eq_append_cons_of_mem (List.mem_reverse.mpr slash)
  refine ⟨front.reverse, last.reverse, ?_, by simpa using free⟩
  rw [← List.reverse_reverse path, split]
  simp

theorem lastTrail {last : List Char} (idle : isStep last = false) : Trail ('/' :: last) := by
  have either : last = [] ∨ last = ['.'] := by
    simpa [isStep, Bool.and_eq_false_iff, Classical.or_iff_not_imp_left] using idle
  rcases either with rfl | rfl
  · exact .slash .none
  · exact .dot .none

/- By induction on the number of characters: if nothing leads on behind the last slash, the last step is
that of what stands before it. -/
theorem lastOfSteps {path piece : List Char} (found : (steps path).getLast? = some piece) :
    LastStep path piece := by
  generalize size : path.length = length
  induction length using Nat.strongRecOn generalizing path with
  | ind length ih =>
    by_cases slash : '/' ∈ path
    · obtain ⟨front, last, rfl, free⟩ := lastSlash slash
      rw [stepsSlash, stepsUndivided free] at found
      by_cases step : isStep last = true
      · rw [if_pos step, List.getLast?_concat] at found
        cases Option.some.inj found
        exact ⟨step, free, front ++ ['/'], [], by simp, Or.inr ⟨front, rfl⟩, .none⟩
      · rw [if_neg step, List.append_nil] at found
        have shorter : front.length < length := by
          rw [← size, List.length_append, List.length_cons]
          omega
        obtain ⟨isStep, undivided, before, trail, split, opens, trails⟩ :=
          ih front.length shorter found rfl
        have idle : Trail ('/' :: last) := lastTrail (Bool.eq_false_iff.mpr step)
        exact ⟨isStep, undivided, before, trail ++ '/' :: last, by simp [split], opens,
          trailAppend trails idle⟩
    · rw [stepsUndivided slash] at found
      split at found <;> try contradiction
      rename_i step
      cases Option.some.inj found
      exact ⟨step, slash, [], [], by simp, Or.inl rfl, .none⟩

theorem componentPiece {path piece : List Char} (component : Component path piece) :
    piece ∈ split path := by
  obtain ⟨_, undivided, before, after, rfl, opens, ends⟩ := component
  have here : piece ∈ split (piece ++ after) := by
    rcases ends with rfl | ⟨rest, rfl⟩
    · rw [List.append_nil, splitUndivided undivided]
      exact List.mem_cons_self
    · rw [splitSlash, splitUndivided undivided]
      exact List.mem_cons_self
  rcases opens with rfl | ⟨front, rfl⟩
  · exact here
  · rw [List.append_assoc]
    refine (splitSlash front (piece ++ after)) ▸ List.mem_append_right _ here

theorem nameOfLast {path : String} {piece : List Char} (last : LastStep path.toList piece)
    (notUp : piece ≠ ['.', '.']) : baseName path = String.ofList piece := by
  rw [baseName, stepsLast last]
  exact if_neg notUp

theorem nameCases (path : String) :
    (∃ piece, LastStep path.toList piece ∧ piece ≠ ['.', '.'] ∧ baseName path = String.ofList piece) ∨
      baseName path = path ∧ (steps path.toList = [] ∨ LastStep path.toList ['.', '.']) := by
  cases found : (steps path.toList).getLast? with
  | none =>
    refine Or.inr ⟨?_, Or.inl (List.getLast?_eq_none_iff.mp found)⟩
    rw [baseName, found]
  | some piece =>
    have last := lastOfSteps found
    by_cases up : piece = ['.', '.']
    · subst up
      refine Or.inr ⟨?_, Or.inr last⟩
      rw [baseName, found]
      exact if_pos rfl
    · exact Or.inl ⟨piece, last, up, nameOfLast last up⟩

theorem nameStep {name : String} (is : IsName name) :
    isStep name.toList = true ∧ name.toList ≠ ['.', '.'] := by
  have apart {other : String} (different : name ≠ other) : name.toList ≠ other.toList :=
    fun same => different (String.toList_inj.mp same)
  have some : name.toList ≠ [] := apart is.some
  have noDot : name.toList ≠ ['.'] := apart is.noDot
  exact ⟨by simp [isStep, some, noDot], apart is.notUp⟩

theorem baseNameLaws :
    (∀ directory name trail : String, IsName name → Trail trail.toList →
      baseName (directory ++ "/" ++ name ++ trail) = name ∧ baseName (name ++ trail) = name) ∧
    (∀ path : String, baseName (baseName path) = baseName path) ∧
    ∀ path : String, '/' ∈ (baseName path).toList → baseName path = path ∧
      ((∀ piece, Component path.toList piece → piece = ['.'] ∨ piece = ['.', '.']) ∨
        LastStep path.toList ['.', '.']) := by
  refine ⟨?_, ?_, ?_⟩
  · intro directory name trail is trails
    obtain ⟨step, notUp⟩ := nameStep is
    have below : LastStep (directory ++ "/" ++ name ++ trail).toList name.toList :=
      ⟨step, is.undivided, directory.toList ++ ['/'], trail.toList, by simp, Or.inr ⟨_, rfl⟩, trails⟩
    have alone : LastStep (name ++ trail).toList name.toList :=
      ⟨step, is.undivided, [], trail.toList, by simp, Or.inl rfl, trails⟩
    rw [nameOfLast below notUp, nameOfLast alone notUp, String.ofList_toList]
    exact ⟨rfl, rfl⟩
  · intro path
    rcases nameCases path with ⟨piece, last, notUp, named⟩ | ⟨same, _⟩
    · have itself : LastStep (baseName path).toList piece :=
        ⟨last.step, last.undivided, [], [], by simp [named], Or.inl rfl, .none⟩
      rw [nameOfLast itself notUp, named]
    · rw [same, same]
  · intro path slash
    rcases nameCases path with ⟨piece, last, _, named⟩ | ⟨same, none | up⟩
    · rw [named, String.toList_ofList] at slash
      exact absurd slash last.undivided
    · refine ⟨same, Or.inl fun piece component => Or.inl ?_⟩
      have idle := List.filter_eq_nil_iff.mp none piece (componentPiece component)
      simpa [isStep, component.some] using idle
    · exact ⟨same, Or.inr up⟩

theorem baseNameLawsSample :
    (IsName "..." ∧ Trail "//.//".toList ∧ '/' ∈ (baseName "a/.././").toList) ∧
    baseName ("../b/" ++ "/" ++ "..." ++ "//.//") = "..." ∧ baseName ("..." ++ "//.//") = "..." ∧
    baseName "a/.././" = "a/.././" ∧
    ((∀ piece, Component "a/.././".toList piece → piece = ['.'] ∨ piece = ['.', '.']) ∨
      LastStep "a/.././".toList ['.', '.']) := by
  have is : IsName "..." := ⟨by decide, by decide, by decide, by decide⟩
  have trails : Trail "//.//".toList := .slash (.dot (.slash (.slash .none)))
  have slash : '/' ∈ (baseName "a/.././").toList := by decide +kernel
  obtain ⟨below, alone⟩ := baseNameLaws.1 "../b/" "..." "//.//" is trails
  exact ⟨⟨is, trails, slash⟩, below, alone, baseNameLaws.2.2 "a/.././" slash⟩

end HouseStyle.Path
