import HouseStyle.Proofs.Places

/-! The search for a shape, stretch by stretch: where no reading starts it only moves on, and a reading
takes it to the end of what was read. What a search finds in a text follows from these two steps. A
search loses readings only where one begins inside another. -/
namespace HouseStyle.Text

variable {α : Type}

def Left (rest text : List Char) : Prop := ∃ word, word ≠ [] ∧ text = word ++ rest

def ReadsOn (shape : Shape α) : Prop :=
  ∀ {before text : List Char} {value : α} {rest : List Char},
    shape before text = some (value, rest) → Left rest text

theorem occurrencesCovered (shape : Shape α) (before : List Char) (covered : Nat) (text : List Char) :
    occurrencesFrom shape before covered text =
      occurrencesFrom shape ((text.take covered).reverse ++ before) 0 (text.drop covered) := by
  induction text generalizing before covered with
  | nil => simp [occurrencesFrom]
  | cons c text ih =>
    cases covered with
    | zero => simp
    | succ covered =>
      rw [occurrencesFrom, ih]
      simp

theorem occurrencesHit {shape : Shape α} {before word rest : List Char} {value : α}
    (read : shape before (word ++ rest) = some (value, rest)) (some : word ≠ []) :
    occurrencesFrom shape before 0 (word ++ rest) =
      ⟨value, before⟩ :: occurrencesFrom shape (word.reverse ++ before) 0 rest := by
  cases word with
  | nil => contradiction
  | cons c word =>
    rw [List.cons_append] at read ⊢
    rw [occurrencesFrom, read]
    have length : (word ++ rest).length - rest.length = word.length := by
      rw [List.length_append]
      omega
    simp only [length]
    rw [occurrencesCovered, List.take_left, List.drop_left, List.reverse_cons, List.append_assoc]
    rfl

/- A search goes on behind a whole word where it finds one, so the induction is on the length of the
text; the three cases are all that a search can meet. -/
theorem searchInduction {shape : Shape α} (readsOn : ReadsOn shape)
    {motive : (before text : List Char) → List (Occurrence α) → Prop}
    (none : ∀ before, motive before [] [])
    (miss : ∀ before c text found, shape before (c :: text) = .none →
      motive (c :: before) text found → motive before (c :: text) found)
    (hit : ∀ before word rest value found, word ≠ [] →
      shape before (word ++ rest) = some (value, rest) →
      motive (word.reverse ++ before) rest found →
      motive before (word ++ rest) (⟨value, before⟩ :: found))
    (before text : List Char) : motive before text (occurrencesFrom shape before 0 text) := by
  induction size : text.length using Nat.strongRecOn generalizing before text with
  | ind size ih =>
    subst size
    cases text with
    | nil => exact none before
    | cons c text =>
      cases read : shape before (c :: text) with
      | none =>
        rw [occurrencesFrom, read]
        exact miss before c text _ read (ih _ (Nat.lt_succ_self _) (c :: before) text rfl)
      | some found =>
        obtain ⟨word, some, split⟩ := readsOn read
        rw [split] at read ih ⊢
        have letters := List.length_pos_iff.mpr some
        rw [occurrencesHit read some]
        exact hit before word found.2 found.1 _ some read
          (ih _ (by rw [List.length_append]; omega) (word.reverse ++ before) found.2 rfl)

def Barren (shape : Shape α) (before stretch rest : List Char) : Prop :=
  ∀ front back, stretch = front ++ back → back ≠ [] →
    shape (front.reverse ++ before) (back ++ rest) = none

theorem barrenNil (shape : Shape α) (before rest : List Char) : Barren shape before [] rest := by
  intro front back split some
  obtain ⟨_, empty⟩ := List.append_eq_nil_iff.mp split.symm
  contradiction

theorem barrenCons {shape : Shape α} {before : List Char} {c : Char} {stretch rest : List Char}
    (here : shape before (c :: stretch ++ rest) = none)
    (later : Barren shape (c :: before) stretch rest) : Barren shape before (c :: stretch) rest := by
  intro front back split some
  cases front with
  | nil =>
    cases split
    exact here
  | cons d front =>
    obtain ⟨rfl, same⟩ := List.cons.inj split
    rw [List.reverse_cons, List.append_assoc]
    exact later front back same some

theorem barrenUncons {shape : Shape α} {before : List Char} {c : Char} {stretch rest : List Char}
    (barren : Barren shape before (c :: stretch) rest) :
    shape before (c :: stretch ++ rest) = none ∧ Barren shape (c :: before) stretch rest := by
  refine ⟨barren [] (c :: stretch) rfl (by simp), ?_⟩
  intro front back split some
  have inside := barren (c :: front) back (by rw [split, List.cons_append]) some
  rw [List.reverse_cons, List.append_assoc] at inside
  exact inside

theorem occurrencesMiss {shape : Shape α} {before stretch rest : List Char}
    (barren : Barren shape before stretch rest) :
    occurrencesFrom shape before 0 (stretch ++ rest) =
      occurrencesFrom shape (stretch.reverse ++ before) 0 rest := by
  induction stretch generalizing before with
  | nil => rfl
  | cons c stretch ih =>
    obtain ⟨here, later⟩ := barrenUncons barren
    rw [List.cons_append] at here ⊢
    rw [occurrencesFrom, here, ih later, List.reverse_cons, List.append_assoc]
    rfl

theorem firstReading (shape : Shape α) (before stretch rest : List Char) :
    Barren shape before stretch rest ∨
      ∃ front back value left, stretch = front ++ back ∧ back ≠ [] ∧
        Barren shape before front (back ++ rest) ∧
        shape (front.reverse ++ before) (back ++ rest) = some (value, left) := by
  induction stretch generalizing before with
  | nil => exact Or.inl (barrenNil shape before rest)
  | cons c stretch ih =>
    cases here : shape before (c :: stretch ++ rest) with
    | some found =>
      exact Or.inr ⟨[], c :: stretch, found.1, found.2, rfl, by simp, barrenNil _ _ _, here⟩
    | none =>
      rcases ih (c :: before) with barren | ⟨front, back, value, left, rfl, some, barren, read⟩
      · exact Or.inl (barrenCons here barren)
      · refine Or.inr ⟨c :: front, back, value, left, rfl, some, barrenCons ?_ barren, ?_⟩
        · rwa [List.cons_append, List.append_assoc] at here
        · rwa [List.reverse_cons, List.append_assoc]

theorem occurrencePlace {shape : Shape α} {before : List Char} {covered : Nat} {text : List Char}
    {found : Occurrence α} (member : found ∈ occurrencesFrom shape before covered text) :
    ∃ front rest left, text = front ++ rest ∧ found.before = front.reverse ++ before ∧
      shape found.before rest = some (found.value, left) := by
  induction text generalizing before covered with
  | nil => simp [occurrencesFrom] at member
  | cons c text ih =>
    have onwards {covered : Nat} (later : found ∈ occurrencesFrom shape (c :: before) covered text) :
        ∃ front rest left, c :: text = front ++ rest ∧ found.before = front.reverse ++ before ∧
          shape found.before rest = some (found.value, left) := by
      obtain ⟨front, rest, left, rfl, place, read⟩ := ih later
      exact ⟨c :: front, rest, left, rfl, by simp [place], read⟩
    cases covered with
    | succ covered => exact onwards member
    | zero =>
      cases read : shape before (c :: text) with
      | none =>
        rw [occurrencesFrom, read] at member
        exact onwards member
      | some result =>
        rw [occurrencesFrom, read] at member
        rcases List.mem_cons.mp member with rfl | later
        · exact ⟨[], c :: text, result.2, rfl, rfl, read⟩
        · exact onwards later

structure ReadAt (shape : Shape α) (text : List Char) (place : Nat) (value : α) : Prop where
  parts : ∃ before rest left, text = before.reverse ++ rest ∧ place = before.length ∧
    shape before rest = some (value, left)

def Apart (shape : Shape α) : Prop :=
  ∀ before c stretch rest value, shape before (c :: (stretch ++ rest)) = some (value, rest) →
    Barren shape (c :: before) stretch rest

theorem readAtIff {shape : Shape α} (before text : List Char) (value : α) :
    ReadAt shape (before.reverse ++ text) before.length value ↔
      ∃ left, shape before text = some (value, left) := by
  constructor
  · intro found
    obtain ⟨front, rest, left, split, place, read⟩ := found
    obtain ⟨same, behind⟩ := List.append_inj split (by simp [place])
    cases List.reverse_inj.mp same
    cases behind
    exact ⟨left, read⟩
  · intro found
    obtain ⟨left, read⟩ := found
    exact ⟨before, text, left, rfl, rfl, read⟩

theorem readStep {shape : Shape α} (before text : List Char) (value : α) :
    (shape before text).map (·.1) = some value ↔
      ReadAt shape (before.reverse ++ text) before.length value := by
  rw [readAtIff, Option.map_eq_some_iff]
  constructor
  · intro found
    obtain ⟨⟨other, left⟩, read, same⟩ := found
    cases same
    exact ⟨left, read⟩
  · intro found
    obtain ⟨left, read⟩ := found
    exact ⟨(value, left), read, rfl⟩

theorem readAtInside {shape : Shape α} (readsOn : ReadsOn shape) {text : List Char} {place : Nat}
    {value : α} (found : ReadAt shape text place value) : place < text.length := by
  obtain ⟨before, rest, left, split, reached, read⟩ := found
  obtain ⟨word, some, behind⟩ := readsOn read
  have letters := List.length_pos_iff.mpr some
  rw [split, reached, behind]
  simp only [List.length_append, List.length_reverse]
  omega

theorem barrenUnread {shape : Shape α} {before stretch rest : List Char}
    (barren : Barren shape before stretch rest) {place : Nat} (reached : before.length ≤ place)
    (short : place < before.length + stretch.length) (value : α) :
    ¬ ReadAt shape (before.reverse ++ (stretch ++ rest)) place value := by
  intro found
  obtain ⟨front, back, rfl, length⟩ : ∃ front back, stretch = front ++ back ∧
      front.length = place - before.length :=
    ⟨stretch.take (place - before.length), stretch.drop (place - before.length),
      (List.take_append_drop _ _).symm, by rw [List.length_take]; omega⟩
  have whole : before.reverse ++ (front ++ back ++ rest) =
      (front.reverse ++ before).reverse ++ (back ++ rest) := by simp
  have there : place = (front.reverse ++ before).length := by
    rw [List.length_append, List.length_reverse]
    omega
  rw [whole, there, readAtIff] at found
  obtain ⟨left, read⟩ := found
  have some : back ≠ [] := by
    rintro rfl
    rw [List.append_nil] at short
    omega
  rw [barren front back rfl some] at read
  contradiction

theorem searchReads {shape : Shape α} (readsOn : ReadsOn shape) (apart : Apart shape)
    (before text : List Char) :
    ListedFrom before.length (ReadAt shape (before.reverse ++ text))
      ((occurrencesFrom shape before 0 text).map (·.value)) := by
  refine searchInduction (motive := fun before text found => ListedFrom before.length
    (ReadAt shape (before.reverse ++ text)) (found.map (·.value))) readsOn ?none ?miss ?hit before text
  case none =>
    intro before
    refine listedNone fun place value reached found => ?_
    have inside := readAtInside readsOn found
    rw [List.append_nil, List.length_reverse] at inside
    omega
  case miss =>
    intro before c text found unread later
    have here : ∀ value, (shape before (c :: text)).map (·.1) = some value ↔
        ReadAt shape (before.reverse ++ c :: text) before.length value := readStep before _
    rw [unread] at here
    rw [List.reverse_cons, List.append_assoc] at later
    exact listedStep here later
  case hit =>
    intro before word rest value found nonempty read later
    obtain ⟨c, stretch, rfl⟩ := List.exists_cons_of_ne_nil nonempty
    have here : ∀ value, (shape before (c :: stretch ++ rest)).map (·.1) = some value ↔
        ReadAt shape (before.reverse ++ (c :: stretch ++ rest)) before.length value :=
      readStep before _
    have barren := apart before c stretch rest value read
    have whole : before.reverse ++ (c :: stretch ++ rest) =
        (c :: before).reverse ++ (stretch ++ rest) := by simp
    rw [read] at here
    rw [List.reverse_append, List.reverse_reverse, List.append_assoc] at later
    refine listedStep here (listedSkip ?_ (fun place other further short => ?_) later)
    · simp only [List.length_append, List.length_reverse, List.length_cons]
      omega
    · rw [whole]
      refine barrenUnread barren further ?_ other
      simp only [List.length_append, List.length_reverse, List.length_cons] at short ⊢
      omega

theorem occurrencesRead {shape : Shape α} (readsOn : ReadsOn shape) (apart : Apart shape)
    (text : List Char) : Listed (ReadAt shape text) ((occurrences shape text).map (·.value)) :=
  listedAll (searchReads readsOn apart [] text)

theorem holdsIff (word text : List Char) : holds word text = true ↔ word <:+: text := by
  induction text with
  | nil => simp [holds]
  | cons c text ih => rw [holds, Bool.or_eq_true, ih, List.isPrefixOf_iff_prefix, List.infix_cons_iff]

end HouseStyle.Text
