import HouseStyle.Declaration
import HouseStyle.Text.Line

/-! What the readers of a text accept, said without reading: each takes the text apart in the one way
that its shape allows. The character classes are disjoint where one reader leaves off and the next
begins, so greedy reading loses nothing. -/
namespace HouseStyle.Text

def Past (p : Char → Bool) (text : List Char) : Prop := ∀ c, text.head? = some c → p c = false

def All (p : Char → Bool) (text : List Char) : Prop := ∀ c ∈ text, p c = true

theorem pastCons {p : Char → Bool} {c : Char} (text : List Char) (outside : p c = false) :
    Past p (c :: text) := by
  intro head same
  cases Option.some.inj same
  exact outside

theorem dropWhilePast (p : Char → Bool) (text : List Char) : Past p (text.dropWhile p) := by
  intro c head
  have outside := List.head?_dropWhile_not p text
  rw [head] at outside
  simpa using outside

theorem dropWhileRun {p : Char → Bool} {run rest : List Char} (all : All p run) (past : Past p rest) :
    (run ++ rest).dropWhile p = rest := by
  rw [List.dropWhile_append_of_pos all]
  cases rest with
  | nil => rfl
  | cons c rest => exact List.dropWhile_cons_of_neg (by simp [past c rfl])

theorem takeWhileRun {p : Char → Bool} {run rest : List Char} (all : All p run) (past : Past p rest) :
    (run ++ rest).takeWhile p = run := by
  rw [List.takeWhile_append_of_pos all]
  cases rest with
  | nil => simp
  | cons c rest => simp [past c rfl]

theorem takeWhileAll (p : Char → Bool) (text : List Char) : All p (text.takeWhile p) := by
  intro c member
  exact List.all_eq_true.mp List.all_takeWhile c member

theorem guardIf (condition : Bool) :
    (guard (condition = true) : Option Unit) = if condition then some () else none := by
  cases condition <;> rfl

theorem literalIff (word text rest : List Char) :
    literal word text = some rest ↔ text = word ++ rest := by
  induction word generalizing text with
  | nil => simp [literal, eq_comm]
  | cons w word ih =>
    cases text with
    | nil => simp [literal]
    | cons c text =>
      by_cases same : w = c
      · simp [literal, same, ih]
      · simp [literal, same, Ne.symm same]

theorem blanksSplit (text : List Char) :
    ∃ gap, text = gap ++ blanks text ∧ All isBlank gap ∧ Past isBlank (blanks text) :=
  ⟨text.takeWhile isBlank, (List.takeWhile_append_dropWhile).symm, takeWhileAll isBlank text,
    dropWhilePast isBlank text⟩

theorem someBlanksIff (text rest : List Char) :
    someBlanks text = some rest ↔
      ∃ gap, text = gap ++ rest ∧ gap ≠ [] ∧ All isBlank gap ∧ Past isBlank rest := by
  constructor
  · intro read
    cases text with
    | nil => cases read
    | cons c text =>
      simp only [someBlanks] at read
      split at read <;> try contradiction
      rename_i blank
      cases Option.some.inj read
      obtain ⟨gap, split, all, past⟩ := blanksSplit text
      refine ⟨c :: gap, by rw [List.cons_append, ← split], by simp, ?_, past⟩
      intro d member
      rcases List.mem_cons.mp member with rfl | inside
      · exact blank
      · exact all d inside
  · rintro ⟨gap, rfl, some, all, past⟩
    cases gap with
    | nil => contradiction
    | cons c gap =>
      have blank : isBlank c = true := all c List.mem_cons_self
      have more : All isBlank gap := fun d member => all d (List.mem_cons_of_mem _ member)
      simp only [List.cons_append, someBlanks, if_pos blank, blanks, dropWhileRun more past]

structure Named (first more : Char → Bool) (name : String) : Prop where
  shape : ∃ c rest, name.toList = c :: rest ∧ first c = true ∧ All more rest

theorem runIff (first more : Char → Bool) (text : List Char) (name : String) (rest : List Char) :
    run first more text = some (name, rest) ↔
      text = name.toList ++ rest ∧ Named first more name ∧ Past more rest := by
  constructor
  · intro read
    cases text with
    | nil => cases read
    | cons c text =>
      simp only [run] at read
      split at read <;> try contradiction
      rename_i starts
      cases Option.some.inj read
      refine ⟨?_, ⟨c, text.takeWhile more, String.toList_ofList, starts, takeWhileAll more text⟩,
        dropWhilePast more text⟩
      rw [String.toList_ofList, List.cons_append, List.takeWhile_append_dropWhile]
  · rintro ⟨rfl, ⟨c, tail, spelled, starts, all⟩, past⟩
    have whole : String.ofList (c :: tail) = name := by rw [← spelled, String.ofList_toList]
    rw [spelled, List.cons_append]
    simp only [run, if_pos starts, takeWhileRun all past, dropWhileRun all past, whole]

theorem singleIff (p : Char → Bool) (text rest : List Char) :
    single p text = some rest ↔ ∃ c, text = c :: rest ∧ p c = true := by
  constructor
  · intro read
    cases text with
    | nil => cases read
    | cons c text =>
      simp only [single] at read
      split at read <;> try contradiction
      cases Option.some.inj read
      exact ⟨c, rfl, by assumption⟩
  · rintro ⟨c, rfl, fits⟩
    exact if_pos fits

theorem trimSplit (text : List Char) :
    ∃ lead tail, text = lead ++ (trim text ++ tail) ∧ All isBlank lead := by
  have front : text = text.takeWhile isBlank ++ trimStart text :=
    (List.takeWhile_append_dropWhile).symm
  have back : trimStart text =
      trim text ++ ((trimStart text).reverse.takeWhile isBlank).reverse := by
    rw [trim, trimEnd, ← List.reverse_append, List.takeWhile_append_dropWhile, List.reverse_reverse]
  refine ⟨text.takeWhile isBlank, ((trimStart text).reverse.takeWhile isBlank).reverse, ?_,
    takeWhileAll isBlank text⟩
  rw [← back]
  exact front

theorem linesStep (text : List Char) (nonempty : text ≠ []) :
    ∃ line ending rest, text = line ++ (ending ++ rest) ∧ lines text = line :: lines rest ∧
      (ending = ['\n'] ∨ ending = ['\r', '\n'] ∨ ending = [] ∧ rest = []) := by
  induction text with
  | nil => contradiction
  | cons c text ih =>
    by_cases feed : c = '\n'
    · subst feed
      exact ⟨[], ['\n'], text, rfl, by simp [lines], Or.inl rfl⟩
    · by_cases both : c = '\r' ∧ text.head? = some '\n'
      · obtain ⟨rfl, head⟩ := both
        obtain ⟨rest, rfl⟩ : ∃ rest, text = '\n' :: rest := by
          cases text with
          | nil => cases head
          | cons d rest => cases Option.some.inj head; exact ⟨rest, rfl⟩
        exact ⟨[], ['\r', '\n'], rest, rfl, by simp [lines], Or.inr (Or.inl rfl)⟩
      · cases text with
        | nil => exact ⟨[c], [], [], rfl, by simp [lines, feed], Or.inr (Or.inr ⟨rfl, rfl⟩)⟩
        | cons d text =>
          obtain ⟨line, ending, rest, split, first, ends⟩ := ih (by simp)
          refine ⟨c :: line, ending, rest, by rw [split, List.cons_append], ?_, ends⟩
          rw [lines, if_neg feed, if_neg both, first]

end HouseStyle.Text
