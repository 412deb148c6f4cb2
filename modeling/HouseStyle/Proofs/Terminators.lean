import HouseStyle.Check.VariableNames
import HouseStyle.Proofs.Declarators
import HouseStyle.Proofs.Search

/-! The search for variables finds one name for each sign that ends a declarator, and misses none. A
declarator holds no such sign, so between two signs at most one is read; which of several places it is
read from makes no difference to its name. -/
namespace HouseStyle.VariableNames
open Text Declaration

def EndsIn (before : List Char) (name : String) : Prop :=
  ∃ front word, before.reverse = front ++ word ∧ Declarator variableTypes word name ∧
    atWordStart front.reverse = true

inductive Ended : (before text : List Char) → List String → Prop where
  | nil (before) : Ended before [] []
  | name {before c text name names} (sign : isTerminator c = true) (ends : EndsIn before name)
      (later : Ended (c :: before) text names) : Ended before (c :: text) (name :: names)
  | other {before c text names} (sign : isTerminator c = true) (none : ∀ name, ¬ EndsIn before name)
      (later : Ended (c :: before) text names) : Ended before (c :: text) names
  | inside {before c text names} (sign : isTerminator c = false)
      (later : Ended (c :: before) text names) : Ended before (c :: text) names

theorem endsInUnique {before : List Char} {a b : String} (left : EndsIn before a)
    (right : EndsIn before b) : a = b := by
  obtain ⟨front, word, split, valid, _⟩ := left
  obtain ⟨front', word', split', valid', _⟩ := right
  have first := declaratorName valid front
  have second := declaratorName valid' front'
  rw [← split] at first
  rw [← split'] at second
  exact String.toList_inj.mp (first.trans second.symm)

theorem endedAcross {stretch : List Char} (free : SignFree stretch)
    {before text : List Char} {names : List String}
    (later : Ended (stretch.reverse ++ before) text names) : Ended before (stretch ++ text) names := by
  induction stretch generalizing before with
  | nil => exact later
  | cons c stretch ih =>
    rw [List.reverse_cons, List.append_assoc] at later
    refine .inside (free c List.mem_cons_self) ?_
    exact ih (fun d member => free d (List.mem_cons_of_mem _ member)) later

theorem variableIff (before text : List Char) (name : String) (rest : List Char) :
    variableDeclaration before text = some (name, rest) ↔
      (∃ word stop, text = word ++ stop :: rest ∧ Declarator variableTypes word name ∧
        isTerminator stop = true) ∧ atWordStart before = true := by
  rw [← declaratorIff variableTypesPrefixFree, variableDeclaration, guardIf]
  cases atWordStart before <;> cases declarator variableTypes text <;> simp

theorem firstSign (text : List Char) :
    SignFree text ∨
      ∃ stretch stop rest, text = stretch ++ stop :: rest ∧ SignFree stretch ∧
        isTerminator stop = true := by
  induction text with
  | nil => exact Or.inl (by simp [SignFree])
  | cons c text ih =>
    cases sign : isTerminator c with
    | true => exact Or.inr ⟨[], c, text, rfl, by simp [SignFree], sign⟩
    | false =>
      rcases ih with free | ⟨stretch, stop, rest, rfl, free, ends⟩
      · exact Or.inl (by simpa [SignFree, sign] using free)
      · exact Or.inr ⟨c :: stretch, stop, rest, rfl, by simpa [SignFree, sign] using free, ends⟩

theorem signUnique {left right : List Char} {stop stop' : Char} {rest rest' : List Char}
    (same : left ++ stop :: rest = right ++ stop' :: rest')
    (freeLeft : SignFree left) (freeRight : SignFree right)
    (ends : isTerminator stop = true) (ends' : isTerminator stop' = true) :
    left = right ∧ stop = stop' ∧ rest = rest' := by
  induction left generalizing right with
  | nil =>
    cases right with
    | nil => simpa using same
    | cons c right =>
      obtain ⟨rfl, _⟩ := List.cons.inj same
      exact absurd ((freeRight stop List.mem_cons_self).symm.trans ends) Bool.false_ne_true
  | cons c left ih =>
    cases right with
    | nil =>
      obtain ⟨rfl, _⟩ := List.cons.inj same
      exact absurd ((freeLeft c List.mem_cons_self).symm.trans ends') Bool.false_ne_true
    | cons d right =>
      obtain ⟨rfl, tails⟩ := List.cons.inj same
      obtain ⟨rfl, last⟩ := ih tails (fun e member => freeLeft e (List.mem_cons_of_mem _ member))
        (fun e member => freeRight e (List.mem_cons_of_mem _ member))
      exact ⟨rfl, last⟩

/- A search that starts afresh, at the start of the text or right behind a sign, sees every declarator
that ends at the next sign. -/
def Fresh (before : List Char) : Prop := ∀ c, before.head? = some c → isTerminator c = true

theorem endsInStretch {before stretch : List Char} (fresh : Fresh before) {name : String}
    (ends : EndsIn (stretch.reverse ++ before) name) :
    ∃ front word, stretch = front ++ word ∧ Declarator variableTypes word name ∧
      atWordStart (front.reverse ++ before) = true := by
  obtain ⟨front, word, split, valid, starts⟩ := ends
  rw [List.reverse_append, List.reverse_reverse] at split
  rcases List.append_eq_append_iff.mp split with ⟨more, rfl, inside⟩ | ⟨more, whole, inside⟩
  · refine ⟨more, word, inside, valid, ?_⟩
    rwa [List.reverse_append, List.reverse_reverse] at starts
  · have backwards : before = more.reverse ++ front.reverse := by
      rw [← List.reverse_append, ← whole, List.reverse_reverse]
    cases reach : more.reverse with
    | nil =>
      have empty := List.reverse_eq_nil_iff.mp reach
      rw [reach] at backwards
      rw [empty] at inside
      exact ⟨[], word, inside.symm, valid, by rw [backwards]; exact starts⟩
    | cons c left =>
      -- the declarator would reach over the sign in front of the stretch
      have sign : isTerminator c = true := fresh c (by rw [backwards, reach]; rfl)
      have member : c ∈ more := List.mem_reverse.mp (by rw [reach]; exact List.mem_cons_self)
      have free := declaratorFree valid c (by rw [inside]; exact List.mem_append_left _ member)
      rw [sign] at free
      contradiction

theorem noSignNothing {text : List Char} (free : SignFree text)
    (before : List Char) : occurrencesFrom variableDeclaration before 0 text = [] := by
  have barren : Barren variableDeclaration before text [] := by
    intro front back split _
    cases read : variableDeclaration (front.reverse ++ before) (back ++ []) with
    | none => rfl
    | some found =>
      obtain ⟨⟨word, last, whole, _, ends⟩, _⟩ := (variableIff _ _ found.1 found.2).mp read
      rw [List.append_nil] at whole
      have inside := free last (by rw [split, whole]; simp)
      rw [ends] at inside
      contradiction
  have nothing := occurrencesMiss barren
  rwa [List.append_nil] at nothing

theorem barrenEnds {before stretch : List Char} {stop : Char} {rest : List Char} (fresh : Fresh before)
    (sign : isTerminator stop = true)
    (barren : Barren variableDeclaration before (stretch ++ [stop]) rest) (name : String) :
    ¬ EndsIn (stretch.reverse ++ before) name := by
  intro ends
  obtain ⟨front, word, rfl, valid, starts⟩ := endsInStretch fresh ends
  have read : variableDeclaration (front.reverse ++ before) ((word ++ [stop]) ++ rest) =
      some (name, rest) :=
    (variableIff _ _ _ _).mpr ⟨⟨word, stop, by simp, valid, sign⟩, starts⟩
  have missed := barren front (word ++ [stop]) (by simp) (by simp)
  rw [read] at missed
  contradiction

theorem readingEnds {before stretch : List Char} {stop : Char} {rest front back left : List Char}
    {name : String} (free : SignFree stretch) (sign : isTerminator stop = true)
    (split : stretch ++ [stop] = front ++ back) (nonempty : back ≠ [])
    (read : variableDeclaration (front.reverse ++ before) (back ++ rest) = some (name, left)) :
    left = rest ∧ EndsIn (stretch.reverse ++ before) name := by
  obtain ⟨⟨word, stop', whole, valid, sign'⟩, starts⟩ := (variableIff _ _ _ _).mp read
  obtain ⟨start, last, rfl⟩ : ∃ start last, back = start ++ [last] :=
    ⟨back.dropLast, back.getLast nonempty, (List.dropLast_concat_getLast nonempty).symm⟩
  rw [← List.append_assoc] at split
  obtain ⟨rfl, same⟩ := List.append_inj' split rfl
  cases same
  rw [List.append_assoc, List.singleton_append] at whole
  obtain ⟨rfl, _, rfl⟩ := signUnique whole
    (fun c member => free c (List.mem_append_right _ member)) (declaratorFree valid) sign sign'
  refine ⟨rfl, before.reverse ++ front, start, ?_, valid, ?_⟩
  · simp
  · rwa [List.reverse_append, List.reverse_reverse]

theorem searchEnded (size : Nat) (before text : List Char) (bound : text.length ≤ size)
    (fresh : Fresh before) :
    Ended before text ((occurrencesFrom variableDeclaration before 0 text).map (·.value)) := by
  induction size generalizing before text with
  | zero =>
    cases List.length_eq_zero_iff.mp (Nat.le_zero.mp bound)
    exact .nil before
  | succ size ih =>
    rcases firstSign text with free | ⟨stretch, stop, rest, rfl, free, sign⟩
    · have across := endedAcross free (Ended.nil (text.reverse ++ before))
      rw [List.append_nil] at across
      rw [noSignNothing free]
      exact across
    · have later := ih (stop :: (stretch.reverse ++ before)) rest
        (by simp only [List.length_append, List.length_cons] at bound; omega)
        (fun c head => by cases Option.some.inj head; exact sign)
      have whole : stretch ++ stop :: rest = (stretch ++ [stop]) ++ rest := by simp
      have turned : (stretch ++ [stop]).reverse ++ before = stop :: (stretch.reverse ++ before) := by
        simp
      refine endedAcross free ?_
      rw [whole]
      rcases firstReading variableDeclaration before (stretch ++ [stop]) rest with
        barren | ⟨front, back, name, left, split, nonempty, barren, read⟩
      · rw [occurrencesMiss barren, turned]
        exact .other sign (barrenEnds fresh sign barren) later
      · obtain ⟨rfl, ends⟩ := readingEnds free sign split nonempty read
        have onwards : back.reverse ++ (front.reverse ++ before) =
            stop :: (stretch.reverse ++ before) := by
          rw [← turned, split, List.reverse_append, List.append_assoc]
        rw [split, List.append_assoc, occurrencesMiss barren, occurrencesHit read nonempty, onwards]
        exact .name sign ends later

theorem declaredEnded (text : List Char) : Ended [] text (declared text) :=
  searchEnded text.length [] text (Nat.le_refl _) (fun c head => by cases head)

theorem endedAppend {before left right : List Char} {names : List String}
    (ended : Ended before (left ++ right) names) :
    ∃ first second, names = first ++ second ∧ Ended before left first ∧
      Ended (left.reverse ++ before) right second := by
  induction left generalizing before names with
  | nil => exact ⟨[], names, rfl, .nil before, ended⟩
  | cons c left ih =>
    rw [List.reverse_cons, List.append_assoc]
    cases ended with
    | name sign ends later =>
      obtain ⟨first, second, rfl, start, last⟩ := ih later
      exact ⟨_ :: first, second, rfl, .name sign ends start, last⟩
    | other sign none later =>
      obtain ⟨first, second, rfl, start, last⟩ := ih later
      exact ⟨first, second, rfl, .other sign none start, last⟩
    | inside sign later =>
      obtain ⟨first, second, rfl, start, last⟩ := ih later
      exact ⟨first, second, rfl, .inside sign start, last⟩

theorem endedHolds {before left : List Char} {stop : Char} {right : List Char} {names : List String}
    (ended : Ended before (left ++ stop :: right) names) (sign : isTerminator stop = true)
    {name : String} (ends : EndsIn (left.reverse ++ before) name) : name ∈ names := by
  obtain ⟨first, second, rfl, _, last⟩ := endedAppend ended
  cases last with
  | name _ here _ =>
    rw [endsInUnique ends here]
    simp
  | other _ none _ => exact absurd ends (none name)
  | inside inside _ => rw [sign] at inside; contradiction

end HouseStyle.VariableNames
