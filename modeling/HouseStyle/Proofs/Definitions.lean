import HouseStyle.Proofs.Heads
import HouseStyle.Proofs.Places
import HouseStyle.Proofs.Windows
import Mathlib.Data.List.Infix

/-! Which functions are examined, said without a search. Parameters end at the first closing
parenthesis, so a text falls into segments between these, and a head belongs to the segment it stands
in. If a body starts behind the parenthesis that ends a segment, the leftmost head of the segment is
examined, and what is read behind that parenthesis belongs to no other head. -/
namespace HouseStyle.Declaration
open Text

variable {α : Type} {head : Shape α} {Head : List Char → List Char → α → Prop}

/- A closing parenthesis at `place` with the start of a body behind it. Its segment stands behind
`before`, which are the characters up to the parenthesis before it, nearest first. -/
structure Closing (text : List Char) (place : Nat) (before segment : List Char) : Prop where
  parts : ∃ after rest, text = before.reverse ++ (segment ++ ')' :: after) ∧
    place = before.length + segment.length ∧ Closes after rest
  unclosed : ')' ∉ segment
  previous : ∀ c, before.head? = some c → c = ')'

def HeadIn (Head : List Char → List Char → α → Prop) (before segment : List Char)
    (found : Occurrence α) : Prop :=
  ∃ front word inside, segment = front ++ (word ++ inside) ∧ found.before = front.reverse ++ before ∧
    Head found.before word found.value

structure Leftmost (Head : List Char → List Char → α → Prop) (before segment : List Char)
    (found : Occurrence α) : Prop where
  stands : HeadIn Head before segment found
  first : ∀ other, HeadIn Head before segment other → found.before.length ≤ other.before.length

def DefinedAt (Head : List Char → List Char → α → Prop) (text : List Char) (place : Nat)
    (found : Occurrence α) : Prop :=
  ∃ before segment, Closing text place before segment ∧ Leftmost Head before segment found

theorem leftmostUnique (recognised : Recognised head Head) {before segment : List Char}
    {one two : Occurrence α} (left : Leftmost Head before segment one)
    (right : Leftmost Head before segment two) : one = two := by
  obtain ⟨front, word, inside, split, place, said⟩ := left.stands
  obtain ⟨front', word', inside', split', place', said'⟩ := right.stands
  have lengths : front.length = front'.length := by
    have below := left.first two right.stands
    have above := right.first one left.stands
    simp only [place, place', List.length_append, List.length_reverse] at below above
    omega
  obtain ⟨rfl, behind⟩ := List.append_inj (split.symm.trans split') lengths
  have same : one.before = two.before := place.trans place'.symm
  have read := (recognised.reads one.before (word ++ inside) _ inside).mpr ⟨word, rfl, said⟩
  have read' := (recognised.reads two.before (word' ++ inside') _ inside').mpr ⟨word', rfl, said'⟩
  rw [same, behind, read'] at read
  have value : two.value = one.value := congrArg Prod.fst (Option.some.inj read)
  cases one
  cases two
  cases same
  cases value
  rfl

theorem headRead (recognised : Recognised head Head) {before segment after rest : List Char}
    {found : Occurrence α} (unclosed : ')' ∉ segment) (closes : Closes after rest)
    (stands : HeadIn Head before segment found) :
    ∃ front back, segment = front ++ back ∧ found.before = front.reverse ++ before ∧
      function head found.before (back ++ ')' :: after) = some (found.value, rest) := by
  obtain ⟨front, word, inside, rfl, place, said⟩ := stands
  have free : ')' ∉ inside := fun member => unclosed (by simp [member])
  refine ⟨front, word ++ inside, rfl, place, ?_⟩
  exact (functionIff recognised _ _ _ _).mpr ⟨word, inside, after, by simp, said, free, closes⟩

theorem readHead (recognised : Recognised head Head) {before front back after rest : List Char}
    {value : α} (unclosed : ')' ∉ front ++ back)
    (read : function head (front.reverse ++ before) (back ++ ')' :: after) = some (value, rest)) :
    HeadIn Head before (front ++ back) ⟨value, front.reverse ++ before⟩ ∧ Closes after rest := by
  obtain ⟨word, inside, behind, whole, said, free, closes⟩ := (functionIff recognised _ _ _ _).mp read
  have unclosedBack : ')' ∉ back := fun member => unclosed (List.mem_append_right _ member)
  have unclosedWord : ')' ∉ word ++ inside := by simp [recognised.unclosed said, free]
  rw [← List.append_assoc] at whole
  obtain ⟨rfl, rfl⟩ := closingUnique unclosedBack unclosedWord whole
  exact ⟨⟨front, word, inside, rfl, rfl, said⟩, closes⟩

theorem closingUnread (recognised : Recognised head Head) (before after : List Char) :
    function head before (')' :: after) = none := by
  cases read : function head before (')' :: after) with
  | none => rfl
  | some found =>
    have nothing : ')' ∉ ([] ++ [] : List Char) := by simp
    obtain ⟨⟨front, word, inside, empty, _, said⟩, _⟩ := readHead recognised nothing read
    obtain ⟨start, more, rfl, some, _⟩ := recognised.begins said
    simp [some] at empty

theorem searchPassesClosing (recognised : Recognised head Head) (before after : List Char) :
    occurrencesFrom (function head) before 0 (')' :: after) =
      occurrencesFrom (function head) (')' :: before) 0 after := by
  rw [occurrencesFrom, closingUnread recognised]

theorem barrenHeadless (recognised : Recognised head Head) {before segment after rest : List Char}
    (unclosed : ')' ∉ segment) (barren : Barren (function head) before segment (')' :: after))
    (closes : Closes after rest) (found : Occurrence α) : ¬ HeadIn Head before segment found := by
  intro stands
  obtain ⟨front, back, split, place, read⟩ := headRead recognised unclosed closes stands
  rw [place] at read
  cases back with
  | nil =>
    rw [List.nil_append, closingUnread recognised] at read
    contradiction
  | cons c back =>
    rw [barren front (c :: back) split (by simp)] at read
    contradiction

theorem readingLeftmost (recognised : Recognised head Head) {before front back after rest : List Char}
    {value : α} (unclosed : ')' ∉ front ++ back)
    (barren : Barren (function head) before front (back ++ ')' :: after))
    (read : function head (front.reverse ++ before) (back ++ ')' :: after) = some (value, rest)) :
    Leftmost Head before (front ++ back) ⟨value, front.reverse ++ before⟩ := by
  obtain ⟨stands, closes⟩ := readHead recognised unclosed read
  refine ⟨stands, fun other elsewhere => Nat.le_of_not_lt fun earlier => ?_⟩
  obtain ⟨front', back', split, place, read'⟩ := headRead recognised unclosed closes elsewhere
  rw [place] at earlier read'
  simp only [List.length_append, List.length_reverse] at earlier
  rcases List.append_eq_append_iff.mp split with ⟨more, rfl, _⟩ | ⟨more, rfl, rfl⟩
  · simp only [List.length_append] at earlier
    omega
  · have some : more ≠ [] := by
      rintro rfl
      simp at earlier
    rw [List.append_assoc, barren front' more rfl some] at read'
    contradiction

/- One segment. Behind its closing parenthesis the search may as well start afresh. -/
theorem segmentStep (recognised : Recognised head Head) (before : List Char) {segment : List Char}
    (unclosed : ')' ∉ segment) (after : List Char) :
    ∃ found : Option (Occurrence α),
      occurrencesFrom (function head) before 0 (segment ++ ')' :: after) =
        found.toList ++ occurrencesFrom (function head) (')' :: (segment.reverse ++ before)) 0 after ∧
      ∀ value, found = some value ↔
        (∃ rest, Closes after rest) ∧ Leftmost Head before segment value := by
  rcases firstReading (function head) before segment (')' :: after) with
    barren | ⟨front, back, value, rest, rfl, some, barren, read⟩
  · refine ⟨none, ?_, fun value => iff_of_false (by simp) ?_⟩
    · rw [occurrencesMiss barren, searchPassesClosing recognised]
      rfl
    · rintro ⟨⟨rest, closes⟩, leftmost⟩
      exact barrenHeadless recognised unclosed barren closes value leftmost.stands
  · have leftmost := readingLeftmost recognised unclosed barren read
    have closes := (readHead recognised unclosed read).2
    refine ⟨Option.some ⟨value, front.reverse ++ before⟩, ?_, fun other => ⟨?_, ?_⟩⟩
    · obtain ⟨span, rfl, idle⟩ :=
        spanBarren recognised closes (')' :: ((front ++ back).reverse ++ before))
      have whole : back ++ ')' :: (span ++ rest) = (back ++ ')' :: span) ++ rest := by simp
      have onwards : (back ++ ')' :: span).reverse ++ (front.reverse ++ before) =
          span.reverse ++ ')' :: ((front ++ back).reverse ++ before) := by simp
      rw [whole] at read
      rw [occurrencesMiss idle, List.append_assoc, occurrencesMiss barren, whole,
        occurrencesHit read (by simp), onwards]
      rfl
    · rintro ⟨⟩
      exact ⟨⟨rest, closes⟩, leftmost⟩
    · rintro ⟨_, other⟩
      rw [leftmostUnique recognised leftmost other]

theorem definedAtClosing {text : List Char} {place : Nat} {found : Occurrence α}
    (defined : DefinedAt Head text place found) : text[place]? = some ')' := by
  obtain ⟨before, segment, ⟨⟨after, rest, rfl, rfl, _⟩, _⟩, _⟩ := defined
  rw [← List.append_assoc]
  have place : (before.reverse ++ segment).length = before.length + segment.length := by simp
  rw [← place]
  simp

theorem segmentUnique {before before' segment segment' after after' : List Char}
    (previous : ∀ c, before.head? = some c → c = ')') (unclosed : ')' ∉ segment)
    (previous' : ∀ c, before'.head? = some c → c = ')') (unclosed' : ')' ∉ segment')
    (place : before.length + segment.length = before'.length + segment'.length)
    (same : before.reverse ++ (segment ++ ')' :: after) = before'.reverse ++ (segment' ++ ')' :: after')) :
    before = before' ∧ segment = segment' ∧ after = after' := by
  rw [← List.append_assoc, ← List.append_assoc] at same
  obtain ⟨fronts, tails⟩ := List.append_inj same (by simpa using place)
  have backwards : segment.reverse ++ before = segment'.reverse ++ before' := by
    simpa using congrArg List.reverse fronts
  have stops {before : List Char} (previous : ∀ c, before.head? = some c → c = ')') :
      Past (· != ')') before := fun c head => by rw [previous c head]; rfl
  have runs {segment : List Char} (unclosed : ')' ∉ segment) : All (· != ')') segment.reverse :=
    fun c member => (unclosedIff _).mp unclosed c (List.mem_reverse.mp member)
  have segments := takeWhileRun (runs unclosed) (stops previous)
  have rests := dropWhileRun (runs unclosed) (stops previous)
  rw [backwards, takeWhileRun (runs unclosed') (stops previous')] at segments
  rw [backwards, dropWhileRun (runs unclosed') (stops previous')] at rests
  exact ⟨rests.symm, (List.reverse_injective segments).symm, (List.cons.inj tails).2⟩

theorem definedAtIff {before segment : List Char} (previous : ∀ c, before.head? = some c → c = ')')
    (unclosed : ')' ∉ segment) (after : List Char) (found : Occurrence α) :
    DefinedAt Head (before.reverse ++ (segment ++ ')' :: after)) (before.length + segment.length) found ↔
      (∃ rest, Closes after rest) ∧ Leftmost Head before segment found := by
  constructor
  · rintro ⟨before', segment', ⟨⟨after', rest, split, place, closes⟩, unclosed', previous'⟩, leftmost⟩
    obtain ⟨rfl, rfl, rfl⟩ := segmentUnique previous unclosed previous' unclosed' place split
    exact ⟨⟨rest, closes⟩, leftmost⟩
  · rintro ⟨⟨rest, closes⟩, leftmost⟩
    exact ⟨before, segment, ⟨⟨after, rest, rfl, rfl, closes⟩, unclosed, previous⟩, leftmost⟩

theorem stretchUndefined {before stretch rest : List Char} (unclosed : ')' ∉ stretch) {place : Nat}
    (reached : before.length ≤ place) (short : place < before.length + stretch.length)
    (found : Occurrence α) : ¬ DefinedAt Head (before.reverse ++ (stretch ++ rest)) place found := by
  intro defined
  have there := definedAtClosing defined
  rw [List.getElem?_append_right (by simpa using reached), List.length_reverse,
    List.getElem?_append_left (by omega)] at there
  exact unclosed (List.mem_of_getElem? there)

theorem searchUnclosed (recognised : Recognised head Head) {text : List Char} (unclosed : ')' ∉ text)
    (before : List Char) : occurrencesFrom (function head) before 0 text = [] := by
  have barren : Barren (function head) before text [] := by
    intro front back split _
    cases read : function head (front.reverse ++ before) (back ++ []) with
    | none => rfl
    | some found =>
      obtain ⟨word, inside, after, whole, _⟩ := (functionIff recognised _ _ found.1 found.2).mp read
      rw [List.append_nil] at whole
      exact absurd (by simp [split, whole]) unclosed
  have nothing := occurrencesMiss barren
  rwa [List.append_nil] at nothing

theorem unclosedListed (recognised : Recognised head Head) (before : List Char) {text : List Char}
    (unclosed : ')' ∉ text) :
    ListedFrom before.length (DefinedAt Head (before.reverse ++ text))
      (occurrencesFrom (function head) before 0 text) := by
  rw [searchUnclosed recognised unclosed]
  refine listedNone fun place found reached defined => ?_
  have inside : place < (before.reverse ++ text).length :=
    (List.getElem?_eq_some_iff.mp (definedAtClosing defined)).1
  rw [List.length_append, List.length_reverse] at inside
  rw [← List.append_nil text] at defined
  exact stretchUndefined unclosed reached inside found defined

theorem searchDefined (recognised : Recognised head Head) (size : Nat) (before text : List Char)
    (bound : text.length ≤ size) (previous : ∀ c, before.head? = some c → c = ')') :
    ListedFrom before.length (DefinedAt Head (before.reverse ++ text))
      (occurrencesFrom (function head) before 0 text) := by
  induction size generalizing before text with
  | zero =>
    cases List.length_eq_zero_iff.mp (Nat.le_zero.mp bound)
    exact unclosedListed recognised before (by simp)
  | succ size ih =>
    by_cases closing : ')' ∈ text
    · obtain ⟨segment, after, rfl, unclosed⟩ := List.eq_append_cons_of_mem closing
      obtain ⟨found, search, here⟩ := segmentStep recognised before unclosed after
      have later := ih (')' :: (segment.reverse ++ before)) after
        (by simp only [List.length_append, List.length_cons] at bound; omega)
        (fun c head => (Option.some.inj head).symm)
      have place : (')' :: (segment.reverse ++ before)).length =
          before.length + segment.length + 1 := by
        simp only [List.length_cons, List.length_append, List.length_reverse]
        omega
      have whole : (')' :: (segment.reverse ++ before)).reverse ++ after =
          before.reverse ++ (segment ++ ')' :: after) := by simp
      rw [place, whole] at later
      rw [search]
      refine listedSkip (Nat.le_add_right _ segment.length)
        (fun other value reached short => stretchUndefined unclosed reached short value) ?_
      exact listedStep (fun value => (here value).trans (definedAtIff previous unclosed after value).symm)
        later
    · exact unclosedListed recognised before closing

structure OnePerClosing (Head : List Char → List Char → α → Prop) (text : List Char)
    (found : List (Occurrence α)) : Prop where
  listed : Listed (DefinedAt Head text) found
  every : ∀ place before segment other, Closing text place before segment →
    HeadIn Head before segment other → ∃ first, DefinedAt Head text place first

theorem searchPerClosing (recognised : Recognised head Head) (text : List Char) :
    OnePerClosing Head text (occurrences (function head) text) where
  listed := listedAll (searchDefined recognised text.length [] text (Nat.le_refl _) (by simp))
  every place before segment other closing stands := by
    obtain ⟨⟨after, rest, rfl, rfl, closes⟩, unclosed, previous⟩ := closing
    rcases firstReading (function head) before segment (')' :: after) with
      barren | ⟨front, back, value, left, rfl, _, barren, read⟩
    · exact absurd stands (barrenHeadless recognised unclosed barren closes other)
    · exact ⟨_, (definedAtIff previous unclosed after _).mpr
        ⟨⟨rest, closes⟩, readingLeftmost recognised unclosed barren read⟩⟩

end HouseStyle.Declaration

namespace HouseStyle.FunctionNames
open Text Declaration Naming

abbrev LowerSnake (name : String) : Prop :=
  Named Char.isLower (fun c => c.isLower || c.isDigit || c == '_') name

def constructorText (found : Occurrence Member) : String :=
  "constructor name '" ++ found.value.name ++ "' should match class name '" ++ found.value.owner ++ "'"

def memberText (found : Occurrence Member) : String :=
  "member function '" ++ found.value.name ++ "' should use lowercase with underscores"

def functionText (found : Occurrence String) : String := freeText found.value

def errorOf (file message : String) : Violation :=
  { check := "function-names", file, message, severity := .error }

theorem constructorsSaid (text : List Char) :
    constructorMessages text = ((occurrences (function constructorHead) text).filter fun found =>
      found.value.name ≠ found.value.owner).map constructorText :=
  saidFiltered (fun _ => Iff.rfl) constructorText _

theorem membersSaid (text : List Char) :
    memberMessages text = ((occurrences (function memberHead) text).filter fun found =>
      found.value.name ≠ found.value.owner ∧ ¬ LowerSnake found.value.name).map memberText := by
  refine saidFiltered (fun found => ?_) memberText _
  rw [Bool.or_eq_true, decide_eq_true_eq, not_or]
  exact and_congr_right fun _ => not_congr (shapedIff _ _ _)

theorem functionsSaid (width : Nat) (text : List Char) :
    freeMessages width text = ((occurrences (function freeHead) text).filter fun found =>
      ¬ colons <:+: (found.before.take width).reverse ∧ ¬ LowerSnake found.value).map
        functionText := by
  refine saidFiltered (fun found => ?_) functionText _
  rw [Bool.or_eq_true, not_or]
  exact and_congr (not_congr (holdsIff _ _)) (not_congr (shapedIff _ _ _))

theorem definitionsExamined (config : Config) (file : SourceFile) :
    let text := file.text.toList
    let constructors := occurrences (function constructorHead) text
    let members := occurrences (function memberHead) text
    let functions := occurrences (function freeHead) text
    OnePerClosing ConstructorHead text constructors ∧
    OnePerClosing MemberHead text members ∧
    OnePerClosing FreeHead text functions ∧
    rule.check.run config file =
      ((constructors.filter fun found => found.value.name ≠ found.value.owner).map constructorText ++
        (members.filter fun found => found.value.name ≠ found.value.owner ∧
          ¬ LowerSnake found.value.name).map memberText ++
        (functions.filter fun found =>
          ¬ colons <:+: (found.before.take config.scopeContextChars).reverse ∧
            ¬ LowerSnake found.value).map functionText).map (errorOf file.name) := by
  intro text constructors members functions
  refine ⟨searchPerClosing constructorRecognised text, searchPerClosing memberRecognised text,
    searchPerClosing freeRecognised text, ?_⟩
  rw [← constructorsSaid, ← membersSaid, ← functionsSaid]
  rfl

example : (occurrences (function freeHead) "int First(int Second() {} (x) std::string Third()const;".toList).map
    (·.value) = ["First", "Third"] := by
  decide +kernel

end HouseStyle.FunctionNames
