import HouseStyle.Check.ClassNames
import HouseStyle.Proofs.Shapes

/-! Which classes are examined. Every word `class` with a name behind it is a candidate; but where that
name is itself the word `class` of the next candidate, the search has read it as a name and does not
come back to it. So candidates form chains, and of each chain every second one is lost. -/
namespace HouseStyle.ClassNames
open Text Declaration Naming

def keyword : List Char := ['c', 'l', 'a', 's', 's']

/- A word `class` begins at `place`, and `name` is the longest name behind it and its blanks, at `spot`. -/
structure Candidate (text : List Char) (place : Nat) (name : String) (spot : Nat) : Prop where
  parts : ∃ front gap rest, text = front ++ (keyword ++ (gap ++ (name.toList ++ rest))) ∧
    place = front.length ∧ spot = (front ++ keyword ++ gap).length ∧
    atWordStart front.reverse = true ∧ gap ≠ [] ∧ All isBlank gap ∧ Past isIdentifierPart rest
  identifier : Identifier name

def Linked (text : List Char) (place next : Nat) : Prop :=
  Candidate text place "class" next ∧ ∃ name spot, Candidate text next name spot

inductive Numbered (text : List Char) : (place number : Nat) → Prop where
  | first {place name spot} (candidate : Candidate text place name spot)
      (unlinked : ∀ earlier, ¬ Linked text earlier place) : Numbered text place 1
  | next {place later number} (numbered : Numbered text place number)
      (linked : Linked text place later) : Numbered text later (number + 1)

structure Examined (text : List Char) (place : Nat) (name : String) : Prop where
  candidate : ∃ spot, Candidate text place name spot
  odd : ∃ number, Numbered text place number ∧ number % 2 = 1

theorem classIff (before text : List Char) (name : String) (rest : List Char) :
    classDeclaration before text = some (name, rest) ↔
      atWordStart before = true ∧ ∃ gap, text = keyword ++ (gap ++ (name.toList ++ rest)) ∧
        gap ≠ [] ∧ All isBlank gap ∧ Identifier name ∧ Past isIdentifierPart rest := by
  rw [← keywordIff, classDeclaration, guardIf]
  simp only [bind, Option.bind_eq_some_iff]
  constructor
  · rintro ⟨behind, began, _, starts, named⟩
    split at starts <;> try contradiction
    exact ⟨by assumption, behind, began, named⟩
  · rintro ⟨starts, behind, began, named⟩
    exact ⟨behind, began, (), if_pos starts, named⟩

theorem candidateIff (before text : List Char) (name : String) (spot : Nat) :
    Candidate (before.reverse ++ text) before.length name spot ↔
      ∃ rest, classDeclaration before text = some (name, rest) ∧
        spot + name.toList.length + rest.length = before.length + text.length := by
  constructor
  · rintro ⟨⟨front, gap, rest, split, place, rfl, starts, gapped, blank, past⟩, valid⟩
    obtain ⟨rfl, rfl⟩ := List.append_inj split (by rw [List.length_reverse, place])
    rw [List.reverse_reverse] at starts
    refine ⟨rest, (classIff _ _ _ _).mpr ⟨starts, gap, rfl, gapped, blank, valid, past⟩, ?_⟩
    simp only [List.length_append, List.length_reverse]
    omega
  · rintro ⟨rest, read, length⟩
    obtain ⟨starts, gap, rfl, gapped, blank, valid, past⟩ := (classIff _ _ _ _).mp read
    refine ⟨⟨before.reverse, gap, rest, rfl, by simp, ?_, by simpa using starts, gapped, blank, past⟩, valid⟩
    simp only [List.length_append, List.length_reverse] at length ⊢
    omega

theorem candidateSplit {text : List Char} {place : Nat} {name : String} {spot : Nat}
    (candidate : Candidate text place name spot) :
    ∃ before rest : List Char, text = before.reverse ++ rest ∧ place = before.length ∧ place < spot ∧
      spot < text.length := by
  obtain ⟨⟨front, gap, rest, rfl, rfl, rfl, _⟩, valid⟩ := candidate
  have letters := List.length_pos_iff.mpr (identifierParts valid).1
  refine ⟨front.reverse, _, by rw [List.reverse_reverse], by rw [List.length_reverse], ?_, ?_⟩
  · simp only [List.length_append, keyword, List.length_cons, List.length_nil]
    omega
  · simp only [List.length_append]
    omega

theorem candidateUnique {text : List Char} {place : Nat} {name other : String} {spot otherSpot : Nat}
    (one : Candidate text place name spot) (two : Candidate text place other otherSpot) :
    name = other ∧ spot = otherSpot := by
  obtain ⟨before, rest, rfl, rfl, _⟩ := candidateSplit one
  obtain ⟨left, read, length⟩ := (candidateIff ..).mp one
  obtain ⟨left', read', length'⟩ := (candidateIff ..).mp two
  cases Option.some.inj (read.symm.trans read')
  exact ⟨rfl, by omega⟩

theorem wordInside {front cut : List Char} (starts : atWordStart (front ++ cut).reverse = true)
    (words : All isWord cut) : cut = [] := by
  cases turned : cut.reverse with
  | nil => exact List.reverse_eq_nil_iff.mp turned
  | cons c rest =>
    have member : c ∈ cut := List.mem_reverse.mp (by rw [turned]; exact List.mem_cons_self)
    rw [List.reverse_append, turned, List.cons_append, atWordStart, words c member] at starts
    contradiction

theorem nameIsKeyword {name : String} {rest gap tail : List Char} (valid : Identifier name)
    (past : Past isIdentifierPart rest) (gapped : gap ≠ []) (blank : All isBlank gap)
    (same : name.toList ++ rest = keyword ++ (gap ++ tail)) : name = "class" := by
  have word : Identifier "class" := by decide +kernel
  have pastWord : Past isIdentifierPart (gap ++ tail) := by
    cases gap with
    | nil => contradiction
    | cons c gap => exact pastCons _ (blankClass (blank c List.mem_cons_self)).1
  have read := (runIff _ _ (name.toList ++ rest) name rest).mpr ⟨rfl, valid, past⟩
  have readWord := (runIff _ _ (name.toList ++ rest) "class" (gap ++ tail)).mpr ⟨same, word, pastWord⟩
  exact congrArg Prod.fst (Option.some.inj (read.symm.trans readWord))

theorem candidateInside {text : List Char} {place next : Nat} {name other : String} {spot far : Nat}
    (outer : Candidate text place name spot) (inner : Candidate text next other far)
    (further : place < next) (inside : next < spot + name.toList.length) :
    next = spot ∧ name = "class" := by
  obtain ⟨⟨front, gap, rest, rfl, rfl, rfl, _, _, blank, past⟩, valid⟩ := outer
  obtain ⟨⟨front', gap', rest', whole, rfl, rfl, starts, gapped, blank', _⟩, _⟩ := inner
  have letters : keyword.all isWord = true := by decide
  -- `cut` is what of the outer candidate stands before the inner one
  obtain ⟨cut, rfl, behind⟩ : ∃ cut, front' = front ++ cut ∧
      keyword ++ (gap ++ (name.toList ++ rest)) = cut ++ (keyword ++ (gap' ++ (other.toList ++ rest'))) := by
    rcases List.append_eq_append_iff.mp whole with longer | ⟨more, shorter, _⟩
    · exact longer
    · rw [shorter, List.length_append] at further
      omega
  clear whole
  rcases List.append_eq_append_iff.mp behind with ⟨more, rfl, later⟩ | ⟨more, short, _⟩
  · obtain rfl : more = gap := by
      rcases List.append_eq_append_iff.mp later with ⟨last, rfl, named⟩ | ⟨last, rfl, named⟩
      · -- the inner candidate begins in the name, where all but its first character follow a letter
        rcases List.append_eq_append_iff.mp named with ⟨beyond, rfl, _⟩ | ⟨beyond, spelled, _⟩
        · simp only [List.length_append] at inside
          omega
        · have words : All isWord last := fun c member =>
            partWord ((identifierParts valid).2 c (by rw [spelled]; exact List.mem_append_left _ member))
          have grouped : front ++ (keyword ++ (gap ++ last)) = front ++ keyword ++ gap ++ last := by simp
          rw [grouped] at starts
          rw [wordInside starts words, List.append_nil]
      · cases last with
        | nil => exact (List.append_nil more).symm
        | cons c last =>
          obtain ⟨rfl, _⟩ := List.cons.inj named
          have first := blank 'c' (by simp)
          contradiction
    exact ⟨by simp, nameIsKeyword valid past gapped blank' (List.append_cancel_left later)⟩
  · have none : cut = [] := wordInside starts fun c member =>
      List.all_eq_true.mp letters c (by rw [short]; exact List.mem_append_left _ member)
    simp [none] at further

theorem linkedFurther {text : List Char} {place next : Nat} (linked : Linked text place next) :
    place < next := by
  obtain ⟨_, _, _, _, further, _⟩ := candidateSplit linked.1
  exact further

theorem linkedInside {text : List Char} {place next other : Nat} {spot : Nat} {name : String}
    (linked : Linked text place next) (candidate : Candidate text other name spot)
    (further : place < other) : next ≤ other := by
  refine Nat.le_of_not_lt fun short => ?_
  have same := (candidateInside linked.1 candidate further (by omega)).1
  omega

theorem linkedUnique {text : List Char} {place other next : Nat} (one : Linked text place next)
    (two : Linked text other next) : place = other := by
  have first := linkedFurther one
  have second := linkedFurther two
  rcases Nat.lt_trichotomy place other with less | same | more
  · have := linkedInside one two.1 less
    omega
  · exact same
  · have := linkedInside two one.1 more
    omega

theorem numberedUnique {text : List Char} {place number other : Nat}
    (one : Numbered text place number) (two : Numbered text place other) : number = other := by
  induction one generalizing other with
  | first candidate unlinked =>
    cases two with
    | first => rfl
    | next _ linked => exact absurd linked (unlinked _)
  | next numbered linked ih =>
    cases two with
    | first _ unlinked => exact absurd linked (unlinked _)
    | next numbered' linked' =>
      cases linkedUnique linked linked'
      rw [ih numbered']

theorem numberedExists {text : List Char} {place : Nat} {name : String} {spot : Nat}
    (candidate : Candidate text place name spot) : ∃ number, Numbered text place number := by
  induction place using Nat.strongRecOn generalizing name spot with
  | ind place ih =>
    by_cases linked : ∃ earlier, Linked text earlier place
    · obtain ⟨earlier, linked⟩ := linked
      obtain ⟨number, numbered⟩ := ih earlier (linkedFurther linked) linked.1
      exact ⟨number + 1, .next numbered linked⟩
    · exact ⟨1, .first candidate fun earlier found => linked ⟨earlier, found⟩⟩

/- Where the search goes on at `start`, only an even-numbered candidate is linked across that place. -/
def Settled (text : List Char) (start : Nat) : Prop :=
  ∀ place next number, place < start → start ≤ next → Linked text place next →
    Numbered text place number → number % 2 = 0

theorem settledMiss {text : List Char} {start : Nat} (settled : Settled text start)
    (none : ∀ name spot, ¬ Candidate text start name spot) : Settled text (start + 1) := by
  intro place next number reached beyond linked numbered
  rcases Nat.lt_or_eq_of_le (Nat.le_of_lt_succ reached) with before | rfl
  · exact settled place next number before (by omega) linked numbered
  · exact absurd linked.1 (none _ _)

theorem settledOdd {text : List Char} {start number : Nat} (settled : Settled text start)
    (numbered : Numbered text start number) : number % 2 = 1 := by
  cases numbered with
  | first => rfl
  | @next place _ number numbered linked =>
    have even := settled place start number (linkedFurther linked) (Nat.le_refl _) linked numbered
    omega

theorem settledInside {text : List Char} {start : Nat} {name : String} {spot : Nat}
    (settled : Settled text start) (candidate : Candidate text start name spot) {place number : Nat}
    (further : start < place) (inside : place < spot + name.toList.length)
    (numbered : Numbered text place number) : number % 2 = 0 := by
  obtain ⟨other, far, found⟩ : ∃ other far, Candidate text place other far := by
    cases numbered with
    | first found => exact ⟨_, _, found⟩
    | next _ linked => exact linked.2
  obtain ⟨rfl, rfl⟩ := candidateInside candidate found further inside
  obtain ⟨first, firstNumbered⟩ := numberedExists candidate
  have odd := settledOdd settled firstNumbered
  have same := numberedUnique numbered (.next firstNumbered ⟨candidate, other, far, found⟩)
  omega

theorem settledHit {text : List Char} {start : Nat} {name : String} {spot : Nat}
    (settled : Settled text start) (candidate : Candidate text start name spot) :
    Settled text (spot + name.toList.length) := by
  intro place next number reached beyond linked numbered
  obtain ⟨_, _, _, _, further, _⟩ := candidateSplit candidate
  rcases Nat.lt_trichotomy place start with before | rfl | behind
  · exact settled place next number before (by omega) linked numbered
  · obtain ⟨rfl, rfl⟩ := candidateUnique candidate linked.1
    have letters := List.length_pos_iff.mpr (identifierParts candidate.identifier).1
    omega
  · exact settledInside settled candidate behind reached numbered

theorem readCandidate {before word rest : List Char} {name : String}
    (read : classDeclaration before (word ++ rest) = some (name, rest)) :
    ∃ spot, Candidate (before.reverse ++ (word ++ rest)) before.length name spot ∧
      spot + name.toList.length = before.length + word.length := by
  obtain ⟨starts, gap, whole, gapped, blank, valid, past⟩ := (classIff _ _ _ _).mp read
  have spelled : word = keyword ++ (gap ++ name.toList) :=
    List.append_cancel_right (whole.trans (by simp))
  refine ⟨(before.reverse ++ keyword ++ gap).length,
    ⟨⟨before.reverse, gap, rest, by rw [whole], by simp, rfl, by simpa using starts, gapped, blank,
      past⟩, valid⟩, ?_⟩
  rw [spelled]
  simp only [List.length_append, List.length_reverse]
  omega

theorem noCandidate {before text : List Char} (unread : classDeclaration before text = none)
    (name : String) (spot : Nat) : ¬ Candidate (before.reverse ++ text) before.length name spot := by
  intro candidate
  obtain ⟨rest, read, _⟩ := (candidateIff ..).mp candidate
  rw [unread] at read
  contradiction

theorem examinedHere {text : List Char} {start : Nat} {name : String} {spot : Nat}
    (settled : Settled text start) (candidate : Candidate text start name spot) (other : String) :
    some name = some other ↔ Examined text start other := by
  obtain ⟨number, numbered⟩ := numberedExists candidate
  constructor
  · intro same
    cases Option.some.inj same
    exact ⟨⟨spot, candidate⟩, number, numbered, settledOdd settled numbered⟩
  · rintro ⟨⟨far, found⟩, _⟩
    rw [(candidateUnique candidate found).1]

theorem unexaminedInside {text : List Char} {start : Nat} {name : String} {spot : Nat}
    (settled : Settled text start) (candidate : Candidate text start name spot) {place : Nat}
    (further : start < place) (inside : place < spot + name.toList.length) (other : String) :
    ¬ Examined text place other := by
  rintro ⟨_, number, numbered, odd⟩
  have even := settledInside settled candidate further inside numbered
  omega

theorem searchExamined (before text : List Char)
    (settled : Settled (before.reverse ++ text) before.length) :
    ListedFrom before.length (Examined (before.reverse ++ text))
      ((occurrencesFrom classDeclaration before 0 text).map (·.value)) := by
  refine searchInduction (motive := fun before text found =>
    Settled (before.reverse ++ text) before.length → ListedFrom before.length
      (Examined (before.reverse ++ text)) (found.map (·.value))) (readsOn classReads)
    ?none ?miss ?hit before text settled
  case none =>
    intro before _
    refine listedNone fun place name reached found => ?_
    obtain ⟨⟨spot, candidate⟩, _⟩ := found
    obtain ⟨_, _, _, _, further, inside⟩ := candidateSplit candidate
    rw [List.append_nil, List.length_reverse] at inside
    omega
  case miss =>
    intro before c text found unread later settled
    have here : ∀ name, none = some name ↔
        Examined (before.reverse ++ c :: text) before.length name :=
      fun name => iff_of_false (by simp) fun found =>
        noCandidate unread name _ found.candidate.choose_spec
    rw [List.reverse_cons, List.append_assoc] at later
    exact listedStep here (later (settledMiss settled (noCandidate unread)))
  case hit =>
    intro before word rest name found some read later settled
    obtain ⟨spot, candidate, reach⟩ := readCandidate read
    have wordLength := List.length_pos_iff.mpr some
    have ahead := settledHit settled candidate
    rw [reach] at ahead
    simp only [List.reverse_append, List.reverse_reverse, List.append_assoc, List.length_append,
      List.length_reverse, Nat.add_comm word.length] at later
    refine listedStep (examinedHere settled candidate) (listedSkip (by omega) ?_ (later ahead))
    exact fun place other further short =>
      unexaminedInside settled candidate further (by omega) other

def errorOf (file name : String) : Violation :=
  { check := "class-names"
    file
    message := "class name '" ++ name ++ "' should use upper camel case (no underscores)"
    severity := .error }

theorem classErrors (config : Config) (file : SourceFile) :
    rule.check.run config file =
      ((declared file.text.toList).filter fun name => ¬ Owner name).map (errorOf file.name) := by
  have either (name : String) : ¬ isUpperCamel name = true ↔ ¬ Owner name :=
    not_congr (shapedIff _ _ name)
  simp only [Rule.check, rule, saidFiltered either, List.map_map]
  rfl

theorem examinedOrLinked {text : List Char} {place : Nat} {name : String} {spot : Nat}
    (candidate : Candidate text place name spot) :
    Examined text place name ∨
      ∃ earlier, Examined text earlier "class" ∧ Linked text earlier place := by
  obtain ⟨number, numbered⟩ := numberedExists candidate
  cases numbered with
  | first found unlinked => exact Or.inl ⟨⟨spot, candidate⟩, 1, .first found unlinked, rfl⟩
  | @next earlier _ number numbered linked =>
    rcases Nat.mod_two_eq_zero_or_one number with even | odd
    · exact Or.inl ⟨⟨spot, candidate⟩, number + 1, .next numbered linked, by omega⟩
    · exact Or.inr ⟨earlier, ⟨⟨place, linked.1⟩, number, numbered, odd⟩, linked⟩

theorem classesExamined (config : Config) (file : SourceFile) :
    let text := file.text.toList
    Listed (Examined text) (declared text) ∧
    rule.check.run config file =
      ((declared text).filter fun name => ¬ Owner name).map (errorOf file.name) ∧
    ∀ place name spot, Candidate text place name spot →
      (∃ number, ∀ other, Numbered text place other ↔ other = number) ∧
      (Examined text place name ∨
        ∃ earlier, Examined text earlier "class" ∧ Linked text earlier place) := by
  intro text
  have settled : Settled text 0 := fun place next number reached => absurd reached (Nat.not_lt_zero _)
  refine ⟨listedAll (searchExamined [] text settled),
    classErrors config file, ?_⟩
  intro place name spot candidate
  obtain ⟨number, numbered⟩ := numberedExists candidate
  refine ⟨⟨number, fun other => ⟨fun found => numberedUnique found numbered, ?_⟩⟩,
    examinedOrLinked candidate⟩
  rintro rfl
  exact numbered

theorem classesExaminedSample :
    let file : SourceFile := ⟨"a.h", "class class\nclass foo_bar;"⟩
    let text := file.text.toList
    Candidate text 6 "class" 12 ∧ declared text = ["class", "foo_bar"] ∧
    rule.check.run {} file = [errorOf "a.h" "class", errorOf "a.h" "foo_bar"] ∧
    (∃ number, ∀ other, Numbered text 6 other ↔ other = number) ∧
    (Examined text 6 "class" ∨ ∃ earlier, Examined text earlier "class" ∧ Linked text earlier 6) := by
  intro file text
  have feed : All isBlank ['\n'] := by simp [All]; rfl
  have middle : Candidate text 6 "class" 12 :=
    ⟨⟨"class ".toList, ['\n'], ' ' :: "foo_bar;".toList, by decide +kernel, by decide +kernel,
      by decide +kernel, by decide +kernel, by simp, feed, pastCons _ rfl⟩, by decide +kernel⟩
  obtain ⟨numbered, either⟩ := (classesExamined {} file).2.2 6 "class" 12 middle
  exact ⟨middle, by decide +kernel, by decide +kernel, numbered, either⟩

end HouseStyle.ClassNames
