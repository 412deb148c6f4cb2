import HouseStyle.Config
import HouseStyle.Proofs.Declarators
import Mathlib.Data.List.Basic

/-! Names of checks spelled out of words. Each word may begin with a capital letter or not, and words
are divided by a hyphen or an underscore, or by the capital letter of the next one alone. Whatever the
spelling, the normal form has the words themselves, but for a last word that only says that this is a
check. -/
namespace HouseStyle.CheckName
open Text (All Past)
open Declaration (alphanumAscii asciiEach letterAscii)

def isWordPart (c : Char) : Bool := c.isLower || c.isDigit

structure Word where
  first : Char
  rest : List Char
  letter : first.isLower = true
  parts : All isWordPart rest
  deriving DecidableEq

namespace Word

def chars (word : Word) : List Char := word.first :: word.rest

def text (word : Word) : String := String.ofList word.chars

def written (word : Word) (capital : Bool) : List Char :=
  (if capital then word.first.toUpper else word.first) :: word.rest

def check : Word := ⟨'c', ['h', 'e', 'c', 'k'], rfl, List.all_eq_true.mp rfl⟩

end Word

inductive Spelled : (capital : Bool) → List Word → List Char → Prop where
  | last (capital : Bool) (word : Word) : Spelled capital [word] (word.written capital)
  | divided (capital : Bool) (word : Word) {sign : Char} (divides : sign = '-' ∨ sign = '_')
      {next : Bool} {words : List Word} {text : List Char} (others : Spelled next words text) :
      Spelled capital (word :: words) (word.written capital ++ sign :: text)
  | adjoined (capital : Bool) (word : Word) {words : List Word} {text : List Char}
      (others : Spelled true words text) :
      Spelled capital (word :: words) (word.written capital ++ text)

def Spells (words : List Word) (name : String) : Prop := ∃ capital, Spelled capital words name.toList

/- The words less a last word `check`, which is dropped once and only behind another word. -/
def withoutCheck (words : List Word) : List Word :=
  if 1 < words.length ∧ words.getLast? = some .check then words.dropLast else words

def joined (words : List Word) : List Char := ['-'].intercalate (words.map Word.chars)

theorem wordPart {c : Char} (part : isWordPart c = true) :
    c.isUpper = false ∧ c ≠ '_' ∧ c ≠ '-' := by
  have ascii : Text.isAscii c = true := by
    rcases Bool.or_eq_true_iff.mp part with lower | digit
    · exact letterAscii (Or.inr lower)
    · exact alphanumAscii (Bool.or_eq_true_iff.mpr (Or.inr digit))
  have each : ((List.range 128).map Char.ofNat).all (fun d => !isWordPart d ||
      (!d.isUpper && d != '_' && d != '-')) = true := by
    decide +kernel
  simpa [part, and_assoc] using asciiEach each ascii

theorem charsParts (word : Word) : All isWordPart word.chars := by
  intro c member
  rcases List.mem_cons.mp member with rfl | inside
  · simp [isWordPart, word.letter]
  · exact word.parts c inside

theorem undivided (word : Word) : '-' ∉ word.chars :=
  fun member => (wordPart (charsParts word '-' member)).2.2 rfl

abbrev AtStart (done : List Char) : Prop := done = [] ∨ done.head? = some '-'

theorem behindHyphen (done : List Char) : AtStart ('-' :: done) := Or.inr rfl

theorem behindWord (word : Word) (done : List Char) : ¬ AtStart (word.chars.reverse ++ done) := by
  obtain ⟨c, tail, ends⟩ : ∃ c tail, word.chars.reverse = c :: tail :=
    List.exists_cons_of_ne_nil (by simp [Word.chars])
  have inside : c ∈ word.chars := List.mem_reverse.mp (by simp [ends])
  rw [ends]
  rintro (none | hyphen)
  · cases none
  · cases Option.some.inj hyphen
    exact undivided word inside

def isKept (c : Char) : Bool := c != '_' && !c.isUpper

theorem partKept {c : Char} (part : isWordPart c = true) : isKept c = true := by
  obtain ⟨small, noUnderscore, _⟩ := wordPart part
  simp [isKept, noUnderscore, small]

theorem extendKept (done : List Char) {c : Char} (kept : isKept c = true) :
    extend done c = c :: done := by
  obtain ⟨noUnderscore, small⟩ : c ≠ '_' ∧ c.isUpper = false := by simpa [isKept] using kept
  simp [extend, noUnderscore, small]

theorem extendAllKept {text : List Char} (kept : All isKept text) (done : List Char) :
    text.foldl extend done = text.reverse ++ done := by
  induction text generalizing done with
  | nil => rfl
  | cons c text ih =>
    have later := ih (fun d member => kept d (List.mem_cons_of_mem c member)) (c :: done)
    rw [List.foldl_cons, extendKept done (kept c List.mem_cons_self), later]
    simp

theorem extendUpper (done : List Char) {c : Char} (upper : c.isUpper = true) :
    extend done c = c.toLower :: if AtStart done then done else '-' :: done := by
  have noUnderscore : c ≠ '_' := by
    rintro rfl
    contradiction
  rw [extend, if_neg noUnderscore, if_pos upper]
  split <;> rfl

theorem capitalLetter (word : Word) :
    word.first.toUpper.isUpper = true ∧ word.first.toUpper.toLower = word.first := by
  have each : ((List.range 128).map Char.ofNat).all (fun d => !d.isLower ||
      (d.toUpper.isUpper && d.toUpper.toLower == d)) = true := by
    decide +kernel
  simpa [word.letter] using asciiEach each (letterAscii (Or.inr word.letter))

theorem writtenRead {done : List Char} (start : AtStart done) (word : Word) (capital : Bool) :
    (word.written capital).foldl extend done = word.chars.reverse ++ done := by
  have first : extend done (if capital then word.first.toUpper else word.first) =
      word.first :: done := by
    cases capital with
    | true =>
      obtain ⟨upper, back⟩ := capitalLetter word
      rw [if_pos rfl, extendUpper done upper, if_pos start, back]
    | false => exact extendKept done (partKept (charsParts word _ List.mem_cons_self))
  have others : All isKept word.rest := fun c member => partKept (word.parts c member)
  rw [Word.written, List.foldl_cons, first, extendAllKept others, Word.chars]
  simp

theorem capitalDivides {words : List Word} {text : List Char} (spelled : Spelled true words text)
    {done : List Char} (inside : ¬ AtStart done) :
    text.foldl extend done = text.foldl extend ('-' :: done) := by
  have first (word : Word) (rest : List Char) :
      (word.written true ++ rest).foldl extend done =
        (word.written true ++ rest).foldl extend ('-' :: done) := by
    obtain ⟨upper, _⟩ := capitalLetter word
    have here : extend done word.first.toUpper = extend ('-' :: done) word.first.toUpper := by
      rw [extendUpper _ upper, extendUpper _ upper, if_neg inside,
        if_pos (behindHyphen done)]
    simp only [Word.written, if_true, List.cons_append, List.foldl_cons, here]
  cases spelled with
  | last _ word => simpa using first word []
  | divided _ word => exact first word _
  | adjoined _ word => exact first word _

theorem joinedCons (word : Word) {words : List Word} (some : words ≠ []) :
    joined (word :: words) = word.chars ++ '-' :: joined words := by
  have others : words.map Word.chars ≠ [] := by simpa using some
  rw [joined, List.map_cons, List.intercalate_cons_of_ne_nil others, joined]
  simp

theorem joinedLast {front : List Word} (some : front ≠ []) (word : Word) :
    joined (front ++ [word]) = joined front ++ '-' :: word.chars := by
  induction front with
  | nil => contradiction
  | cons first front ih =>
    by_cases single : front = []
    · subst single
      simp [joined]
    · rw [List.cons_append, joinedCons first (by simp), ih single, joinedCons first single]
      simp

theorem spelledSome {capital : Bool} {words : List Word} {text : List Char}
    (spelled : Spelled capital words text) : words ≠ [] := by
  cases spelled <;> simp

theorem spelledRead {capital : Bool} {words : List Word} {text : List Char}
    (spelled : Spelled capital words text) {done : List Char} (start : AtStart done) :
    text.foldl extend done = (joined words).reverse ++ done := by
  induction spelled generalizing done with
  | last capital word =>
    rw [writtenRead start]
    simp [joined]
  | divided capital word divides others ih =>
    rename_i sign next words text
    -- either sign leaves a hyphen, behind which the next word needs none of its own
    have hyphen (before : List Char) : extend before sign = '-' :: before := by
      rcases divides with rfl | rfl <;> rfl
    rw [List.foldl_append, writtenRead start, List.foldl_cons, hyphen, ih (behindHyphen _),
      joinedCons word (spelledSome others)]
    simp
  | adjoined capital word others ih =>
    rw [List.foldl_append, writtenRead start, capitalDivides others (behindWord word done), ih (behindHyphen _),
      joinedCons word (spelledSome others)]
    simp

theorem spelledHyphenated {words : List Word} {name : String} (spells : Spells words name) :
    words ≠ [] ∧ hyphenated name.toList = joined words := by
  obtain ⟨capital, spelled⟩ := spells
  have read := spelledRead spelled (Or.inl rfl)
  refine ⟨spelledSome spelled, ?_⟩
  rw [hyphenated, read]
  simp

theorem charsInjective {word other : Word} (same : word.chars = other.chars) : word = other := by
  obtain ⟨first, rest⟩ := List.cons.inj same
  cases word
  cases other
  simp_all

theorem joinedInjective {words others : List Word} (some : words ≠ []) (some' : others ≠ [])
    (same : joined words = joined others) : words = others := by
  have split {words : List Word} (some : words ≠ []) :
      (joined words).splitOn '-' = words.map Word.chars := by
    refine List.splitOn_intercalate '-' ?_ (by simpa using some)
    exact List.forall_mem_map.mpr fun word _ => undivided word
  have spelled : words.map Word.chars = others.map Word.chars := by
    rw [← split some, ← split some', same]
  exact List.map_injective_iff.mpr (fun _ _ => charsInjective) spelled

theorem endingWord {front front' : List Char} {word other : Word}
    (same : front ++ '-' :: word.chars = front' ++ '-' :: other.chars) : word.chars = other.chars := by
  have backwards := congrArg List.reverse same
  simp only [List.reverse_append, List.reverse_cons, List.append_assoc, List.singleton_append] at backwards
  have run (word : Word) : All (· != '-') word.chars.reverse := by
    intro c member
    exact bne_iff_ne.mpr fun hyphen => undivided word (hyphen ▸ List.mem_reverse.mp member)
  have past (front : List Char) : Past (· != '-') ('-' :: front) := Text.pastCons front rfl
  have ends := Text.takeWhileRun (run word) (past front.reverse)
  rw [backwards, Text.takeWhileRun (run other) (past front'.reverse)] at ends
  exact (List.reverse_injective ends).symm

theorem dropCheckEnding (stem : List Char) : dropCheck (stem ++ checkEnding) = stem := by
  simp [dropCheck]

theorem dropCheckOther {name : List Char} (other : ¬ checkEnding <:+ name) : dropCheck name = name := by
  simp [dropCheck, other]

theorem dropCheckJoined {words : List Word} (some : words ≠ []) :
    dropCheck (joined words) = joined (withoutCheck words) := by
  obtain ⟨front, last, rfl⟩ : ∃ front last, words = front ++ [last] :=
    ⟨_, _, (List.dropLast_append_getLast some).symm⟩
  have ending : checkEnding = '-' :: Word.check.chars := rfl
  by_cases single : front = []
  · subst single
    -- a single word has no hyphen, so it stays even where it is `check`
    have whole : ¬ checkEnding <:+ joined [last] := by
      rintro ⟨before, same⟩
      have hyphen : '-' ∈ joined [last] := by simp [← same, ending]
      exact undivided last (by simpa [joined] using hyphen)
    rw [List.nil_append, dropCheckOther whole]
    simp [withoutCheck]
  · rw [joinedLast single]
    by_cases check : last = .check
    · subst check
      rw [← ending, dropCheckEnding]
      simp [withoutCheck, List.length_pos_iff.mpr single]
    · have other : ¬ checkEnding <:+ joined front ++ '-' :: last.chars := by
        rintro ⟨before, same⟩
        exact check (charsInjective (endingWord same).symm)
      rw [dropCheckOther other]
      simp [withoutCheck, check, joinedLast single]

theorem withoutCheckSome {words : List Word} (some : words ≠ []) : withoutCheck words ≠ [] := by
  unfold withoutCheck
  split
  · rename_i several
    intro none
    have short := congrArg List.length none
    rw [List.length_dropLast, List.length_nil] at short
    omega
  · exact some

theorem normalFormChars {words : List Word} {name : String} (spells : Spells words name) :
    normalForm name = String.ofList (joined (withoutCheck words)) := by
  obtain ⟨some, read⟩ := spelledHyphenated spells
  rw [normalForm, read, dropCheckJoined some]

theorem normalFormSpelled {words : List Word} {name : String} (spells : Spells words name) :
    normalForm name = "-".intercalate ((withoutCheck words).map Word.text) := by
  have chars : Word.chars = String.toList ∘ Word.text := by
    funext word
    exact String.toList_ofList.symm
  rw [normalFormChars spells, joined, chars, ← List.map_map, ← String.ofList_toList (s := "-".intercalate _),
    String.toList_intercalate]
  rfl

theorem sameNormalForm {words others : List Word} {name other : String} (spells : Spells words name)
    (spells' : Spells others other) :
    normalForm name = normalForm other ↔ withoutCheck words = withoutCheck others := by
  have some := withoutCheckSome (spelledHyphenated spells).1
  have some' := withoutCheckSome (spelledHyphenated spells').1
  rw [normalFormChars spells, normalFormChars spells', String.ofList_inj]
  exact ⟨joinedInjective some some', congrArg joined⟩

theorem disabledIff (config : Config) (check : String) :
    config.enables check = false ↔
      ∃ entry ∈ config.disabledChecks, normalForm entry = normalForm check := by
  simp [Config.enables]

theorem spellingsAgree :
    (∀ (words : List Word) (name : String), Spells words name →
      normalForm name = "-".intercalate ((withoutCheck words).map Word.text)) ∧
    ∀ (config : Config) (words : List Word) (check : String),
      (∀ entry ∈ config.disabledChecks, ∃ others, Spells others entry) → Spells words check →
      (config.enables check = false ↔
        ∃ entry ∈ config.disabledChecks, ∃ others, Spells others entry ∧
          withoutCheck others = withoutCheck words) := by
  refine ⟨fun words name => normalFormSpelled, ?_⟩
  intro config words check entries spells
  rw [disabledIff]
  constructor
  · rintro ⟨entry, disabled, same⟩
    obtain ⟨others, spelled⟩ := entries entry disabled
    exact ⟨entry, disabled, others, spelled, (sameNormalForm spelled spells).mp same⟩
  · rintro ⟨entry, disabled, others, spelled, same⟩
    exact ⟨entry, disabled, (sameNormalForm spelled spells).mpr same⟩

def header : Word := ⟨'h', ['e', 'a', 'd', 'e', 'r'], rfl, List.all_eq_true.mp rfl⟩

def guard2 : Word := ⟨'g', ['u', 'a', 'r', 'd', '2'], rfl, List.all_eq_true.mp rfl⟩

theorem spellingsAgreeSample :
    let config : Config := { disabledChecks := ["check", "Header_guard2Check"] }
    ((∀ entry ∈ config.disabledChecks, ∃ others, Spells others entry) ∧
      Spells [header, guard2] "header-Guard2" ∧ Spells [header, guard2, .check, .check]
        "HeaderGuard2_check-check") ∧
    normalForm "HeaderGuard2_check-check" = "header-guard2-check" ∧
    config.enables "header-Guard2" = false ∧ config.enables "HeaderGuard2_check-check" = true := by
  intro config
  have single : Spells [.check] "check" := ⟨false, .last false .check⟩
  have entry : Spells [header, guard2, .check] "Header_guard2Check" :=
    ⟨true, .divided true header (Or.inr rfl) (.adjoined false guard2 (.last true .check))⟩
  have name : Spells [header, guard2] "header-Guard2" :=
    ⟨false, .divided false header (Or.inl rfl) (.last true guard2)⟩
  have double : Spells [header, guard2, .check, .check] "HeaderGuard2_check-check" :=
    ⟨true, .adjoined true header (.divided true guard2 (Or.inr rfl)
      (.divided false .check (Or.inl rfl) (.last false .check)))⟩
  have entries : ∀ entry ∈ config.disabledChecks, ∃ others, Spells others entry := by
    intro found member
    simp only [config, List.mem_cons, List.not_mem_nil, or_false] at member
    rcases member with rfl | rfl
    · exact ⟨_, single⟩
    · exact ⟨_, entry⟩
  have disabled := (spellingsAgree.2 config _ _ entries name).mpr
    ⟨"Header_guard2Check", by simp [config], _, entry, by decide⟩
  have normal := spellingsAgree.1 _ _ double
  exact ⟨⟨entries, name, double⟩, normal.trans (by decide +kernel), disabled, by decide +kernel⟩

end HouseStyle.CheckName
