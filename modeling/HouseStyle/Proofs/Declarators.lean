import HouseStyle.Proofs.Readers

/-! Declarators: a type, blanks, a name, and perhaps more blanks, up to the sign that ends them. Which
texts are read as one, and that none of them holds such a sign itself. -/
namespace HouseStyle.Declaration
open Text

def isTerminator (c : Char) : Bool := c == '=' || c == ';'

def SignFree (text : List Char) : Prop := ∀ c ∈ text, isTerminator c = false

def blankCodes : List Nat :=
  [0x09, 0x0A, 0x0B, 0x0C, 0x0D, 0x20, 0x85, 0xA0, 0x1680, 0x2000, 0x2001, 0x2002, 0x2003, 0x2004,
   0x2005, 0x2006, 0x2007, 0x2008, 0x2009, 0x200A, 0x2028, 0x2029, 0x202F, 0x205F, 0x3000]

theorem blankCode {c : Char} (blank : isBlank c = true) : c ∈ blankCodes.map Char.ofNat := by
  have code : c.toNat ∈ blankCodes := by
    simp only [isBlank, Bool.or_eq_true, Bool.and_eq_true, decide_eq_true_eq, beq_iff_eq] at blank
    simp only [blankCodes, List.mem_cons, List.not_mem_nil, or_false]
    omega
  exact List.mem_map.mpr ⟨c.toNat, code, Char.ofNat_toNat c⟩

theorem blankClass {c : Char} (blank : isBlank c = true) :
    isIdentifierPart c = false ∧ isTerminator c = false ∧ isWord c = false := by
  have each : (blankCodes.map Char.ofNat).all
      (fun d => !isIdentifierPart d && !isTerminator d && !isWord d) = true := by
    decide +kernel
  have here := List.all_eq_true.mp each c (blankCode blank)
  simpa [and_assoc] using here

theorem terminatorClass {c : Char} (ends : isTerminator c = true) :
    isIdentifierPart c = false ∧ isBlank c = false := by
  have either : c = '=' ∨ c = ';' := by simpa [isTerminator] using ends
  rcases either with rfl | rfl <;> decide

theorem startIsPart {c : Char} (starts : isIdentifierStart c = true) : isIdentifierPart c = true := by
  simp only [isIdentifierStart, isIdentifierPart, Char.isAlphanum, Bool.or_eq_true] at starts ⊢
  rcases starts with letter | underscore
  · exact Or.inl (Or.inl letter)
  · exact Or.inr underscore

theorem alphanumRange {c : Char} (alphanum : c.isAlphanum = true) : 48 ≤ c.toNat ∧ c.toNat ≤ 122 := by
  rcases Bool.or_eq_true_iff.mp alphanum with letter | digit
  · rcases Bool.or_eq_true_iff.mp letter with upper | lower
    · have bounds := of_decide_eq_true upper
      have low : 65 ≤ c.toNat := UInt32.le_iff_toNat_le.mp bounds.1
      have high : c.toNat ≤ 90 := UInt32.le_iff_toNat_le.mp bounds.2
      omega
    · have bounds := Bool.and_eq_true_iff.mp lower
      have low : 97 ≤ c.toNat := UInt32.le_iff_toNat_le.mp (of_decide_eq_true bounds.1)
      have high : c.toNat ≤ 122 := UInt32.le_iff_toNat_le.mp (of_decide_eq_true bounds.2)
      omega
  · have bounds := Bool.and_eq_true_iff.mp digit
    have low : 48 ≤ c.toNat := UInt32.le_iff_toNat_le.mp (of_decide_eq_true bounds.1)
    have high : c.toNat ≤ 57 := UInt32.le_iff_toNat_le.mp (of_decide_eq_true bounds.2)
    omega

theorem alphanumAscii {c : Char} (alphanum : c.isAlphanum = true) : isAscii c = true := by
  have range := alphanumRange alphanum
  exact decide_eq_true (by omega)

theorem letterAscii {c : Char} (letter : c.isUpper = true ∨ c.isLower = true) : isAscii c = true :=
  alphanumAscii (Bool.or_eq_true_iff.mpr (Or.inl (Bool.or_eq_true_iff.mpr letter)))

theorem asciiEach {p : Char → Bool} (each : ((List.range 128).map Char.ofNat).all p = true) {c : Char}
    (ascii : isAscii c = true) : p c = true := by
  have code : c.toNat ∈ List.range 128 := List.mem_range.mpr (of_decide_eq_true ascii)
  exact List.all_eq_true.mp each c (List.mem_map.mpr ⟨c.toNat, code, Char.ofNat_toNat c⟩)

theorem partAscii {c : Char} (part : isIdentifierPart c = true) : isAscii c = true := by
  rcases Bool.or_eq_true_iff.mp part with alphanum | underscore
  · exact alphanumAscii alphanum
  · rw [eq_of_beq underscore]
    rfl

theorem partWord {c : Char} (part : isIdentifierPart c = true) : isWord c = true := by
  rw [isWord, if_pos (partAscii part)]
  exact part

theorem partNotBlank {c : Char} (part : isIdentifierPart c = true) : isBlank c = false := by
  cases blank : isBlank c with
  | false => rfl
  | true => rw [(blankClass blank).1] at part; contradiction

theorem partNotTerminator {c : Char} (part : isIdentifierPart c = true) : isTerminator c = false := by
  cases ends : isTerminator c with
  | false => rfl
  | true => rw [(terminatorClass ends).1] at part; contradiction

abbrev Identifier (name : String) : Prop := Named isIdentifierStart isIdentifierPart name

theorem identifierParts {name : String} (valid : Identifier name) :
    name.toList ≠ [] ∧ All isIdentifierPart name.toList := by
  obtain ⟨c, rest, spelled, starts, parts⟩ := valid.shape
  rw [spelled]
  refine ⟨by simp, ?_⟩
  intro d member
  rcases List.mem_cons.mp member with rfl | inside
  · exact startIsPart starts
  · exact parts d inside

theorem identifierPast {name : String} (valid : Identifier name) (rest : List Char) :
    Past isBlank (name.toList ++ rest) := by
  obtain ⟨c, letters, spelled, starts, _⟩ := valid.shape
  rw [spelled]
  exact pastCons _ (partNotBlank (startIsPart starts))

theorem pastBlanks {gap rest : List Char} (blank : All isBlank gap) (past : Past isIdentifierPart rest) :
    Past isIdentifierPart (gap ++ rest) := by
  cases gap with
  | nil => exact past
  | cons c gap => exact pastCons _ (blankClass (blank c List.mem_cons_self)).1

def PrefixFree (types : List (List Char)) : Prop :=
  ∀ a ∈ types, ∀ b ∈ types, a <+: b → a = b

theorem variableTypesPrefixFree : PrefixFree variableTypes := by
  unfold PrefixFree
  decide

theorem globalTypesPrefixFree : PrefixFree globalTypes := by
  unfold PrefixFree
  decide

theorem typeFound {types : List (List Char)} (free : PrefixFree types) {kind rest : List Char}
    (member : kind ∈ types) :
    types.findSome? (literal · (kind ++ rest)) = some rest := by
  cases found : types.findSome? (literal · (kind ++ rest)) with
  | none =>
    have missed := List.findSome?_eq_none_iff.mp found kind member
    rw [(literalIff kind (kind ++ rest) rest).mpr rfl] at missed
    contradiction
  | some left =>
    obtain ⟨other, inside, read⟩ := List.exists_of_findSome?_eq_some found
    have split := (literalIff other (kind ++ rest) left).mp read
    have same : kind = other := by
      rcases List.prefix_or_prefix_of_prefix ⟨rest, rfl⟩ ⟨left, split.symm⟩ with short | short
      · exact free kind member other inside short
      · exact (free other inside kind member short).symm
    subst same
    rw [List.append_cancel_left split]

theorem typeThenBlanksIff {types : List (List Char)} (free : PrefixFree types) (text rest : List Char) :
    typeThenBlanks types text = some rest ↔
      ∃ kind gap, text = kind ++ (gap ++ rest) ∧ kind ∈ types ∧ gap ≠ [] ∧ All isBlank gap ∧
        Past isBlank rest := by
  constructor
  · intro read
    simp only [typeThenBlanks, bind, Option.bind_eq_some_iff] at read
    obtain ⟨left, found, read⟩ := read
    obtain ⟨kind, member, begins⟩ := List.exists_of_findSome?_eq_some found
    obtain ⟨gap, rfl, gapped, blank, past⟩ := (someBlanksIff left rest).mp read
    exact ⟨kind, gap, (literalIff _ _ _).mp begins, member, gapped, blank, past⟩
  · rintro ⟨kind, gap, rfl, member, gapped, blank, past⟩
    simp only [typeThenBlanks, bind, typeFound free member, Option.bind]
    exact (someBlanksIff _ _).mpr ⟨gap, rfl, gapped, blank, past⟩

structure Declarator (types : List (List Char)) (word : List Char) (name : String) : Prop where
  parts : ∃ kind gap tail, word = kind ++ (gap ++ (name.toList ++ tail)) ∧ kind ∈ types ∧ gap ≠ [] ∧
    All isBlank gap ∧ All isBlank tail
  identifier : Identifier name

theorem declaratorIff {types : List (List Char)} (free : PrefixFree types) (text : List Char)
    (name : String) (rest : List Char) :
    declarator types text = some (name, rest) ↔
      ∃ word stop, text = word ++ stop :: rest ∧ Declarator types word name ∧
        isTerminator stop = true := by
  constructor
  · intro read
    simp only [declarator, bind, Option.bind_eq_some_iff] at read
    obtain ⟨afterType, typed, ⟨found, afterName⟩, named, afterStop, stopped, same⟩ := read
    cases Option.some.inj same
    obtain ⟨kind, gap, rfl, member, gapped, blank, _⟩ := (typeThenBlanksIff free _ _).mp typed
    obtain ⟨rfl, valid, _⟩ := (runIff _ _ _ _ _).mp named
    obtain ⟨stop, ends, sign⟩ := (singleIff _ _ _).mp stopped
    obtain ⟨tail, split, allTail, _⟩ := blanksSplit afterName
    rw [ends] at split
    refine ⟨kind ++ (gap ++ (found.toList ++ tail)), stop, ?_,
      ⟨⟨kind, gap, tail, rfl, member, gapped, blank, allTail⟩, valid⟩, sign⟩
    rw [split]
    simp only [List.append_assoc]
  · rintro ⟨word, stop, rfl, ⟨⟨kind, gap, tail, rfl, member, gapped, blank, allTail⟩, valid⟩, ends⟩
    have apart := terminatorClass ends
    have pastTail : Past isIdentifierPart (tail ++ stop :: rest) :=
      pastBlanks allTail (pastCons rest apart.1)
    have pastGap : Past isBlank (name.toList ++ (tail ++ stop :: rest)) := identifierPast valid _
    have typed : typeThenBlanks types (kind ++ (gap ++ (name.toList ++ tail)) ++ stop :: rest) =
        some (name.toList ++ (tail ++ stop :: rest)) := by
      refine (typeThenBlanksIff free _ _).mpr ⟨kind, gap, ?_, member, gapped, blank, pastGap⟩
      simp only [List.append_assoc]
    have named : identifier (name.toList ++ (tail ++ stop :: rest)) =
        some (name, tail ++ stop :: rest) := (runIff _ _ _ _ _).mpr ⟨rfl, valid, pastTail⟩
    have skipped : blanks (tail ++ stop :: rest) = stop :: rest :=
      dropWhileRun allTail (pastCons rest apart.2)
    have stopped : single (fun c => c == '=' || c == ';') (stop :: rest) = some rest :=
      if_pos ends
    simp only [declarator, bind, typed, named, skipped, stopped, Option.bind]

theorem declaratorFree {word : List Char} {name : String}
    (valid : Declarator variableTypes word name) : SignFree word := by
  obtain ⟨⟨kind, gap, tail, rfl, member, _, blank, allTail⟩, named⟩ := valid
  have letters : variableTypes.all (·.all (!isTerminator ·)) = true := by decide
  intro c inside
  simp only [List.mem_append] at inside
  rcases inside with inKind | inGap | inName | inTail
  · simpa using List.all_eq_true.mp (List.all_eq_true.mp letters kind member) c inKind
  · exact (blankClass (blank c inGap)).2.1
  · exact partNotTerminator ((identifierParts named).2 c inName)
  · exact (blankClass (allTail c inTail)).2.1

theorem declaratorWiden {word : List Char} {name : String} (valid : Declarator globalTypes word name) :
    Declarator variableTypes word name := by
  obtain ⟨⟨kind, gap, tail, split, member, rest⟩, named⟩ := valid
  exact ⟨⟨kind, gap, tail, split, List.mem_append_left _ member, rest⟩, named⟩

/- Read backwards, the name of a declarator is the last run of identifier characters. -/
theorem declaratorName {types : List (List Char)} {word : List Char} {name : String}
    (valid : Declarator types word name) (front : List Char) :
    name.toList =
      (((front ++ word).reverse.dropWhile isBlank).takeWhile isIdentifierPart).reverse := by
  obtain ⟨⟨kind, gap, tail, rfl, _, gapped, blank, allTail⟩, named⟩ := valid
  obtain ⟨nonempty, parts⟩ := identifierParts named
  have backwards : (front ++ (kind ++ (gap ++ (name.toList ++ tail)))).reverse =
      tail.reverse ++ (name.toList.reverse ++ (gap.reverse ++ (kind.reverse ++ front.reverse))) := by
    simp only [List.reverse_append, List.append_assoc]
  have reversedTail : All isBlank tail.reverse := fun c member => allTail c (List.mem_reverse.mp member)
  have reversedName : All isIdentifierPart name.toList.reverse :=
    fun c member => parts c (List.mem_reverse.mp member)
  have pastName : Past isBlank
      (name.toList.reverse ++ (gap.reverse ++ (kind.reverse ++ front.reverse))) := by
    cases letters : name.toList.reverse with
    | nil => exact absurd (List.reverse_eq_nil_iff.mp letters) nonempty
    | cons c rest =>
      exact pastCons _ (partNotBlank (reversedName c (by rw [letters]; exact List.mem_cons_self)))
  have pastGap : Past isIdentifierPart (gap.reverse ++ (kind.reverse ++ front.reverse)) := by
    cases blanks : gap.reverse with
    | nil => exact absurd (List.reverse_eq_nil_iff.mp blanks) gapped
    | cons c rest =>
      have member : c ∈ gap := List.mem_reverse.mp (by rw [blanks]; exact List.mem_cons_self)
      exact pastCons _ (blankClass (blank c member)).1
  rw [backwards, dropWhileRun reversedTail pastName, takeWhileRun reversedName pastGap,
    List.reverse_reverse]

end HouseStyle.Declaration
