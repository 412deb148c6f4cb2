import HouseStyle.Check.MacroNames
import HouseStyle.Proofs.Shapes

/-! Which macros are examined: every `#define` with a name behind it, since a definition holds the sign
`#` at its front and nowhere else. -/
namespace HouseStyle.MacroNames
open Text Declaration Naming

def keyword : List Char := ['#', 'd', 'e', 'f', 'i', 'n', 'e']

structure DefinedAt (text : List Char) (place : Nat) (name : String) : Prop where
  parts : ∃ front gap rest, text = front ++ (keyword ++ (gap ++ (name.toList ++ rest))) ∧
    place = front.length ∧ gap ≠ [] ∧ All isBlank gap ∧ Past isIdentifierPart rest
  identifier : Identifier name

theorem macroIff (before text : List Char) (name : String) (rest : List Char) :
    macroDefinition before text = some (name, rest) ↔
      ∃ gap, text = keyword ++ (gap ++ (name.toList ++ rest)) ∧ gap ≠ [] ∧ All isBlank gap ∧
        Identifier name ∧ Past isIdentifierPart rest := by
  rw [← keywordIff]
  simp only [macroDefinition, bind, Option.bind_eq_some_iff]
  rfl

theorem definedAtIff (text : List Char) (place : Nat) (name : String) :
    DefinedAt text place name ↔ ReadAt macroDefinition text place name := by
  constructor
  · intro found
    obtain ⟨⟨front, gap, rest, split, reached, gapped, blank, past⟩, valid⟩ := found
    refine ⟨front.reverse, keyword ++ (gap ++ (name.toList ++ rest)), rest, ?_, ?_, ?_⟩
    · rw [split, List.reverse_reverse]
    · rw [reached, List.length_reverse]
    · exact (macroIff _ _ _ _).mpr ⟨gap, rfl, gapped, blank, valid, past⟩
  · intro found
    obtain ⟨before, text, rest, split, reached, read⟩ := found
    obtain ⟨gap, rfl, gapped, blank, valid, past⟩ := (macroIff _ _ _ _).mp read
    exact ⟨⟨before.reverse, gap, rest, split, by rw [reached, List.length_reverse], gapped, blank, past⟩,
      valid⟩

theorem macroSign {before text : List Char} {c : Char} (other : c ≠ '#') :
    macroDefinition before (c :: text) = none := by
  have unread : literal keyword (c :: text) = none := if_neg (Ne.symm other)
  simp only [macroDefinition, keyword] at unread ⊢
  rw [unread]
  rfl

theorem classNotSign {p : Char → Bool} (outside : p '#' = false) {c : Char} (inside : p c = true) :
    c ≠ '#' := by
  intro same
  rw [same, outside] at inside
  contradiction

/- Behind its sign a definition is made of letters, blanks and the characters of a name. -/
theorem macrosApart : Apart macroDefinition := by
  intro before c stretch rest name read front back split some
  obtain ⟨gap, whole, _, blank, valid, _⟩ := (macroIff _ _ _ _).mp read
  have word : c :: stretch ++ rest = keyword ++ (gap ++ name.toList) ++ rest := by
    simpa using whole
  have letters : stretch = ['d', 'e', 'f', 'i', 'n', 'e'] ++ (gap ++ name.toList) :=
    (List.cons.inj (List.append_cancel_right word)).2
  obtain ⟨d, back, rfl⟩ := List.exists_cons_of_ne_nil some
  have inside : d ∈ stretch := by simp [split]
  have signless : d ≠ '#' := by
    rw [letters, List.mem_append, List.mem_append] at inside
    rcases inside with inWord | inGap | inName
    · intro same
      rw [same] at inWord
      contradiction
    · exact classNotSign rfl (blank d inGap)
    · exact classNotSign rfl ((identifierParts valid).2 d inName)
  exact macroSign signless

def isMisnamed (name : String) : Bool :=
  !(['_', 'H'].isSuffixOf name.toList) && !(['_', 'H', 'P', 'P'].isSuffixOf name.toList) &&
    (!name.toList.head?.any Char.isUpper || name.toList.any Char.isLower)

theorem partCase {c : Char} (part : isIdentifierPart c = true) :
    (c.isUpper || c.isDigit || c == '_') = !c.isLower := by
  have each : ((List.range 128).map Char.ofNat).all (fun d => !isIdentifierPart d ||
      ((d.isUpper || d.isDigit || d == '_') == !d.isLower)) = true := by
    decide +kernel
  simpa [part] using asciiEach each (partAscii part)

theorem upperSnakeIdentifier {name : String} (valid : Identifier name) :
    isUpperSnake name = (name.toList.head?.any Char.isUpper && !name.toList.any Char.isLower) := by
  obtain ⟨c, rest, spelled, starts, parts⟩ := valid.shape
  have head := partCase (startIsPart starts)
  have tail : rest.all (fun d => d.isUpper || d.isDigit || d == '_') = !rest.any Char.isLower := by
    rw [List.not_any_eq_all_not, Bool.eq_iff_iff, List.all_eq_true, List.all_eq_true]
    exact forall_congr' fun d => forall_congr' fun member => by rw [partCase (parts d member)]
  rw [isUpperSnake, spelled, shaped, tail]
  cases upper : c.isUpper with
  | false => simp [upper]
  | true =>
    rw [upper] at head
    have large : c.isLower = false := by simpa using head
    simp [upper, large]

theorem misnamedIff {name : String} (valid : Identifier name) :
    isMisnamed name = !(isHeaderGuard name || isUpperSnake name) := by
  have short : endsWith name "_H" = ['_', 'H'].isSuffixOf name.toList := rfl
  have long : endsWith name "_HPP" = ['_', 'H', 'P', 'P'].isSuffixOf name.toList := rfl
  rw [isMisnamed, isHeaderGuard, short, long, upperSnakeIdentifier valid]
  simp only [Bool.not_or, Bool.not_and, Bool.not_not]

def errorOf (file name : String) : Violation :=
  { check := "macro-names"
    file
    message := "macro '" ++ name ++ "' should use uppercase with underscores"
    severity := .error }

theorem macroErrors (config : Config) (file : SourceFile) :
    rule.check.run config file =
      ((defined file.text.toList).filter isMisnamed).map (errorOf file.name) := by
  have either (name : String) : ¬ (isHeaderGuard name || isUpperSnake name) = true ↔
      (!(isHeaderGuard name || isUpperSnake name)) = true := by
    rw [Bool.not_eq_true', Bool.not_eq_true]
  simp only [Rule.check, rule, saidFiltered either, List.map_map]
  refine congrArg _ (List.filter_congr fun name member => ?_)
  obtain ⟨found, inside, rfl⟩ := List.mem_map.mp member
  rw [misnamedIff (occurrenceValid macroReads inside)]
  simp

theorem macrosExamined (config : Config) (file : SourceFile) :
    let names := defined file.text.toList
    Listed (DefinedAt file.text.toList) names ∧
    rule.check.run config file = (names.filter isMisnamed).map (errorOf file.name) := by
  intro names
  have same : DefinedAt file.text.toList = ReadAt macroDefinition file.text.toList :=
    funext fun place => funext fun name => propext (definedAtIff _ place name)
  refine ⟨?_, macroErrors config file⟩
  rw [same]
  exact occurrencesRead (readsOn macroReads) macrosApart _

example : defined "#define\nMax_Size#define x_H #define #define 9 a#define\tbB".toList =
    ["Max_Size", "x_H", "bB"] := by
  decide +kernel

end HouseStyle.MacroNames
