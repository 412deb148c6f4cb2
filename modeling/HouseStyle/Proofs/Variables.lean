import HouseStyle.Proofs.Shapes
import HouseStyle.Proofs.Terminators

/-! The names that are examined as variables, said without a search. A sign that ends a declaration is
looked at from behind: the text before it ends with a type, blanks, a name and perhaps more blanks. Each
such sign counts once, whatever was read before it. -/
namespace HouseStyle.VariableNames
open Text Declaration

structure DeclaredAt (text : List Char) (place : Nat) (name : String) : Prop where
  parts : ∃ front word stop rest, text = front ++ word ++ stop :: rest ∧
    place = (front ++ word).length ∧ isTerminator stop = true ∧
    Declarator variableTypes word name ∧ atWordStart front.reverse = true

theorem declaredAtIff (before : List Char) (c : Char) (text : List Char) (name : String) :
    DeclaredAt (before.reverse ++ c :: text) before.length name ↔
      isTerminator c = true ∧ EndsIn before name := by
  constructor
  · rintro ⟨front, word, stop, rest, split, place, sign, valid, starts⟩
    obtain ⟨same, behind⟩ := List.append_inj split (by rw [List.length_reverse, place])
    cases behind
    exact ⟨sign, front, word, same, valid, starts⟩
  · rintro ⟨sign, front, word, split, valid, starts⟩
    refine ⟨front, word, c, text, by rw [split], ?_, sign, valid, starts⟩
    rw [← split, List.length_reverse]

theorem declaredAtInside {text : List Char} {place : Nat} {name : String}
    (found : DeclaredAt text place name) : place < text.length := by
  obtain ⟨front, word, stop, rest, rfl, rfl, _⟩ := found
  simp only [List.length_append, List.length_cons]
  omega

theorem endedListed {before text : List Char} {names : List String} (ended : Ended before text names) :
    ListedFrom before.length (DeclaredAt (before.reverse ++ text)) names := by
  induction ended with
  | nil before =>
    refine listedNone fun place name reached found => ?_
    have inside := declaredAtInside found
    rw [List.append_nil, List.length_reverse] at inside
    omega
  | @name before c text name names sign ends later ih =>
    have here : ∀ other, some name = some other ↔
        DeclaredAt (before.reverse ++ c :: text) before.length other := by
      intro other
      rw [declaredAtIff, Option.some.injEq]
      exact ⟨fun same => ⟨sign, same ▸ ends⟩, fun found => endsInUnique ends found.2⟩
    rw [List.reverse_cons, List.append_assoc] at ih
    exact listedStep here ih
  | @other before c text names sign nothing later ih =>
    have here : ∀ name, none = some name ↔
        DeclaredAt (before.reverse ++ c :: text) before.length name := by
      intro name
      rw [declaredAtIff]
      exact iff_of_false (by simp) fun found => nothing name found.2
    rw [List.reverse_cons, List.append_assoc] at ih
    exact listedStep here ih
  | @inside before c text names sign later ih =>
    have here : ∀ name, none = some name ↔
        DeclaredAt (before.reverse ++ c :: text) before.length name := by
      intro name
      rw [declaredAtIff, sign]
      exact iff_of_false (by simp) (by simp)
    rw [List.reverse_cons, List.append_assoc] at ih
    exact listedStep here ih

def isMiscased (name : String) : Bool :=
  name.toList.head?.any Char.isUpper && name.toList.any Char.isLower &&
    name.toList.getLast? != some '_'

def errorOf (file name : String) : Violation :=
  { check := "variable-names"
    file
    message := "variable name '" ++ name ++ "' should use lower camel case (lowercase first letter)"
    severity := .error }

theorem endsUnderscore (name : String) :
    Naming.endsWith name "_" = (name.toList.getLast? == some '_') := by
  rw [Bool.eq_iff_iff, beq_iff_eq, List.getLast?_eq_some_iff, Naming.endsWith,
    List.isSuffixOf_iff_suffix]
  exact exists_congr fun front => eq_comm

/- The characters of a name are ASCII, where the two notions of letter case agree. -/
theorem reportedIffMiscased {name : String} (valid : Identifier name) :
    (!isExempt name && startsUppercase name) = isMiscased name := by
  have ascii : ∀ c ∈ name.toList, isAscii c = true :=
    fun c member => partAscii ((identifierParts valid).2 c member)
  have lower : name.toList.any isLowercase = name.toList.any Char.isLower := by
    rw [Bool.eq_iff_iff, List.any_eq_true, List.any_eq_true]
    refine exists_congr fun c => and_congr_right fun member => ?_
    rw [isLowercase, if_pos (ascii c member)]
  obtain ⟨c, rest, spelled, _, _⟩ := valid.shape
  have member : c ∈ name.toList := by rw [spelled]; exact List.mem_cons_self
  have first : isUppercase c = c.isUpper := by rw [isUppercase, if_pos (ascii c member)]
  rw [isExempt, endsUnderscore, Naming.isAllUppercase, lower, startsUppercase,
    isMiscased, spelled, List.head?_cons, Option.any_some, Option.any_some, first]
  cases upper : c.isUpper with
  | false => simp
  | true => simp [first, upper, bne]

theorem variableErrors (config : Config) (file : SourceFile) :
    rule.check.run config file =
      ((declared file.text.toList).filter isMiscased).map (errorOf file.name) := by
  have either (name : String) : ¬ (isExempt name || !startsUppercase name) = true ↔
      (!isExempt name && startsUppercase name) = true := by
    simp
  simp only [Rule.check, rule, saidFiltered either, List.map_map]
  refine congrArg _ (List.filter_congr fun name member => ?_)
  obtain ⟨found, inside, rfl⟩ := List.mem_map.mp member
  rw [reportedIffMiscased (occurrenceValid variableReads inside)]
  simp

theorem variablesExamined (config : Config) (file : SourceFile) :
    let names := declared file.text.toList
    Listed (DeclaredAt file.text.toList) names ∧
    rule.check.run config file = (names.filter isMiscased).map (errorOf file.name) := by
  intro names
  exact ⟨listedAll (endedListed (declaredEnded _)), variableErrors config file⟩

example : declared "int int X = std::string Y;foo::string\nZ ;".toList = ["X", "Y", "Z"] := by
  decide +kernel

end HouseStyle.VariableNames
