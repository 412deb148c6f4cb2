import HouseStyle.Proofs.Conversions

/-! Blank lines at the ends of a text. A line feed before a text begins nothing, and is no character
that a word or a line could not begin behind; one behind a text ends nothing that the end of the text
would not end. So neither adds, loses or changes a report, and any number of them does not either. -/
namespace HouseStyle.Text

def feed (text : List Char) : List Char := text ++ ['\n']

/- What is left of a text with a line feed at its end, beside what is left of the text: the line feed
is still there, or it went with the last blanks and nothing is left of either. -/
def Fed (long short : List Char) : Prop := long = feed short ∨ long = [] ∧ short = []

theorem fedDropWhile {p : Char → Bool} (drops : p '\n' = true) {long short : List Char}
    (fed : Fed long short) : Fed (long.dropWhile p) (short.dropWhile p) := by
  rcases fed with rfl | ⟨rfl, rfl⟩
  · induction short with
    | nil => exact Or.inr ⟨List.dropWhile_cons_of_pos drops, rfl⟩
    | cons c short ih =>
      unfold feed at ih ⊢
      rw [List.cons_append, List.dropWhile_cons, List.dropWhile_cons]
      split
      · exact ih
      · exact Or.inl rfl
  · exact Or.inr ⟨rfl, rfl⟩

theorem fedBlanks {long short : List Char} (fed : Fed long short) : Fed (blanks long) (blanks short) :=
  fedDropWhile rfl fed

theorem feedDropWhile {p : Char → Bool} (stops : p '\n' = false) (text : List Char) :
    (feed text).dropWhile p = feed (text.dropWhile p) := by
  unfold feed
  induction text with
  | nil => simp [stops]
  | cons c text ih =>
    rw [List.cons_append, List.dropWhile_cons, List.dropWhile_cons]
    split
    · exact ih
    · rfl

theorem feedTakeWhile {p : Char → Bool} (stops : p '\n' = false) (text : List Char) :
    (feed text).takeWhile p = text.takeWhile p := by
  unfold feed
  induction text with
  | nil => simp [stops]
  | cons c text ih => rw [List.cons_append, List.takeWhile_cons, List.takeWhile_cons, ih]

def feedRest {α : Type} (found : α × List Char) : α × List Char := (found.1, feed found.2)

theorem feedLiteral {word : List Char} (inside : word.all isInline = true) (text : List Char) :
    literal word (feed text) = (literal word text).map feed := by
  induction word generalizing text with
  | nil => rfl
  | cons w word ih =>
    obtain ⟨here, later⟩ := Bool.and_eq_true_iff.mp inside
    cases text with
    | nil =>
      have apart : w ≠ '\n' := by
        rintro rfl
        contradiction
      exact if_neg apart
    | cons c text =>
      change literal (w :: word) (c :: feed text) = _
      rw [literal, literal]
      split
      · exact ih later text
      · rfl

theorem fedLiteral {first : Char} {word : List Char} (inside : (first :: word).all isInline = true)
    {long short : List Char} (fed : Fed long short) :
    literal (first :: word) long = (literal (first :: word) short).map feed := by
  rcases fed with rfl | ⟨rfl, rfl⟩
  · exact feedLiteral inside short
  · rfl

theorem fedSingle {p : Char → Bool} (other : p '\n' = false) {long short : List Char}
    (fed : Fed long short) : single p long = (single p short).map feed := by
  rcases fed with rfl | ⟨rfl, rfl⟩
  · cases short with
    | nil => exact if_neg (by simp [other])
    | cons c short =>
      change single p (c :: feed short) = _
      rw [single, single]
      split <;> rfl
  · rfl

theorem fedRun {first more : Char → Bool} (other : first '\n' = false) (stops : more '\n' = false)
    {long short : List Char} (fed : Fed long short) :
    run first more long = (run first more short).map feedRest := by
  rcases fed with rfl | ⟨rfl, rfl⟩
  · cases short with
    | nil => exact if_neg (by simp [other])
    | cons c short =>
      change run first more (c :: feed short) = _
      rw [run, run, feedTakeWhile stops, feedDropWhile stops]
      split <;> rfl
  · rfl

theorem feedSomeBlanks {α : Type} {next : List Char → Option (α × List Char)} (missing : next [] = none)
    (each : ∀ {long short : List Char}, Fed long short → next long = (next short).map feedRest)
    (text : List Char) :
    (someBlanks (feed text)).bind next = ((someBlanks text).bind next).map feedRest := by
  cases text with
  | nil => exact missing
  | cons c text =>
    change (someBlanks (c :: feed text)).bind next = _
    rw [someBlanks, someBlanks]
    split
    · exact each (fedBlanks (Or.inl rfl))
    · rfl

theorem feedWordStart (before : List Char) : atWordStart (feed before) = atWordStart before := by
  cases before <;> rfl

theorem feedLineStart (before : List Char) : atLineStart (feed before) = atLineStart before := by
  cases before <;> rfl

end HouseStyle.Text

namespace HouseStyle.Declaration
open Text

structure Unmoved {α : Type} (shape : Shape α) : Prop where
  above : ∀ before text : List Char, shape (feed before) text = shape before text
  below : ∀ before text : List Char, shape before (feed text) = (shape before text).map feedRest

theorem bindSame {α γ δ : Type} {found : Option α} {g : α → Option γ} {h : α → Option δ} {k : δ → γ}
    (each : ∀ value, g value = (h value).map k) : found.bind g = (found.bind h).map k :=
  bindCarried (f := id) Option.map_id_apply.symm each

theorem feedType {α : Type} {types : List (List Char)} (inside : types.all (·.all isInline) = true)
    {next : List Char → Option (α × List Char)} (missing : next [] = none)
    (each : ∀ {long short : List Char}, Fed long short → next long = (next short).map feedRest)
    (text : List Char) :
    (typeThenBlanks types (feed text)).bind next =
      ((typeThenBlanks types text).bind next).map feedRest := by
  have found : types.findSome? (literal · (feed text)) =
      (types.findSome? (literal · text)).map feed :=
    findCarried inside fun word => feedLiteral word text
  change ((types.findSome? (literal · (feed text))).bind someBlanks).bind next =
    (((types.findSome? (literal · text)).bind someBlanks).bind next).map feedRest
  rw [Option.bind_assoc, Option.bind_assoc]
  exact bindCarried found (feedSomeBlanks missing each)

theorem fedIdentifier {long short : List Char} (fed : Fed long short) :
    identifier long = (identifier short).map feedRest := fedRun rfl rfl fed

theorem fedOwner {long short : List Char} (fed : Fed long short) :
    ownerName long = (ownerName short).map feedRest := fedRun rfl rfl fed

theorem feedOpening (text : List Char) : opening (feed text) = (opening text).map feed :=
  fedSingle rfl (fedBlanks (Or.inl rfl))

theorem feedParameters (text : List Char) : parameters (feed text) = (parameters text).map feed :=
  fedSingle rfl (fedDropWhile rfl (Or.inl rfl))

theorem feedBody (text : List Char) : bodyOrEnd (feed text) = (bodyOrEnd text).map feed := by
  have start : Fed (blanks (feed text)) (blanks text) := fedBlanks (Or.inl rfl)
  have word : literal ['c', 'o', 'n', 's', 't'] (blanks (feed text)) = _ := fedLiteral (by decide) start
  have qualified : Fed ((literal ['c', 'o', 'n', 's', 't'] (blanks (feed text))).getD (blanks (feed text)))
      ((literal ['c', 'o', 'n', 's', 't'] (blanks text)).getD (blanks text)) := by
    rw [word]
    cases literal ['c', 'o', 'n', 's', 't'] (blanks text) with
    | none => exact start
    | some rest => exact Or.inl rfl
  exact fedSingle rfl (fedBlanks qualified)

theorem functionUnmoved {α : Type} {head : Shape α} (unmoved : Unmoved head) :
    Unmoved (function head) where
  above before text := by simp only [function, unmoved.above]
  below before text := by
    refine bindCarried (unmoved.below before text) fun opened => ?_
    refine bindCarried (feedParameters opened.2) fun rest => ?_
    refine bindCarried (feedBody rest) fun rest => ?_
    rfl

theorem constructorUnmoved : Unmoved constructorHead where
  above before text := by rw [constructorHead, constructorHead, feedLineStart]
  below before text := by
    refine bindSame fun _ => ?_
    refine bindCarried (fedOwner (Or.inl rfl)) fun owned => ?_
    refine bindCarried (feedLiteral (by decide) owned.2) fun rest => ?_
    refine bindCarried (fedIdentifier (Or.inl rfl)) fun named => ?_
    refine bindCarried (feedOpening named.2) fun rest => ?_
    rfl

theorem memberUnmoved : Unmoved memberHead where
  above before text := by rw [memberHead, memberHead, feedWordStart]
  below before text := by
    refine feedType (by decide) (by cases atWordStart before <;> rfl) (fun fed => ?_) text
    refine bindSame fun _ => ?_
    refine bindCarried (fedOwner fed) fun owned => ?_
    refine bindCarried (feedLiteral (by decide) owned.2) fun rest => ?_
    refine bindCarried (fedIdentifier (fedBlanks (Or.inl rfl))) fun named => ?_
    refine bindCarried (feedOpening named.2) fun rest => ?_
    rfl

theorem freeUnmoved : Unmoved freeHead where
  above before text := by rw [freeHead, freeHead, feedWordStart]
  below before text := by
    refine feedType (by decide) (by cases atWordStart before <;> rfl) (fun fed => ?_) text
    refine bindSame fun _ => ?_
    refine bindCarried (fedIdentifier fed) fun named => ?_
    refine bindCarried (feedOpening named.2) fun rest => ?_
    rfl

theorem feedDeclarator {types : List (List Char)} (inside : types.all (·.all isInline) = true)
    (text : List Char) : declarator types (feed text) = (declarator types text).map feedRest := by
  refine feedType inside rfl (fun fed => ?_) text
  refine bindCarried (fedIdentifier fed) fun named => ?_
  refine bindCarried (fedSingle rfl (fedBlanks (Or.inl rfl))) fun rest => ?_
  rfl

theorem variableUnmoved : Unmoved variableDeclaration where
  above before text := by rw [variableDeclaration, variableDeclaration, feedWordStart]
  below before text := by
    refine bindCarried (feedDeclarator (by decide) text) fun found => ?_
    refine bindSame fun _ => ?_
    rfl

theorem classUnmoved : Unmoved classDeclaration where
  above before text := by rw [classDeclaration, classDeclaration, feedWordStart]
  below before text := by
    refine bindCarried (feedLiteral (by decide) text) fun rest => ?_
    refine bindSame fun _ => ?_
    exact feedSomeBlanks rfl fedIdentifier rest

theorem macroUnmoved : Unmoved macroDefinition where
  above _ _ := rfl
  below before text := by
    refine bindCarried (feedLiteral (by decide) text) fun rest => ?_
    exact feedSomeBlanks rfl fedIdentifier rest

def lower {α : Type} (found : Occurrence α) : Occurrence α := ⟨found.value, feed found.before⟩

theorem searchAbove {α : Type} {shape : Shape α} (unmoved : Unmoved shape) (before : List Char)
    (covered : Nat) (text : List Char) :
    occurrencesFrom shape (feed before) covered text =
      (occurrencesFrom shape before covered text).map lower := by
  induction text generalizing before covered with
  | nil => rfl
  | cons c text ih =>
    cases covered with
    | succ covered => exact ih (c :: before) covered
    | zero =>
      rw [occurrencesFrom, occurrencesFrom, unmoved.above]
      cases shape before (c :: text) with
      | none => exact ih (c :: before) 0
      | some found => exact congrArg (_ :: ·) (ih (c :: before) _)

theorem searchBelow {α : Type} {shape : Shape α} {valid : α → Prop} (reads : Reads shape valid)
    (unmoved : Unmoved shape) (before text : List Char) :
    occurrencesFrom shape before 0 (feed text) = occurrencesFrom shape before 0 text := by
  refine searchInduction (motive := fun before text found =>
    occurrencesFrom shape before 0 (feed text) = found) (readsOn reads) ?none ?miss ?hit before text
  case none =>
    intro before
    change occurrencesFrom shape before 0 ['\n'] = []
    rw [occurrencesFrom, reads.feed]
    rfl
  case miss =>
    intro before c text found unread later
    have fed : shape before (c :: feed text) = (shape before (c :: text)).map feedRest :=
      unmoved.below before (c :: text)
    rw [unread] at fed
    change occurrencesFrom shape before 0 (c :: feed text) = found
    rw [occurrencesFrom, fed]
    exact later
  case hit =>
    intro before word rest value found some read later
    have whole : feed (word ++ rest) = word ++ feed rest := List.append_assoc word rest ['\n']
    have fed := unmoved.below before (word ++ rest)
    rw [read, whole] at fed
    rw [whole, occurrencesHit fed some, later]

theorem occurrencesAbove {α : Type} {shape : Shape α} {valid : α → Prop} (reads : Reads shape valid)
    (unmoved : Unmoved shape) (text : List Char) :
    occurrences shape ('\n' :: text) = (occurrences shape text).map lower := by
  rw [occurrences, occurrencesFrom, reads.feed]
  exact searchAbove unmoved [] 0 text

end HouseStyle.Declaration

namespace HouseStyle.Text

theorem contextLower {α : Type} (found : Occurrence α) (width : Nat) :
    holds Declaration.colons ((Declaration.lower found).context width) =
      holds Declaration.colons (found.context width) := by
  have window : (Declaration.lower found).context width =
      (['\n'].take (width - found.before.length)).reverse ++ found.context width := by
    simp only [Occurrence.context, Declaration.lower, feed, List.take_append, List.reverse_append]
  rw [window]
  cases width - found.before.length with
  | zero => rfl
  | succ further =>
    rw [List.take_succ_cons, List.take_nil]
    rfl

/- A line feed behind a text ends its last line, or makes an empty one where the text ends with a line.
The last line loses a carriage return at its end, which no longer stands at the end of the text. -/
theorem linesFed (text : List Char) :
    ∃ kept added, lines (feed text) = kept ++ added ∧ (added = [] ∨ added = [[]]) ∧
      List.Forall₂ (fun line long => long = line ∨ long = line ++ ['\r']) kept (lines text) := by
  induction text with
  | nil => exact ⟨[], [[]], rfl, Or.inr rfl, .nil⟩
  | cons c text ih =>
    change ∃ kept added, lines (c :: feed text) = kept ++ added ∧ _
    obtain ⟨kept, added, split, either, beside⟩ := ih
    by_cases feeds : c = '\n'
    · subst feeds
      exact ⟨[] :: kept, added, congrArg ([] :: ·) split, either, .cons (Or.inl rfl) beside⟩
    · cases text with
      | nil =>
        by_cases returns : c = '\r'
        · subst returns
          exact ⟨[[]], [], rfl, Or.inl rfl, .cons (Or.inr rfl) .nil⟩
        · refine ⟨[[c]], [], ?_, Or.inl rfl, ?_⟩
          · simp [feed, lines, feeds, returns]
          · rw [lines, if_neg feeds, if_neg (by simp)]
            exact .cons (Or.inl rfl) .nil
      | cons d text =>
        by_cases both : c = '\r' ∧ d = '\n'
        · obtain ⟨rfl, rfl⟩ := both
          exact ⟨kept, added, split, either, beside⟩
        · obtain ⟨first, _, rest, _, step, _⟩ := linesStep (d :: text) (by simp)
          have short : lines (c :: d :: text) = (c :: first) :: lines rest := by
            rw [lines, if_neg feeds, if_neg (by simpa using both), step]
          rw [step] at beside
          rw [short]
          cases beside with
          | @cons line _ others _ same later =>
            have long : lines (c :: feed (d :: text)) = (c :: line) :: (others ++ added) := by
              rw [lines, if_neg feeds, if_neg (by simpa [feed] using both), split]
              rfl
            refine ⟨(c :: line) :: others, added, long, either, .cons ?_ later⟩
            rcases same with rfl | rfl
            · exact Or.inl rfl
            · exact Or.inr rfl

end HouseStyle.Text

namespace HouseStyle.GlobalVariables
open Text

theorem declaredEmptyLine (scope : Scope) (before : List (List Char)) :
    declaredFrom scope (before ++ [[]]) = declaredFrom scope before := by
  induction before generalizing scope with
  | nil =>
    change (if (scope.after []).isFile then [] else []) = []
    split <;> rfl
  | cons line rest ih => simp only [List.cons_append, declaredFrom, ih]

theorem declaredFed (text : List Char) : declared (feed text) = declared text := by
  obtain ⟨kept, added, split, either, beside⟩ := linesFed text
  unfold declared
  rw [split, declaredFromCarried beside]
  rcases either with rfl | rfl
  · rw [List.append_nil]
  · exact declaredEmptyLine {} kept

end HouseStyle.GlobalVariables

namespace HouseStyle
open Text Declaration

theorem selectedAbove {α β : Type} {shape : Shape α} {valid : α → Prop} (reads : Reads shape valid)
    (unmoved : Unmoved shape) {select : Occurrence α → Option β}
    (blind : ∀ found, select (lower found) = select found) (text : List Char) :
    (occurrences shape ('\n' :: text)).filterMap select = (occurrences shape text).filterMap select := by
  rw [occurrencesAbove reads unmoved, List.filterMap_map]
  exact List.filterMap_congr fun found _ => blind found

theorem namesAbove {shape : Shape String} {valid : String → Prop} (reads : Reads shape valid)
    (unmoved : Unmoved shape) (text : List Char) :
    (occurrences shape ('\n' :: text)).map (·.value) = (occurrences shape text).map (·.value) := by
  rw [occurrencesAbove reads unmoved, List.map_map]
  rfl

theorem messagesAbove (config : Config) (text : List Char) : ∀ rule ∈ styleGuide,
    rule.messages config ('\n' :: text) = rule.messages config text := by
  apply everyRule
  case functionNames =>
    have constructors : FunctionNames.constructorMessages ('\n' :: text) = _ :=
      selectedAbove (functionReads constructorReads) (functionUnmoved constructorUnmoved)
        (fun _ => rfl) text
    have members : FunctionNames.memberMessages ('\n' :: text) = _ :=
      selectedAbove (functionReads memberReads) (functionUnmoved memberUnmoved) (fun _ => rfl) text
    have free : FunctionNames.freeMessages config.scopeContextChars ('\n' :: text) = _ :=
      selectedAbove (functionReads freeReads) (functionUnmoved freeUnmoved)
        (fun found => by rw [contextLower]; rfl) text
    simp only [FunctionNames.rule, constructors, members, free]
    rfl
  case variableNames =>
    exact congrArg (List.filterMap _) (namesAbove variableReads variableUnmoved text)
  case classNames => exact congrArg (List.filterMap _) (namesAbove classReads classUnmoved text)
  case macroNames => exact congrArg (List.filterMap _) (namesAbove macroReads macroUnmoved text)
  case globalVariables => rfl
  case headerGuard => rfl
  case headerStructure => rfl
  case sourceStructure => rfl

theorem messagesBelow (config : Config) (text : List Char) : ∀ rule ∈ styleGuide,
    rule.messages config (feed text) = rule.messages config text := by
  have search {α : Type} {shape : Shape α} {valid : α → Prop} (reads : Reads shape valid)
      (unmoved : Unmoved shape) : occurrences shape (feed text) = occurrences shape text :=
    searchBelow reads unmoved [] text
  apply everyRule
  case functionNames =>
    simp only [FunctionNames.rule, FunctionNames.constructorMessages, FunctionNames.memberMessages,
      FunctionNames.freeMessages, search (functionReads constructorReads) (functionUnmoved constructorUnmoved),
      search (functionReads memberReads) (functionUnmoved memberUnmoved),
      search (functionReads freeReads) (functionUnmoved freeUnmoved)]
  case variableNames =>
    simp only [VariableNames.rule, VariableNames.declared, search variableReads variableUnmoved]
  case classNames => simp only [ClassNames.rule, ClassNames.declared, search classReads classUnmoved]
  case macroNames => simp only [MacroNames.rule, MacroNames.defined, search macroReads macroUnmoved]
  case globalVariables => simp only [GlobalVariables.rule, GlobalVariables.declaredFed]
  case headerGuard =>
    have opens : Layout.opensGuarded (feed text) = Layout.opensGuarded text := by
      have start : Fed (trimStart (feed text)) (trimStart text) := fedBlanks (Or.inl rfl)
      rw [Layout.opensGuarded, Layout.opensGuarded, prefixLiteral, prefixLiteral,
        fedLiteral (by decide) start, Option.isSome_map]
    simp only [Layout.headerGuard, opens]
  case headerStructure => rfl
  case sourceStructure => rfl

theorem messagesBetween (config : Config) (text : List Char) (above below : Nat) : ∀ rule ∈ styleGuide,
    rule.messages config (List.replicate above '\n' ++ text ++ List.replicate below '\n') =
      rule.messages config text := by
  intro rule member
  induction below with
  | zero =>
    rw [List.replicate_zero, List.append_nil]
    induction above with
    | zero => rfl
    | succ above ih =>
      rw [List.replicate_succ, List.cons_append, messagesAbove config _ rule member, ih]
  | succ below ih =>
    have last : List.replicate above '\n' ++ text ++ List.replicate (below + 1) '\n' =
        feed (List.replicate above '\n' ++ text ++ List.replicate below '\n') := by
      rw [List.replicate_succ', feed, List.append_assoc _ _ ['\n']]
    rw [last, messagesBelow config _ rule member, ih]

theorem blankLinesUnseen (config : Config) (file : SourceFile) (above below : Nat) :
    let padded : SourceFile := { file with
      text := String.ofList
        (List.replicate above '\n' ++ file.text.toList ++ List.replicate below '\n') }
    (∀ check ∈ defaultChecks, check.run config padded = check.run config file) ∧
    (Linter.ofStyleGuide config).lint padded = (Linter.ofStyleGuide config).lint file := by
  intro padded
  have each : ∀ rule ∈ styleGuide, rule.check.run config padded = rule.check.run config file := by
    intro rule member
    have same := messagesBetween config file.text.toList above below rule member
    simp only [Rule.check, padded, String.toList_ofList, same]
  refine ⟨?_, Linter.sameLint rfl each⟩
  intro check member
  obtain ⟨rule, listed, rfl⟩ := List.mem_map.mp member
  exact each rule listed

theorem blankLinesUnseenSample :
    let file : SourceFile := ⟨"a.h", "int Count = 1;"⟩
    let padded : SourceFile := ⟨"a.h", "\n\nint Count = 1;\n"⟩
    let engine := Linter.ofStyleGuide {}
    GlobalVariables.rule.check ∈ defaultChecks ∧
    GlobalVariables.rule.check.run {} padded = GlobalVariables.rule.check.run {} file ∧
    (GlobalVariables.rule.check.run {} file).length = 1 ∧
    engine.lint padded = engine.lint file ∧ (engine.lint file).length = 3 := by
  intro file padded engine
  have member : GlobalVariables.rule.check ∈ defaultChecks :=
    List.mem_map_of_mem (by simp [styleGuide])
  have spelled : String.ofList (List.replicate 2 '\n' ++ "int Count = 1;".toList ++
      List.replicate 1 '\n') = "\n\nint Count = 1;\n" := by decide +kernel
  have unseen := blankLinesUnseen {} file 2 1
  simp only [file, spelled] at unseen
  obtain ⟨each, all⟩ := unseen
  exact ⟨member, each _ member, by decide +kernel, all, by decide +kernel⟩

end HouseStyle
