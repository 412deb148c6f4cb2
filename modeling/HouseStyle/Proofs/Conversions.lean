import HouseStyle.Proofs.LineEndings

/-! Files whose line endings are converted. Every rule but that for functions reports the same; that
for functions loses nothing, and what it reports in addition are free functions that the window no
longer takes for members. -/
namespace HouseStyle.Text

theorem prefixLiteral (word text : List Char) : word.isPrefixOf text = (literal word text).isSome := by
  induction word generalizing text with
  | nil => rfl
  | cons w word ih =>
    cases text with
    | nil => rfl
    | cons c text =>
      rw [List.isPrefixOf, literal, ih]
      by_cases same : w = c <;> simp [same]

theorem prefixCarried {word : List Char} (inside : word.all isInline = true) (text : List Char) :
    word.isPrefixOf (toCrlf text) = word.isPrefixOf text := by
  rw [prefixLiteral, prefixLiteral, literalCarried inside, Option.isSome_map]

theorem holdsCarried {first : Char} {word : List Char} (inside : (first :: word).all isInline = true)
    (text : List Char) : holds (first :: word) (toCrlf text) = holds (first :: word) text := by
  induction text with
  | nil => rfl
  | cons c text ih =>
    have front := prefixCarried inside (c :: text)
    by_cases feed : c = '\n'
    · subst feed
      have apart : (first == '\n') = false := by
        simp only [List.all_cons, isInline, Bool.and_eq_true, bne_iff_ne] at inside
        exact beq_eq_false_iff_ne.mpr inside.1.2
      -- no word begins at the line feed, so the place inside the pair adds nothing
      have between : (first :: word).isPrefixOf ('\n' :: toCrlf text) = false := by
        rw [List.isPrefixOf, apart, Bool.false_and]
      rw [toCrlfFeed] at front ⊢
      rw [holds, holds, holds, front, between, ih, Bool.false_or]
    · rw [toCrlfOther feed] at front ⊢
      rw [holds, holds, front, ih]

theorem takeCarried (width : Nat) (before : List Char) :
    (toCrlfBack before).take width <+: toCrlfBack (before.take width) := by
  induction before generalizing width with
  | nil => simp [toCrlfBack]
  | cons c before ih =>
    cases width with
    | zero => simp
    | succ width =>
      by_cases feed : c = '\n'
      · subst feed
        -- the pair takes two places of the window where the line feed took one
        have shorter : (toCrlfBack before).take (width - 1) <+: (toCrlfBack before).take width :=
          List.take_prefix_take_left (by omega)
        have nearer := shorter.trans (ih width)
        cases width with
        | zero => simp [toCrlfBack]
        | succ width => simpa [toCrlfBack, List.prefix_cons_inj] using nearer
      · simpa [toCrlfBackOther feed, List.prefix_cons_inj] using ih width

theorem toCrlfReverse (before : List Char) : (toCrlfBack before).reverse = toCrlf before.reverse := by
  have turned := toCrlfTurned before.reverse []
  simp only [List.reverse_reverse, List.append_nil, toCrlfBack] at turned
  rw [← turned, List.reverse_reverse]

theorem contextCarried {α : Type} (found : Occurrence α) (width : Nat)
    (seen : holds Declaration.colons ((Declaration.carryPlace found).context width) = true) :
    holds Declaration.colons (found.context width) = true := by
  have inside : (Declaration.carryPlace found).context width <:+ toCrlf (found.context width) := by
    rw [Occurrence.context, Occurrence.context, ← toCrlfReverse]
    exact List.reverse_suffix.mpr (takeCarried width found.before)
  rw [Declaration.colons] at seen ⊢
  rw [← holdsCarried (by decide), holdsIff]
  rw [holdsIff] at seen
  exact seen.trans inside.isInfix

theorem trimBlankEnd {c : Char} (blank : isBlank c = true) (line : List Char) :
    trim (line ++ [c]) = trim line := by
  have start : trimStart (line ++ [c]) = trimStart line ++ [c] ∨
      trimStart (line ++ [c]) = [] ∧ trimStart line = [] := by
    simp only [trimStart, List.dropWhile_append]
    cases rest : line.dropWhile isBlank with
    | nil => simp [blank]
    | cons d rest => simp
  rcases start with more | ⟨none, same⟩
  · simp [trim, more, trimEnd, blank]
  · simp only [trim, none, same]

theorem toCrlfHead (text : List Char) : (toCrlf text).head? ≠ some '\n' := by
  cases text with
  | nil => simp [toCrlf]
  | cons c text => by_cases feed : c = '\n' <;> simp [toCrlf, feed]

theorem linesCarried (text : List Char) :
    List.Forall₂ (fun line long => long = line ∨ long = line ++ ['\r']) (lines text)
      (lines (toCrlf text)) := by
  induction text with
  | nil => exact .nil
  | cons c text ih =>
    by_cases feed : c = '\n'
    · subst feed
      simp only [toCrlfFeed, lines]
      exact .cons (Or.inl rfl) ih
    · rw [toCrlfOther feed]
      -- a carriage return that the text drops is kept where another one now stands behind it
      by_cases both : c = '\r' ∧ text.head? = some '\n'
      · obtain ⟨rfl, head⟩ := both
        cases text with
        | nil => contradiction
        | cons d rest =>
          cases Option.some.inj head
          have short : lines ('\r' :: '\n' :: rest) = [] :: lines rest := rfl
          have long : lines ('\r' :: '\r' :: '\n' :: toCrlf rest) = ['\r'] :: lines (toCrlf rest) := rfl
          rw [toCrlfFeed, short, long]
          cases ih with
          | cons _ later => exact .cons (Or.inr rfl) later
      · have alone : ¬ (c = '\r' ∧ (toCrlf text).head? = some '\n') :=
          fun pair => toCrlfHead text pair.2
        rw [lines, if_neg feed, if_neg both, lines, if_neg feed, if_neg alone]
        generalize lines text = short at ih ⊢
        generalize lines (toCrlf text) = long at ih ⊢
        cases ih with
        | nil => exact .cons (Or.inl rfl) .nil
        | cons first later =>
          refine .cons ?_ later
          rcases first with rfl | rfl
          · exact Or.inl rfl
          · exact Or.inr rfl

end HouseStyle.Text

namespace HouseStyle.GlobalVariables
open Text Declaration

theorem scopeReturn (scope : Scope) (line : List Char) :
    scope.after (line ++ ['\r']) = scope.after line := by
  have mentions : mentionsClass (line ++ ['\r']) = mentionsClass line := by
    rw [Bool.eq_iff_iff, mentionsClass, mentionsClass, holdsIff, holdsIff, List.infix_concat_iff]
    refine or_iff_right fun ⟨front, ends⟩ => ?_
    have last := congrArg List.getLast? ends
    simp at last
  simp [Scope.after, mentions]

theorem declaredReturn (line : List Char) : declared? (line ++ ['\r']) = declared? line := by
  rw [declared?, declared?, trimBlankEnd rfl]

theorem declaredFromCarried {short long : List (List Char)}
    (beside : List.Forall₂ (fun line long => long = line ∨ long = line ++ ['\r']) short long)
    (scope : Scope) : declaredFrom scope long = declaredFrom scope short := by
  induction beside generalizing scope with
  | nil => rfl
  | cons first _ ih =>
    rcases first with rfl | rfl
    · simp only [declaredFrom, ih]
    · simp only [declaredFrom, scopeReturn, declaredReturn, ih]

theorem declaredCarried (text : List Char) : declared (toCrlf text) = declared text :=
  declaredFromCarried (linesCarried text) {}

end HouseStyle.GlobalVariables

namespace HouseStyle
open Text Declaration

def SourceFile.toCrlf (file : SourceFile) : SourceFile :=
  { file with text := String.ofList (Text.toCrlf file.text.toList) }

theorem toCrlfText (file : SourceFile) : file.toCrlf.text.toList = Text.toCrlf file.text.toList :=
  String.toList_ofList

theorem namesCarried {shape : Shape String} {valid : String → Prop} (reads : Reads shape valid)
    (carried : CarriedShape shape) (text : List Char) :
    (occurrences shape (Text.toCrlf text)).map (·.value) = (occurrences shape text).map (·.value) := by
  rw [occurrencesCarried reads carried, List.map_map]
  rfl

theorem selectedCarried {α β : Type} {shape : Shape α} {valid : α → Prop} (reads : Reads shape valid)
    (carried : CarriedShape shape) {select : Occurrence α → Option β}
    (blind : ∀ found, select (carryPlace found) = select found) (text : List Char) :
    (occurrences shape (Text.toCrlf text)).filterMap select =
      (occurrences shape text).filterMap select := by
  rw [occurrencesCarried reads carried, List.filterMap_map]
  exact List.filterMap_congr fun found _ => blind found

theorem constructorMessagesCarried (text : List Char) :
    FunctionNames.constructorMessages (Text.toCrlf text) = FunctionNames.constructorMessages text :=
  selectedCarried (functionReads constructorReads) (functionCarried constructorCarried)
    (fun _ => rfl) text

theorem memberMessagesCarried (text : List Char) :
    FunctionNames.memberMessages (Text.toCrlf text) = FunctionNames.memberMessages text :=
  selectedCarried (functionReads memberReads) (functionCarried memberCarried) (fun _ => rfl) text

theorem freeMessagesCarried (width : Nat) (text : List Char) :
    FunctionNames.freeMessages width (Text.toCrlf text) =
      (occurrences (function freeHead) text).filterMap fun found =>
        FunctionNames.freeMessage (holds colons ((carryPlace found).context width)) found.value := by
  rw [FunctionNames.freeMessages,
    occurrencesCarried (functionReads freeReads) (functionCarried freeCarried), List.filterMap_map]
  rfl

theorem freeNamesCarried (text : List Char) :
    FunctionNames.freeNames (Text.toCrlf text) = FunctionNames.freeNames text :=
  namesCarried (functionReads freeReads) (functionCarried freeCarried) text

theorem otherMessagesCarried (config : Config) (text : List Char) : ∀ rule ∈ styleGuide,
    rule.name ≠ "function-names" →
      rule.messages config (Text.toCrlf text) = rule.messages config text := by
  apply everyRule
  case functionNames => exact fun other => absurd rfl other
  case variableNames =>
    intro _
    exact congrArg (List.filterMap _) (namesCarried variableReads variableCarried text)
  case classNames =>
    intro _
    exact congrArg (List.filterMap _) (namesCarried classReads classCarried text)
  case macroNames =>
    intro _
    exact congrArg (List.filterMap _) (namesCarried macroReads macroCarried text)
  case globalVariables =>
    intro _
    exact congrArg (List.map _) (GlobalVariables.declaredCarried text)
  case headerGuard =>
    intro _
    have opens : Layout.opensGuarded (Text.toCrlf text) = Layout.opensGuarded text := by
      rw [Layout.opensGuarded, trimStart, toCrlfDropWhile rfl, prefixCarried (by decide)]
      rfl
    simp only [Layout.headerGuard, opens]
  case headerStructure => exact fun _ => rfl
  case sourceStructure => exact fun _ => rfl

theorem otherReportsCarried (config : Config) (file : SourceFile) : ∀ rule ∈ styleGuide,
    rule.name ≠ "function-names" →
      rule.check.run config file.toCrlf = rule.check.run config file := by
  intro rule member other
  simp only [Rule.check, toCrlfText, otherMessagesCarried config _ rule member other]
  rfl

theorem functionsThinned (config : Config) (file : SourceFile) :
    Thinned (FunctionNames.FreeReport file.toCrlf) (FunctionNames.rule.check.run config file)
      (FunctionNames.rule.check.run config file.toCrlf) := by
  refine FunctionNames.checkThinned rfl ?_ ?_ ?_
  · rw [toCrlfText, constructorMessagesCarried]
  · rw [toCrlfText, memberMessagesCarried]
  · rw [toCrlfText, freeMessagesCarried]
    refine thinnedWiden (FunctionNames.freeThinned fun found _ seen => contextCarried found _ seen) ?_
    rintro message ⟨name, inside, miscased, rfl⟩
    exact ⟨name, by rwa [freeNamesCarried], miscased, rfl⟩

theorem functionsWithoutWindow (config : Config) (file : SourceFile)
    (none : config.scopeContextChars = 0) :
    FunctionNames.rule.check.run config file.toCrlf = FunctionNames.rule.check.run config file := by
  have free : FunctionNames.freeMessages 0 (Text.toCrlf file.text.toList) =
      FunctionNames.freeMessages 0 file.text.toList := freeMessagesCarried 0 _
  simp only [Rule.check, FunctionNames.rule, toCrlfText, constructorMessagesCarried,
    memberMessagesCarried, none, free]
  rfl

theorem functionRule : ∀ rule ∈ styleGuide, rule.name = "function-names" →
    rule = FunctionNames.rule := by
  apply everyRule
  case functionNames => exact fun _ => rfl
  all_goals exact fun same => absurd same (by decide)

theorem lintCarried (config : Config) (file : SourceFile) :
    Thinned (FunctionNames.FreeReport file.toCrlf) ((Linter.ofStyleGuide config).lint file)
      ((Linter.ofStyleGuide config).lint file.toCrlf) := by
  refine Linter.thinnedLint rfl fun rule member => ?_
  by_cases functions : rule.name = "function-names"
  · rw [functionRule rule member functions]
    exact functionsThinned config file
  · rw [otherReportsCarried config file rule member functions]
    exact thinnedRefl _

theorem conversionOnlyAddsFree (config : Config) (file : SourceFile) :
    let converted : SourceFile := { file with text := String.ofList (Text.toCrlf file.text.toList) }
    let functions := FunctionNames.rule.check
    (∀ check ∈ defaultChecks, check.name ≠ "function-names" →
      check.run config converted = check.run config file) ∧
    (functions.run config file).Sublist (functions.run config converted) ∧
    (config.scopeContextChars = 0 → functions.run config converted = functions.run config file) ∧
    Thinned (FunctionNames.FreeReport converted) ((Linter.ofStyleGuide config).lint file)
      ((Linter.ofStyleGuide config).lint converted) := by
  intro converted functions
  refine ⟨?_, thinnedSublist (functionsThinned config file), functionsWithoutWindow config file,
    lintCarried config file⟩
  intro check member other
  obtain ⟨rule, listed, rfl⟩ := List.mem_map.mp member
  exact otherReportsCarried config file rule listed other

/- With two carriage returns more the window of six characters no longer reaches the `::`. Without a
window nothing is taken for a member in either text. -/
theorem conversionOnlyAddsFreeSample :
    let near : Config := { scopeContextChars := 6 }
    let none : Config := { scopeContextChars := 0 }
    let file : SourceFile := ⟨"a.cpp", "a::b;\n\nint Foo() {}"⟩
    let converted : SourceFile := ⟨"a.cpp", "a::b;\r\n\r\nint Foo() {}"⟩
    let functions := FunctionNames.rule.check
    converted.text = String.ofList (Text.toCrlf file.text.toList) ∧
    functions.run near file = [] ∧
    functions.run near converted = [⟨"function-names", "a.cpp",
      "function name 'Foo' should use lowercase with underscores", .error⟩] ∧
    Thinned (FunctionNames.FreeReport converted) ((Linter.ofStyleGuide near).lint file)
      ((Linter.ofStyleGuide near).lint converted) ∧
    functions.run none converted = functions.run none file ∧
    VariableNames.rule.check.run near converted = VariableNames.rule.check.run near file := by
  intro near none file converted functions
  have same : converted.text = String.ofList (Text.toCrlf file.text.toList) := by decide +kernel
  have whole : converted = { file with text := String.ofList (Text.toCrlf file.text.toList) } := by
    rw [← same]
  obtain ⟨others, _, _, thins⟩ := conversionOnlyAddsFree near file
  obtain ⟨_, _, without, _⟩ := conversionOnlyAddsFree none file
  refine ⟨same, by decide +kernel, by decide +kernel, ?_, ?_, ?_⟩
  · rw [whole]
    exact thins
  · rw [whole]
    exact without rfl
  · rw [whole]
    exact others VariableNames.rule.check (by simp [defaultChecks, styleGuide]) (by decide)

end HouseStyle
