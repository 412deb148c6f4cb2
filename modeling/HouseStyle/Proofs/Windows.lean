import HouseStyle.Proofs.Guides
import HouseStyle.Proofs.Search

/-! How far back a `::` is looked for. Which free functions are found does not depend on it; a wider
window only takes more of them for members, so it loses reports of free functions and no others. A
window that reaches the start of the text cannot grow. -/
namespace HouseStyle.FunctionNames
open Text Declaration Naming

def freeNames (text : List Char) : List String :=
  (occurrences (function freeHead) text).map (·.value)

def freeText (name : String) : String :=
  "function name '" ++ name ++ "' should use lowercase with underscores"

def freeMessage (member : Bool) (name : String) : Option String :=
  if member || isLowerSnake name then none else some (freeText name)

def FreeMessage (text : List Char) (message : String) : Prop :=
  ∃ name ∈ freeNames text, isLowerSnake name = false ∧ message = freeText name

def FreeReport (file : SourceFile) (violation : Violation) : Prop :=
  ∃ name ∈ freeNames file.text.toList, isLowerSnake name = false ∧
    violation = ⟨"function-names", file.name, freeText name, .error⟩

theorem freeMessageIff (member : Bool) (name message : String) :
    freeMessage member name = some message ↔
      member = false ∧ isLowerSnake name = false ∧ message = freeText name := by
  unfold freeMessage
  cases member <;> cases isLowerSnake name <;> simp [eq_comm]

theorem freeThinned {text : List Char} {often rarely : Occurrence String → Bool}
    (less : ∀ found ∈ occurrences (function freeHead) text, rarely found = true → often found = true) :
    Thinned (FreeMessage text)
      ((occurrences (function freeHead) text).filterMap fun found =>
        freeMessage (often found) found.value)
      ((occurrences (function freeHead) text).filterMap fun found =>
        freeMessage (rarely found) found.value) := by
  refine thinnedFilterMap _ ?_ ?_
  · intro found inside message reported
    obtain ⟨free, miscased, rfl⟩ := (freeMessageIff _ _ _).mp reported
    refine (freeMessageIff _ _ _).mpr ⟨?_, miscased, rfl⟩
    refine Bool.eq_false_iff.mpr fun scope => ?_
    rw [less found inside scope] at free
    contradiction
  · intro found inside message _ reported
    obtain ⟨_, miscased, rfl⟩ := (freeMessageIff _ _ _).mp reported
    exact ⟨found.value, List.mem_map_of_mem inside, miscased, rfl⟩

theorem checkThinned {first second : Config} {one other : SourceFile} (named : one.name = other.name)
    (constructors : constructorMessages one.text.toList = constructorMessages other.text.toList)
    (members : memberMessages one.text.toList = memberMessages other.text.toList)
    (free : Thinned (FreeMessage other.text.toList)
      (freeMessages first.scopeContextChars one.text.toList)
      (freeMessages second.scopeContextChars other.text.toList)) :
    Thinned (FreeReport other) (rule.check.run first one) (rule.check.run second other) := by
  simp only [Rule.check, rule, constructors, members, named]
  refine thinnedMap _ (thinnedAppend (thinnedRefl _) free) ?_
  rintro message ⟨name, inside, miscased, rfl⟩
  exact ⟨name, inside, miscased, rfl⟩

theorem contextWider {α : Type} (found : Occurrence α) {narrow wide : Nat} (wider : narrow ≤ wide) :
    found.context narrow <:+ found.context wide := by
  have nested : found.before.take narrow <+: found.before.take wide :=
    List.take_prefix_take_left wider
  exact List.reverse_suffix.mpr nested

theorem contextWhole {α : Type} (found : Occurrence α) {width : Nat}
    (reaches : found.before.length ≤ width) : found.context width = found.before.reverse := by
  rw [Occurrence.context, List.take_of_length_le reaches]

theorem occurrenceBefore {α : Type} {shape : Shape α} {text : List Char} {found : Occurrence α}
    (member : found ∈ occurrences shape text) : found.before.length ≤ text.length := by
  obtain ⟨front, rest, _, rfl, place, _⟩ := occurrencePlace member
  rw [place]
  simp

theorem windowThinned {narrow wide : Nat} (wider : narrow ≤ wide) (text : List Char) :
    Thinned (FreeMessage text) (freeMessages wide text) (freeMessages narrow text) := by
  refine freeThinned fun found _ near => ?_
  rw [holdsIff] at near ⊢
  exact near.trans (contextWider found wider).isInfix

theorem windowWhole {text : List Char} {wide further : Nat} (reaches : text.length ≤ wide)
    (wider : wide ≤ further) : freeMessages further text = freeMessages wide text := by
  refine List.filterMap_congr fun found member => ?_
  have before := occurrenceBefore member
  rw [contextWhole found (by omega), contextWhole found (by omega)]

def looking (config : Config) (width : Nat) : Config := { config with scopeContextChars := width }

theorem rulesWindow (config : Config) (width : Nat) (fileName : String) :
    Linter.rulesFor (looking config width) fileName = Linter.rulesFor config fileName := by
  have blind : ∀ rule ∈ styleGuide, rule.appliesTo (looking config width) = rule.appliesTo config :=
    everyRule rfl rfl rfl rfl rfl rfl rfl rfl
  refine List.filter_congr fun rule member => ?_
  rw [blind rule member]
  rfl

theorem lintWindow (config : Config) {narrow wide : Nat} (wider : narrow ≤ wide) (file : SourceFile) :
    Thinned (FreeReport file) ((Linter.ofStyleGuide (looking config wide)).lint file)
      ((Linter.ofStyleGuide (looking config narrow)).lint file) := by
  refine Linter.thinnedLint ((rulesWindow config wide _).trans (rulesWindow config narrow _).symm) ?_
  have functions : Thinned (FreeReport file) (rule.check.run (looking config wide) file)
      (rule.check.run (looking config narrow) file) :=
    checkThinned rfl rfl rfl (windowThinned wider file.text.toList)
  exact everyRule functions (thinnedRefl _) (thinnedRefl _) (thinnedRefl _) (thinnedRefl _)
    (thinnedRefl _) (thinnedRefl _) (thinnedRefl _)

theorem lintWindowWhole (config : Config) {wide further : Nat} (file : SourceFile)
    (reaches : file.text.length ≤ wide) (wider : wide ≤ further) :
    (Linter.ofStyleGuide (looking config further)).lint file =
      (Linter.ofStyleGuide (looking config wide)).lint file := by
  refine Linter.sameLint ((rulesWindow config further _).trans (rulesWindow config wide _).symm) ?_
  have functions : rule.check.run (looking config further) file =
      rule.check.run (looking config wide) file := by
    have whole : freeMessages further file.text.toList = freeMessages wide file.text.toList :=
      windowWhole (by rwa [String.length_toList]) wider
    simp only [Rule.check, rule, looking, whole]
  exact everyRule functions rfl rfl rfl rfl rfl rfl rfl

theorem widerWindowThins (config : Config) (narrow wide : Nat) (wider : narrow ≤ wide) :
    let under (width : Nat) := Linter.ofStyleGuide { config with scopeContextChars := width }
    (∀ file, ((under wide).lint file).Sublist ((under narrow).lint file) ∧
      Thinned (FreeReport file) ((under wide).lint file) ((under narrow).lint file)) ∧
    (∀ source paths record, ∃ less more,
      Run.Costs (under wide) source paths record less ∧
      Run.Costs (under narrow) source paths record more ∧ less ≤ more) ∧
    ∀ file further, file.text.length ≤ wide → wide ≤ further →
      (under further).lint file = (under wide).lint file := by
  intro under
  refine ⟨fun file => ⟨thinnedSublist (lintWindow config wider file), lintWindow config wider file⟩,
    ?_, fun file further reaches => lintWindowWhole config file reaches⟩
  intro source paths record
  have same : (under wide).config.scoring = (under narrow).config.scoring := by
    simp only [under, Linter.styleGuideLinter]
  obtain ⟨less, more, costs, costsMore, atMost, _⟩ :=
    Run.thinnedCosts same (lintWindow config wider) source paths record
  exact ⟨less, more, costs, costsMore, atMost⟩

theorem widerWindowThinsSample :
    let under (width : Nat) := Linter.ofStyleGuide { scopeContextChars := width }
    let file : SourceFile := ⟨"a.cpp", "std::x;\nint Foo() {}"⟩
    4 ≤ 20 ∧ file.text.length ≤ 20 ∧
    (under 20).lint file = [] ∧
    (under 4).lint file = [⟨"function-names", "a.cpp",
      "function name 'Foo' should use lowercase with underscores", .error⟩] ∧
    Thinned (FreeReport file) ((under 20).lint file) ((under 4).lint file) ∧
    (under 1000).lint file = (under 20).lint file := by
  intro under file
  have wider : 4 ≤ 20 := by decide
  have reaches : file.text.length ≤ 20 := by decide +kernel
  obtain ⟨thins, _, whole⟩ := widerWindowThins {} 4 20 wider
  exact ⟨wider, reaches, by decide +kernel, by decide +kernel, (thins file).2,
    whole file 1000 reaches (by decide)⟩

end HouseStyle.FunctionNames
