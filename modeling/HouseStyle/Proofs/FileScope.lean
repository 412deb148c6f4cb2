import HouseStyle.Proofs.Globals
import HouseStyle.Proofs.Places

/-! Variables at file scope, said line by line without a running scope. A line is at file scope when the
braces of all lines up to it balance and none of these lines mentions a class; so a text whose lines
leave off at file scope can be checked apart from what follows it, and behind a class nothing is at file
scope any more. -/
namespace HouseStyle.Text

theorem trimPast (text : List Char) : Past isBlank (trim text) := by
  have begins : trim text <+: trimStart text := by
    have backwards := List.reverse_prefix.mpr
      (List.dropWhile_suffix (l := (trimStart text).reverse) isBlank)
    rwa [List.reverse_reverse] at backwards
  obtain ⟨tail, split⟩ := begins
  intro c head
  refine dropWhilePast isBlank text c ?_
  change (trimStart text).head? = some c
  rw [← split, List.head?_append, head]
  rfl

theorem linesAppend (above below : List Char) :
    lines (above ++ '\n' :: below) = lines (above ++ ['\n']) ++ lines below := by
  induction above with
  | nil => simp [lines]
  | cons c above ih =>
    have next : (above ++ '\n' :: below).head? = (above ++ ['\n']).head? := by
      cases above <;> rfl
    rw [List.cons_append, List.cons_append, lines, lines, next, ih]
    split
    · rfl
    · split
      · rfl
      · obtain ⟨line, ending, rest, _, first, _⟩ := linesStep (above ++ ['\n']) (by simp)
        rw [first]
        rfl

theorem linesJoin {above : List Char} (ends : ['\n'] <:+ above) (below : List Char) :
    lines (above ++ below) = lines above ++ lines below := by
  obtain ⟨front, rfl⟩ := ends
  rw [List.append_assoc]
  exact linesAppend front below

theorem linesCount {c : Char} (feed : c ≠ '\n') (returns : c ≠ '\r') (text : List Char) :
    (lines text).flatten.count c = text.count c := by
  induction text with
  | nil => rfl
  | cons d text ih =>
    rw [lines]
    split
    · rename_i same
      rw [List.flatten_cons, List.nil_append, ih, same, List.count_cons_of_ne (Ne.symm feed)]
    · split
      · rename_i both
        rw [ih, both.1, List.count_cons_of_ne (Ne.symm returns)]
      · cases rest : lines text with
        | nil =>
          rw [rest] at ih
          rw [List.count_cons, ← ih]
          simp [List.count_cons]
        | cons line others =>
          rw [rest] at ih
          rw [List.count_cons, ← ih]
          simp only [List.flatten_cons, List.cons_append, List.count_cons]

end HouseStyle.Text

namespace HouseStyle.GlobalVariables
open Text Declaration

structure Declares (line : List Char) (name : String) : Prop where
  parts : ∃ word stop rest, trim line = word ++ stop :: rest ∧
    Declarator globalTypes word name ∧ isTerminator stop = true

def Mentions (line : List Char) : Prop := ['c', 'l', 'a', 's', 's', ' '] <:+: line

structure FileScope (lines : List (List Char)) : Prop where
  balanced : lines.flatten.count '{' = lines.flatten.count '}'
  classless : ∀ line ∈ lines, ¬ Mentions line

structure GlobalAt (lines : List (List Char)) (place : Nat) (name : String) : Prop where
  declares : ∃ line, lines[place]? = some line ∧ Declares line name
  scope : FileScope (lines.take (place + 1))

theorem staticDeclaresNothing {line : List Char} (fixed : ['s', 't', 'a', 't', 'i', 'c'] <+: trim line)
    (name : String) : ¬ Declares line name := by
  rintro ⟨word, stop, rest, split, ⟨⟨kind, gap, tail, rfl, member, _⟩, _⟩, _⟩
  have begins : kind <+: trim line := by
    rw [split]
    simp only [List.append_assoc]
    exact List.prefix_append _ _
  have apart : ∀ kind ∈ globalTypes,
      ¬ ['s', 't', 'a', 't', 'i', 'c'] <+: kind ∧ ¬ kind <+: ['s', 't', 'a', 't', 'i', 'c'] := by
    decide
  rcases List.prefix_or_prefix_of_prefix fixed begins with short | short
  · exact (apart kind member).1 short
  · exact (apart kind member).2 short

/- What a line is read as when nobody asks for `static`. -/
def readIn (line : List Char) : Option String :=
  (declarator globalTypes (blanks (trim line))).map (·.1)

theorem readInIff (line : List Char) (name : String) : readIn line = some name ↔ Declares line name := by
  have empty : All isBlank [] := by simp [All]
  have whole : blanks (trim line) = trim line := dropWhileRun empty (trimPast line)
  rw [readIn, whole, Option.map_eq_some_iff]
  constructor
  · rintro ⟨⟨found, rest⟩, read, rfl⟩
    obtain ⟨word, stop, split, valid, sign⟩ := (declaratorIff globalTypesPrefixFree _ _ _).mp read
    exact ⟨word, stop, rest, split, valid, sign⟩
  · rintro ⟨word, stop, rest, split, valid, sign⟩
    exact ⟨(name, rest),
      (declaratorIff globalTypesPrefixFree _ _ _).mpr ⟨word, stop, split, valid, sign⟩, rfl⟩

theorem staticTestIdle (line : List Char) : declared? line = readIn line := by
  simp only [declared?]
  split
  · rename_i fixed
    refine (Option.eq_none_iff_forall_ne_some.mpr fun name read => ?_).symm
    exact staticDeclaresNothing (List.isPrefixOf_iff_prefix.mp fixed) name ((readInIff line name).mp read)
  · rfl

def Scope.through (scope : Scope) (lines : List (List Char)) : Scope := lines.foldl Scope.after scope

theorem throughConcat (scope : Scope) (seen : List (List Char)) (line : List Char) :
    scope.through (seen ++ [line]) = (scope.through seen).after line := by
  simp [Scope.through]

theorem throughDepth (scope : Scope) (lines : List (List Char)) :
    (scope.through lines).depth =
      scope.depth + lines.flatten.count '{' - lines.flatten.count '}' := by
  induction lines generalizing scope with
  | nil => simp [Scope.through]
  | cons line rest ih =>
    change ((scope.after line).through rest).depth = _
    rw [ih, List.flatten_cons, List.count_append, List.count_append]
    simp only [Scope.after]
    omega

theorem throughClasses (scope : Scope) (lines : List (List Char)) :
    (scope.through lines).classes = scope.classes + lines.countP mentionsClass := by
  induction lines generalizing scope with
  | nil => rfl
  | cons line rest ih =>
    change ((scope.after line).through rest).classes = _
    rw [ih, List.countP_cons]
    simp only [Scope.after]
    split <;> omega

theorem mentionsIff (line : List Char) : mentionsClass line = true ↔ Mentions line := holdsIff _ line

theorem isFileIff (lines : List (List Char)) :
    (Scope.through {} lines).isFile = true ↔ FileScope lines := by
  have depth := throughDepth {} lines
  have classes := throughClasses {} lines
  simp only [Scope.isFile, Bool.and_eq_true, beq_iff_eq, depth, classes, Nat.zero_add,
    List.countP_eq_zero, mentionsIff]
  constructor
  · rintro ⟨balanced, classless⟩
    exact ⟨by omega, classless⟩
  · rintro ⟨balanced, classless⟩
    exact ⟨by omega, classless⟩

theorem isFileEmpty {scope : Scope} (file : scope.isFile = true) : scope = {} := by
  simp only [Scope.isFile, Bool.and_eq_true, beq_iff_eq] at file
  obtain ⟨depth, classes⟩ := scope
  obtain ⟨rfl, rfl⟩ := file
  rfl

theorem globalAtIff (seen : List (List Char)) (line : List Char) (rest : List (List Char))
    (name : String) :
    GlobalAt (seen ++ line :: rest) seen.length name ↔
      Declares line name ∧ FileScope (seen ++ [line]) := by
  have here : (seen ++ line :: rest)[seen.length]? = some line := by simp
  have upTo : (seen ++ line :: rest).take (seen.length + 1) = seen ++ [line] := by
    rw [List.take_length_add_append, List.take_succ_cons, List.take_zero]
  constructor
  · rintro ⟨⟨found, there, declares⟩, scope⟩
    cases Option.some.inj (here.symm.trans there)
    exact ⟨declares, upTo ▸ scope⟩
  · rintro ⟨declares, scope⟩
    exact ⟨⟨line, here, declares⟩, upTo ▸ scope⟩

def foundIn (scope : Scope) (line : List Char) : Option String :=
  if (scope.after line).isFile then declared? line else none

theorem scanLine (scope : Scope) (line : List Char) (rest : List (List Char)) :
    declaredFrom scope (line :: rest) =
      (foundIn scope line).toList ++ declaredFrom (scope.after line) rest := by
  simp only [declaredFrom, foundIn]
  split
  · cases declared? line <;> rfl
  · rfl

theorem foundInIff (seen : List (List Char)) (line : List Char) (name : String) :
    foundIn (Scope.through {} seen) line = some name ↔
      Declares line name ∧ FileScope (seen ++ [line]) := by
  rw [foundIn, ← throughConcat, ← isFileIff, ← readInIff, staticTestIdle]
  split <;> rename_i file <;> simp [file]

theorem scanListed (seen rest : List (List Char)) :
    ListedFrom seen.length (GlobalAt (seen ++ rest)) (declaredFrom (Scope.through {} seen) rest) := by
  induction rest generalizing seen with
  | nil =>
    refine listedNone fun place name reached found => ?_
    obtain ⟨⟨line, there, _⟩, _⟩ := found
    rw [List.append_nil, List.getElem?_eq_none reached] at there
    contradiction
  | cons line rest ih =>
    have later := ih (seen ++ [line])
    rw [throughConcat, List.length_append, List.append_assoc] at later
    rw [scanLine]
    exact listedStep (fun name => (foundInIff seen line name).trans (globalAtIff ..).symm) later

theorem scanAppend (scope : Scope) (above below : List (List Char)) :
    declaredFrom scope (above ++ below) =
      declaredFrom scope above ++ declaredFrom (scope.through above) below := by
  induction above generalizing scope with
  | nil => rfl
  | cons line above ih =>
    rw [List.cons_append, scanLine, scanLine, ih, List.append_assoc]
    rfl

theorem scanBehindClass {scope : Scope} (classes : 0 < scope.classes) (lines : List (List Char)) :
    declaredFrom scope lines = [] := by
  induction lines generalizing scope with
  | nil => rfl
  | cons line rest ih =>
    have more : 0 < (scope.after line).classes := by
      simp only [Scope.after]
      split <;> omega
    have closed : (scope.after line).isFile = false := by
      rw [Scope.isFile, Bool.and_eq_false_iff]
      exact Or.inr (by simp only [beq_eq_false_iff_ne]; omega)
    rw [scanLine, ih more, foundIn, closed]
    rfl

theorem textBalanced (text : List Char) :
    (lines text).flatten.count '{' = (lines text).flatten.count '}' ↔ text.count '{' = text.count '}' := by
  rw [linesCount (by decide) (by decide), linesCount (by decide) (by decide)]

theorem declaredApart {above : List Char} (ends : ['\n'] <:+ above) (scope : FileScope (lines above))
    (below : List Char) : declared (above ++ below) = declared above ++ declared below := by
  have left : Scope.through {} (lines above) = {} := isFileEmpty ((isFileIff _).mpr scope)
  rw [declared, linesJoin ends, scanAppend, left]
  rfl

theorem declaredBehindClass {above : List Char} (ends : ['\n'] <:+ above)
    (mentions : ∃ line ∈ lines above, Mentions line) (below : List Char) :
    declared (above ++ below) = declared above := by
  have classes : 0 < (Scope.through {} (lines above)).classes := by
    obtain ⟨line, member, inside⟩ := mentions
    have counted := List.countP_pos_iff.mpr ⟨line, member, (mentionsIff line).mpr inside⟩
    rw [throughClasses]
    omega
  rw [declared, linesJoin ends, scanAppend, scanBehindClass classes, List.append_nil]
  rfl

theorem runNames (config : Config) (file : SourceFile) :
    rule.check.run config file = (declared file.text.toList).map (warningOf file.name) := by
  simp only [Rule.check, rule, List.map_map]
  rfl

theorem globalsExamined (config : Config) :
    (∀ file : SourceFile,
      let names := declared file.text.toList
      Listed (GlobalAt (lines file.text.toList)) names ∧
      rule.check.run config file = names.map (warningOf file.name)) ∧
    (∀ line, declared? line = (declarator globalTypes (blanks (trim line))).map (·.1)) ∧
    ∀ fileName above below : String, ['\n'] <:+ above.toList →
      let run (text : String) := rule.check.run config ⟨fileName, text⟩
      (above.toList.count '{' = above.toList.count '}' → (∀ line ∈ lines above.toList, ¬ Mentions line) →
        run (above ++ below) = run above ++ run below) ∧
      ((∃ line ∈ lines above.toList, Mentions line) → run (above ++ below) = run above) := by
  refine ⟨fun file => ⟨listedAll (scanListed [] _), runNames config file⟩, staticTestIdle, ?_⟩
  intro fileName above below ends run
  have joined : (above ++ below).toList = above.toList ++ below.toList := String.toList_append
  constructor
  · intro balanced classless
    have scope : FileScope (lines above.toList) := ⟨(textBalanced _).mpr balanced, classless⟩
    simp only [run, runNames, joined, declaredApart ends scope, List.map_append]
  · intro mentions
    simp only [run, runNames, joined, declaredBehindClass ends mentions]

theorem globalsExaminedSample :
    let run (text : String) := rule.check.run {} ⟨"a.cpp", text⟩
    let above := "int a;\nvoid f() \x7b\n\x7d\n"
    let below := "static int b;\r\n  int c = 1;"
    ['\n'] <:+ above.toList ∧ above.toList.count '{' = above.toList.count '}' ∧
    (∀ line ∈ lines above.toList, ¬ Mentions line) ∧
    run (above ++ below) = run above ++ run below ∧
    run above = [warningOf "a.cpp" "a"] ∧ run below = [warningOf "a.cpp" "c"] ∧
    (∃ line ∈ lines "class X;\n".toList, Mentions line) ∧
    run ("class X;\n" ++ below) = run "class X;\n" := by
  intro run above below
  obtain ⟨_, _, parts⟩ := globalsExamined {}
  have ends : ['\n'] <:+ above.toList := ⟨"int a;\nvoid f() \x7b\n\x7d".toList, by decide +kernel⟩
  have balanced : above.toList.count '{' = above.toList.count '}' := by decide +kernel
  have silent : (lines above.toList).all (!mentionsClass ·) = true := by decide +kernel
  have classless : ∀ line ∈ lines above.toList, ¬ Mentions line := by
    intro line member
    rw [← mentionsIff]
    simpa using List.all_eq_true.mp silent line member
  have endsClass : ['\n'] <:+ "class X;\n".toList := ⟨"class X;".toList, by decide +kernel⟩
  have mentions : ∃ line ∈ lines "class X;\n".toList, Mentions line :=
    ⟨"class X;".toList, by decide +kernel, (mentionsIff _).mp (by decide +kernel)⟩
  exact ⟨ends, balanced, classless, (parts "a.cpp" above below ends).1 balanced classless,
    by decide +kernel, by decide +kernel, mentions,
    (parts "a.cpp" "class X;\n" below endsClass).2 mentions⟩

end HouseStyle.GlobalVariables
