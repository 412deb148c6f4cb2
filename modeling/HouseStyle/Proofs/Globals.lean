import HouseStyle.Check.GlobalVariables
import HouseStyle.Proofs.Variables

/-! Every variable that the line-by-line scan for globals sees is one that the search of the whole text
finds. A line declares at most one, at its front, and what ends its declarator ends one in the whole
text too, whatever was read before the line. -/
namespace HouseStyle.GlobalVariables
open Text Declaration

theorem declaredInLine {line : List Char} {name : String} (found : declared? line = some name) :
    ∃ lead word stop rest, line = lead ++ (word ++ stop :: rest) ∧ All isBlank lead ∧
      Declarator variableTypes word name ∧ isTerminator stop = true := by
  simp only [declared?] at found
  split at found <;> try contradiction
  obtain ⟨⟨read, left⟩, reading, rfl⟩ := Option.map_eq_some_iff.mp found
  obtain ⟨word, stop, inner, valid, sign⟩ :=
    (declaratorIff globalTypesPrefixFree _ _ _).mp reading
  obtain ⟨lead, tail, outer, blankLead⟩ := trimSplit line
  obtain ⟨gap, split, blankGap, _⟩ := blanksSplit (trim line)
  refine ⟨lead ++ gap, word, stop, left ++ tail, ?_, ?_, declaratorWiden valid, sign⟩
  · calc line = lead ++ (trim line ++ tail) := outer
      _ = lead ++ (gap ++ blanks (trim line) ++ tail) := by rw [← split]
      _ = lead ++ (gap ++ (word ++ stop :: left) ++ tail) := by rw [inner]
      _ = lead ++ gap ++ (word ++ stop :: (left ++ tail)) := by simp
  · intro c member
    rcases List.mem_append.mp member with inLead | inGap
    · exact blankLead c inLead
    · exact blankGap c inGap

/- A line starts at the start of the text or behind a line feed, so a word may start there, and behind
the blanks that follow as well. -/
def LineStart (before : List Char) : Prop := ∀ c, before.head? = some c → c = '\n'

theorem feedStarts (before : List Char) : LineStart ('\n' :: before) :=
  fun _ head => (Option.some.inj head).symm

theorem lineStartWord {before lead : List Char} (starts : LineStart before) (blank : All isBlank lead) :
    atWordStart (lead.reverse ++ before) = true := by
  cases turned : lead.reverse with
  | nil =>
    cases before with
    | nil => rfl
    | cons c before =>
      cases starts c rfl
      rfl
  | cons c rest =>
    have member : c ∈ lead := List.mem_reverse.mp (by rw [turned]; exact List.mem_cons_self)
    simp [atWordStart, (blankClass (blank c member)).2.2]

theorem lineEnded {before line : List Char} {names : List String} {name : String}
    (starts : LineStart before) (ended : VariableNames.Ended before line names)
    (found : declared? line = some name) : name ∈ names := by
  obtain ⟨lead, word, stop, rest, rfl, blank, valid, sign⟩ := declaredInLine found
  rw [← List.append_assoc] at ended
  refine VariableNames.endedHolds ended sign ⟨before.reverse ++ lead, word, by simp, valid, ?_⟩
  rw [List.reverse_append, List.reverse_reverse]
  exact lineStartWord starts blank

theorem scanStep (scope : Scope) (line : List Char) (rest : List (List Char)) :
    (declaredFrom scope (line :: rest)).Sublist
      ((declared? line).toList ++ declaredFrom (scope.after line) rest) := by
  simp only [declaredFrom]
  split
  · cases declared? line with
    | none => exact List.Sublist.refl _
    | some name => exact List.Sublist.refl _
  · exact List.sublist_append_right _ _

theorem scanAmongEnded (size : Nat) (scope : Scope) (before text : List Char) (names : List String)
    (bound : text.length ≤ size) (starts : LineStart before)
    (ended : VariableNames.Ended before text names) :
    (declaredFrom scope (lines text)).Sublist names := by
  induction size generalizing scope before text names with
  | zero =>
    cases List.length_eq_zero_iff.mp (Nat.le_zero.mp bound)
    exact List.nil_sublist names
  | succ size ih =>
    by_cases nonempty : text = []
    · subst nonempty
      exact List.nil_sublist names
    · obtain ⟨line, ending, rest, rfl, first, ends⟩ := linesStep text nonempty
      obtain ⟨here, others, rfl, inLine, after⟩ := VariableNames.endedAppend ended
      obtain ⟨between, later, rfl, _, inRest⟩ := VariableNames.endedAppend after
      have own : (declared? line).toList.Sublist here := by
        cases found : declared? line with
        | none => exact List.nil_sublist here
        | some name => exact List.singleton_sublist.mpr (lineEnded starts inLine found)
      have tail : (declaredFrom (scope.after line) (lines rest)).Sublist later := by
        simp only [List.length_append] at bound
        rcases ends with rfl | rfl | ⟨_, rfl⟩
        · exact ih _ _ rest later (by simp at bound; omega)
            (feedStarts _) inRest
        · exact ih _ _ rest later (by simp at bound; omega)
            (feedStarts _) inRest
        · exact List.nil_sublist later
      rw [first]
      refine (scanStep scope line (lines rest)).trans (own.append ?_)
      exact tail.trans (List.sublist_append_right between later)

theorem declaredAmongVariables (text : List Char) :
    (declared text).Sublist (VariableNames.declared text) :=
  scanAmongEnded text.length {} [] text _ (Nat.le_refl _) (fun c head => by cases head)
    (VariableNames.declaredEnded text)

def warningOf (file name : String) : Violation :=
  { check := "global-variables"
    file
    message := "global variable '" ++ name ++ "' should be static or avoided"
    severity := .warning }

theorem globalsAmongVariables (config : Config) (file : SourceFile) :
    let warned := declared file.text.toList
    rule.check.run config file = warned.map (warningOf file.name) ∧
    warned.Sublist (VariableNames.declared file.text.toList) ∧
    ((warned.filter VariableNames.isMiscased).map (VariableNames.errorOf file.name)).Sublist
      (VariableNames.rule.check.run config file) := by
  intro warned
  have among := declaredAmongVariables file.text.toList
  refine ⟨?_, among, ?_⟩
  · simp only [Rule.check, rule, List.map_map]
    rfl
  · rw [VariableNames.variableErrors]
    exact (among.filter VariableNames.isMiscased).map _

end HouseStyle.GlobalVariables
