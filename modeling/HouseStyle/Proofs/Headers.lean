import HouseStyle.Proofs.Guides

/-! Headers and other files. The name of a file reaches its reports in two ways only: they carry it,
and the rule on include guards looks whether it is the name of a header. What that rule adds stands
behind all other reports. -/
namespace HouseStyle

theorem hasExtensionIff (name : String) (extensions : List String) :
    hasExtension name extensions = true ↔
      ∃ stem, ∃ extension ∈ extensions, name = stem ++ "." ++ extension := by
  simp only [hasExtension, List.any_eq_true, List.isSuffixOf_iff_suffix]
  constructor
  · rintro ⟨extension, listed, stem, split⟩
    refine ⟨String.ofList stem, extension, listed, String.toList_inj.mp ?_⟩
    simp [← split]
  · rintro ⟨stem, extension, listed, rfl⟩
    exact ⟨extension, listed, stem.toList, by simp⟩

namespace Layout
open Text

theorem opensGuardedIff (text : List Char) :
    opensGuarded text = true ↔ "#ifndef".toList <+: text.dropWhile isBlank := by
  have spelled : "#ifndef".toList = ['#', 'i', 'f', 'n', 'd', 'e', 'f'] := by decide +kernel
  rw [spelled, ← List.isPrefixOf_iff_prefix]
  rfl

def unguarded (name : String) : Violation :=
  ⟨"header-guard", name, "header files must use #ifndef include guards", .error⟩

def reports (config : Config) (file : SourceFile) : List Violation :=
  if config.enables "header-guard" && config.isHeader file.name && !opensGuarded file.text.toList then
    [unguarded file.name]
  else []

end Layout

namespace Linter

def textRules : List Rule :=
  [FunctionNames.rule, VariableNames.rule, ClassNames.rule, MacroNames.rule, GlobalVariables.rule]

def layoutRules : List Rule := [Layout.headerGuard, Layout.headerStructure, Layout.sourceStructure]

def textReports (config : Config) (file : SourceFile) : List Violation :=
  (textRules.filter fun rule => config.enables rule.name).flatMap fun rule => rule.check.run config file

theorem layoutReports (config : Config) (file : SourceFile) :
    (layoutRules.filter fun rule => config.enables rule.name && rule.appliesTo config file.name).flatMap
      (fun rule => rule.check.run config file) = Layout.reports config file := by
  have guard : Layout.headerGuard.check.run config file =
      if Layout.opensGuarded file.text.toList then [] else [Layout.unguarded file.name] := by
    simp only [Rule.check, Layout.headerGuard]
    split <;> rfl
  -- the two rules on structure report nothing, whether they are set on the file or not
  have silent (rule : Rule) (none : rule.check.run config file = []) (rest : List Rule) :
      ((rule :: rest).filter fun rule => config.enables rule.name &&
          rule.appliesTo config file.name).flatMap (fun rule => rule.check.run config file) =
        (rest.filter fun rule => config.enables rule.name &&
          rule.appliesTo config file.name).flatMap (fun rule => rule.check.run config file) := by
    rw [List.filter_cons]
    split
    · rw [List.flatMap_cons, none, List.nil_append]
    · rfl
  have structures : ([Layout.headerStructure, Layout.sourceStructure].filter fun rule =>
      config.enables rule.name && rule.appliesTo config file.name).flatMap
        (fun rule => rule.check.run config file) = [] := by
    rw [silent _ rfl, silent _ rfl]
    rfl
  have set : (config.enables Layout.headerGuard.name && Layout.headerGuard.appliesTo config file.name) =
      (config.enables "header-guard" && config.isHeader file.name) := rfl
  rw [layoutRules, List.filter_cons, set, Layout.reports]
  cases config.enables "header-guard" && config.isHeader file.name with
  | false => exact structures
  | true =>
    rw [if_pos rfl, List.flatMap_cons, structures, guard, List.append_nil, Bool.true_and]
    cases Layout.opensGuarded file.text.toList <;> rfl

theorem lintSplit (config : Config) (file : SourceFile) :
    (ofStyleGuide config).lint file = textReports config file ++ Layout.reports config file := by
  have parts : styleGuide = textRules ++ layoutRules := rfl
  have always : ∀ rule ∈ textRules, rule.appliesTo config file.name = true := by
    simp only [textRules, List.forall_mem_cons]
    exact ⟨rfl, rfl, rfl, rfl, rfl, fun rule member => nomatch member⟩
  rw [styleGuideLint, rulesFor, parts, List.filter_append, List.flatMap_append, layoutReports,
    textReports]
  congr 2
  refine List.filter_congr fun rule member => ?_
  rw [always rule member, Bool.and_true]

def renamed (name : String) (violation : Violation) : Violation := { violation with file := name }

theorem renamedRun (rule : Rule) (config : Config) (text one other : String) :
    (rule.check.run config ⟨one, text⟩).map (renamed other) = rule.check.run config ⟨other, text⟩ := by
  simp only [Rule.check, List.map_map]
  rfl

theorem renamedLint (config : Config) (text one other : String) :
    ((ofStyleGuide config).lint ⟨one, text⟩).map (renamed other) =
      textReports config ⟨other, text⟩ ++
        (Layout.reports config ⟨one, text⟩).map (renamed other) := by
  have texts : (textReports config ⟨one, text⟩).map (renamed other) =
      textReports config ⟨other, text⟩ := by
    simp only [textReports, List.map_flatMap, renamedRun]
  rw [lintSplit, List.map_append, texts]

theorem sourceBlind (config : Config) (extensions : List String) (file : SourceFile) :
    textReports { config with sourceExtensions := extensions } file = textReports config file := by
  have each : ∀ rule ∈ textRules,
      rule.check.run { config with sourceExtensions := extensions } = rule.check.run config := by
    simp only [textRules, List.forall_mem_cons]
    exact ⟨rfl, rfl, rfl, rfl, rfl, fun rule member => nomatch member⟩
  refine List.flatMap_congr fun rule member => ?_
  rw [each rule (List.mem_filter.mp member).1]

theorem nameDecidesHeader (config : Config) (text one other : String) :
    let lint (name : String) := (ofStyleGuide config).lint ⟨name, text⟩
    let renamed (violation : Violation) : Violation := { violation with file := other }
    (config.isHeader one = config.isHeader other → (lint one).map renamed = lint other) ∧
    (config.isHeader one = true → config.isHeader other = false →
      (lint one).map renamed = lint other ++
        if config.enables "header-guard" = true ∧
            ¬ "#ifndef".toList <+: text.toList.dropWhile Text.isBlank then
          [⟨"header-guard", other, "header files must use #ifndef include guards", .error⟩]
        else []) ∧
    (∀ name, config.isHeader name = true ↔
      ∃ stem, ∃ extension ∈ config.headerExtensions, name = stem ++ "." ++ extension) ∧
    ∀ extensions name, (ofStyleGuide { config with sourceExtensions := extensions }).lint ⟨name, text⟩ =
      lint name := by
  intro lint renamed
  have carried : (lint one).map renamed = _ := renamedLint config text one other
  have split (name : String) : lint name = _ := lintSplit config ⟨name, text⟩
  refine ⟨?_, ?_, fun name => hasExtensionIff name _, ?_⟩
  · intro same
    rw [carried, split, Layout.reports, Layout.reports, same]
    cases config.enables "header-guard" && config.isHeader other && !Layout.opensGuarded text.toList <;>
      rfl
  · intro header plain
    rw [carried, split, Layout.reports, Layout.reports, header, plain, List.append_assoc]
    simp only [← Layout.opensGuardedIff]
    cases config.enables "header-guard" <;> cases Layout.opensGuarded text.toList <;> rfl
  · intro extensions name
    rw [split, lintSplit, sourceBlind]
    rfl

theorem nameDecidesHeaderSample :
    let config : Config := { headerExtensions := ["", "in.h"], sourceExtensions := ["h", "cpp"] }
    let lint (name text : String) := (ofStyleGuide config).lint ⟨name, text⟩
    let moved (violation : Violation) : Violation := { violation with file := "a.h" }
    let miscased : Violation := ⟨"class-names", "a.h",
      "class name 'song' should use upper camel case (no underscores)", .error⟩
    (config.isHeader "a.in.h" = true ∧ config.isHeader "b." = true ∧ config.isHeader "a.h" = false ∧
      config.isHeader "a.cpp" = config.isHeader "a.h") ∧
    lint "a.h" "class song" = [miscased] ∧
    (lint "a.cpp" "class song").map moved = [miscased] ∧
    (lint "a.in.h" "class song").map moved = [miscased, ⟨"header-guard", "a.h",
      "header files must use #ifndef include guards", .error⟩] ∧
    (lint "b." "\u3000\n#ifndef X\nclass song").map moved =
      lint "a.h" "\u3000\n#ifndef X\nclass song" := by
  intro config lint moved miscased
  have first : config.isHeader "a.in.h" = true := by decide +kernel
  have second : config.isHeader "b." = true := by decide +kernel
  have neither : config.isHeader "a.h" = false := by decide +kernel
  have same : config.isHeader "a.cpp" = config.isHeader "a.h" := by decide +kernel
  have found : lint "a.h" "class song" = [miscased] := by decide +kernel
  obtain ⟨alike, _, _, _⟩ := nameDecidesHeader config "class song" "a.cpp" "a.h"
  obtain ⟨_, missed, _, _⟩ := nameDecidesHeader config "class song" "a.in.h" "a.h"
  obtain ⟨_, seen, _, _⟩ := nameDecidesHeader config "\u3000\n#ifndef X\nclass song" "b." "a.h"
  refine ⟨⟨first, second, neither, same⟩, found, (alike same).trans found,
    (missed first neither).trans ?_, (seen second neither).trans ?_⟩
  · decide +kernel
  · decide +kernel

end Linter

end HouseStyle
