import HouseStyle.Proofs.Losses
import Mathlib.Data.List.Basic

/-! The rules of the style guide together: what a linter of the style guide reports comes from one of
its rules that is enabled and applies, under that rule's name and with its severity. So disabling
rules only filters the reports by the names they carry, and never makes a run dearer. -/
namespace HouseStyle

theorem everyRule {holds : Rule → Prop} (functionNames : holds FunctionNames.rule)
    (variableNames : holds VariableNames.rule) (classNames : holds ClassNames.rule)
    (macroNames : holds MacroNames.rule) (globalVariables : holds GlobalVariables.rule)
    (headerGuard : holds Layout.headerGuard) (headerStructure : holds Layout.headerStructure)
    (sourceStructure : holds Layout.sourceStructure) : ∀ rule ∈ styleGuide, holds rule := by
  simp only [styleGuide, List.forall_mem_cons]
  exact ⟨functionNames, variableNames, classNames, macroNames, globalVariables, headerGuard,
    headerStructure, sourceStructure, fun rule member => nomatch member⟩

theorem warningRule : ∀ rule ∈ styleGuide,
    (rule.severity = .warning ↔ rule.name = "global-variables") := by
  refine everyRule ?_ ?_ ?_ ?_ ?_ ?_ ?_ ?_ <;> decide

namespace Linter

theorem styleGuideLinter (config : Config) :
    ofStyleGuide config = ⟨config, defaultChecks.filter fun check => config.enables check.name⟩ := by
  rw [ofStyleGuide, registerAllChecks]
  rfl

def rulesFor (config : Config) (fileName : String) : List Rule :=
  styleGuide.filter fun rule => config.enables rule.name && rule.appliesTo config fileName

theorem styleGuideLint (config : Config) (file : SourceFile) :
    (ofStyleGuide config).lint file =
      (rulesFor config file.name).flatMap fun rule => rule.check.run config file := by
  rw [lintFlat, styleGuideLinter, rulesFor, defaultChecks, List.filter_map, List.filter_map,
    List.flatMap_map, List.filter_filter]
  congr 1
  refine List.filter_congr fun rule _ => ?_
  exact Bool.and_comm _ _

theorem sameLint {first second : Config} {one other : SourceFile}
    (rules : rulesFor first one.name = rulesFor second other.name)
    (each : ∀ rule ∈ styleGuide, rule.check.run first one = rule.check.run second other) :
    (ofStyleGuide first).lint one = (ofStyleGuide second).lint other := by
  rw [styleGuideLint, styleGuideLint, rules]
  exact List.flatMap_congr fun rule member => each rule (List.mem_filter.mp member).1

theorem thinnedLint {lost : Violation → Prop} {first second : Config} {one other : SourceFile}
    (rules : rulesFor first one.name = rulesFor second other.name)
    (each : ∀ rule ∈ styleGuide,
      Thinned lost (rule.check.run first one) (rule.check.run second other)) :
    Thinned lost ((ofStyleGuide first).lint one) ((ofStyleGuide second).lint other) := by
  rw [styleGuideLint, styleGuideLint, rules]
  exact thinnedFlatMap _ fun rule member => each rule (List.mem_filter.mp member).1

theorem reportedBy {config : Config} {file : SourceFile} {violation : Violation}
    (found : violation ∈ (ofStyleGuide config).lint file) :
    ∃ rule ∈ styleGuide, config.enables rule.name = true ∧ rule.appliesTo config file.name = true ∧
      ∃ message ∈ rule.messages config file.text.toList,
        violation = ⟨rule.name, file.name, message, rule.severity⟩ := by
  rw [styleGuideLint] at found
  obtain ⟨rule, chosen, reported⟩ := List.mem_flatMap.mp found
  obtain ⟨member, set⟩ := List.mem_filter.mp chosen
  obtain ⟨enabled, applies⟩ := Bool.and_eq_true_iff.mp set
  obtain ⟨message, among, rfl⟩ := List.mem_map.mp reported
  exact ⟨rule, member, enabled, applies, message, among, rfl⟩

theorem reportName {rule : Rule} {config : Config} {file : SourceFile} {violation : Violation}
    (reported : violation ∈ rule.check.run config file) : violation.check = rule.name := by
  obtain ⟨message, _, rfl⟩ := List.mem_map.mp reported
  rfl

theorem reportsKept (keep : String → Bool) (config : Config) (file : SourceFile) (rules : List Rule) :
    (rules.flatMap fun rule => rule.check.run config file).filter (fun violation =>
        keep violation.check) =
      (rules.filter fun rule => keep rule.name).flatMap fun rule => rule.check.run config file := by
  induction rules with
  | nil => rfl
  | cons rule rest ih =>
    rw [List.flatMap_cons, List.filter_append, ih]
    cases kept : keep rule.name with
    | true =>
      have all : (rule.check.run config file).filter (fun violation => keep violation.check) =
          rule.check.run config file :=
        List.filter_eq_self.mpr fun violation reported => by rw [reportName reported, kept]
      rw [all, List.filter_cons_of_pos (by simp [kept]), List.flatMap_cons]
    | false =>
      have none : (rule.check.run config file).filter (fun violation => keep violation.check) = [] :=
        List.filter_eq_nil_iff.mpr fun violation reported => by simp [reportName reported, kept]
      rw [none, List.filter_cons_of_neg (by simp [kept]), List.nil_append]

def enablingAll (config : Config) : Config := { config with disabledChecks := [] }

/- No rule looks at the disabled checks, only the registration of rules does. -/
theorem ruleBlind (config : Config) : ∀ rule ∈ styleGuide,
    rule.appliesTo (enablingAll config) = rule.appliesTo config ∧
      rule.check.run (enablingAll config) = rule.check.run config :=
  everyRule ⟨rfl, rfl⟩ ⟨rfl, rfl⟩ ⟨rfl, rfl⟩ ⟨rfl, rfl⟩ ⟨rfl, rfl⟩ ⟨rfl, rfl⟩ ⟨rfl, rfl⟩ ⟨rfl, rfl⟩

theorem disabledLint (config : Config) (file : SourceFile) :
    (ofStyleGuide config).lint file =
      ((ofStyleGuide (enablingAll config)).lint file).filter fun violation =>
        config.enables violation.check := by
  rw [styleGuideLint, styleGuideLint, reportsKept, rulesFor, rulesFor, List.filter_filter]
  have same : styleGuide.filter (fun rule => config.enables rule.name &&
        ((enablingAll config).enables rule.name &&
          rule.appliesTo (enablingAll config) file.name)) =
      styleGuide.filter (fun rule => config.enables rule.name && rule.appliesTo config file.name) :=
    List.filter_congr fun rule member => by rw [(ruleBlind config rule member).1]; rfl
  rw [same]
  refine List.flatMap_congr fun rule member => ?_
  rw [(ruleBlind config rule (List.mem_filter.mp member).1).2]

theorem enabledNames (config : Config) :
    (ofStyleGuide config).checkNames = (defaultChecks.map (·.name)).filter config.enables := by
  rw [checkNames, styleGuideLinter, List.filter_map]
  rfl

theorem allNames (config : Config) :
    (ofStyleGuide (enablingAll config)).checkNames = defaultChecks.map (·.name) := by
  rw [enabledNames]
  exact List.filter_eq_self.mpr fun name _ => rfl

theorem disabledThins (config : Config) (file : SourceFile) :
    Thinned (fun violation => config.enables violation.check = false ∧
        ∃ rule ∈ styleGuide, violation.check = rule.name ∧ violation.severity = rule.severity)
      ((ofStyleGuide config).lint file) ((ofStyleGuide (enablingAll config)).lint file) := by
  rw [disabledLint config file]
  have filtered := thinnedFilter (fun violation => config.enables violation.check)
    ((ofStyleGuide (enablingAll config)).lint file)
  refine thinnedWiden filtered ?_
  rintro violation ⟨found, disabled⟩
  obtain ⟨rule, member, _, _, message, _, rfl⟩ := reportedBy found
  exact ⟨disabled, rule, member, rfl, rfl⟩

theorem disablingFilters (config : Config) :
    let chosen := ofStyleGuide config
    let all := ofStyleGuide { config with disabledChecks := [] }
    all.checkNames = defaultChecks.map (·.name) ∧
    chosen.checkNames = all.checkNames.filter config.enables ∧
    (∀ file, chosen.lint file =
      (all.lint file).filter fun violation => config.enables violation.check) ∧
    ∀ source paths record, ∃ cost full,
      Run.Costs chosen source paths record cost ∧ Run.Costs all source paths record full ∧
      cost ≤ full ∧
      ((∀ check ∈ defaultChecks, config.enables check.name = false →
        check.name = "global-variables") → cost = full) := by
  intro chosen all
  have everything : all.checkNames = defaultChecks.map (·.name) := allNames config
  refine ⟨everything, ?_, disabledLint config, ?_⟩
  · rw [everything]
    exact enabledNames config
  · intro source paths record
    have same : chosen.config.scoring = all.config.scoring := by
      simp only [chosen, all, styleGuideLinter]
    obtain ⟨cost, full, costs, costsAll, atMost, equal⟩ :=
      Run.thinnedCosts same (disabledThins config) source paths record
    refine ⟨cost, full, costs, costsAll, atMost, fun only => equal ?_⟩
    rintro file violation ⟨disabled, rule, member, named, severe⟩
    rw [named] at disabled
    have warned : rule.severity = .warning :=
      (warningRule rule member).mpr (only rule.check (List.mem_map_of_mem member) disabled)
    rw [Violation.isError, severe, warned]
    rfl

theorem disablingFiltersSample :
    let config : Config := { disabledChecks := ["GlobalVariablesCheck"] }
    let source : Source := fun _ => .ok ⟨"int Count = 1;", false⟩
    let miscased : Violation := ⟨"variable-names", "a.cpp",
      "variable name 'Count' should use lower camel case (lowercase first letter)", .error⟩
    (∀ check ∈ defaultChecks, config.enables check.name = false → check.name = "global-variables") ∧
    config.enables "global-variables" = false ∧
    ((ofStyleGuide {}).lint ⟨"a.cpp", "int Count = 1;"⟩).length = 2 ∧
    (ofStyleGuide config).lint ⟨"a.cpp", "int Count = 1;"⟩ = [miscased] ∧
    ∃ cost, Run.Costs (ofStyleGuide config) source ["a.cpp", "a.cpp"] Record.empty cost ∧
      Run.Costs (ofStyleGuide {}) source ["a.cpp", "a.cpp"] Record.empty cost := by
  intro config source miscased
  have only : ∀ check ∈ defaultChecks, config.enables check.name = false →
      check.name = "global-variables" := by
    refine List.forall_mem_map.mpr (everyRule ?_ ?_ ?_ ?_ ?_ ?_ ?_ ?_) <;> decide +kernel
  obtain ⟨_, _, filtered, costs⟩ := disablingFilters config
  obtain ⟨cost, full, chosen, all, _, same⟩ := costs source ["a.cpp", "a.cpp"] Record.empty
  refine ⟨only, by decide +kernel, by decide +kernel, (filtered _).trans (by decide +kernel),
    cost, chosen, ?_⟩
  rw [same only]
  exact all

end Linter

end HouseStyle
