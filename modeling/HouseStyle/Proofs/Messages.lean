import HouseStyle.Proofs.Globals
import HouseStyle.Proofs.Guides
import HouseStyle.Proofs.Shapes
import HouseStyle.Report

/-! What can be on record after any runs. A violation comes from a file that was read and from a rule
that was set on it. Its message is fixed text around names, and names are made of letters, digits and
underscores; so nothing unprintable gets from a file into a report. -/
namespace HouseStyle
open Text Declaration

def isPrintable (c : Char) : Bool := 0x20 ≤ c.toNat && c.toNat ≤ 0x7E

def Printable (text : String) : Prop := All isPrintable text.toList

theorem printableText {text : String} (all : text.toList.all isPrintable = true) : Printable text :=
  List.all_eq_true.mp all

theorem printableAppend {left right : String} (first : Printable left) (second : Printable right) :
    Printable (left ++ right) := by
  intro c member
  rw [String.toList_append] at member
  rcases List.mem_append.mp member with inLeft | inRight
  · exact first c inLeft
  · exact second c inRight

theorem alphanumPrintable {c : Char} (alphanum : c.isAlphanum = true) : isPrintable c = true := by
  have range := alphanumRange alphanum
  simp only [isPrintable, Bool.and_eq_true, decide_eq_true_eq]
  omega

theorem partPrintable {c : Char} (part : isIdentifierPart c = true) : isPrintable c = true := by
  rcases Bool.or_eq_true_iff.mp part with alphanum | underscore
  · exact alphanumPrintable alphanum
  · rw [eq_of_beq underscore]
    decide

theorem identifierPrintable {name : String} (valid : Identifier name) : Printable name :=
  fun c member => partPrintable ((identifierParts valid).2 c member)

theorem ownerPrintable {name : String} (valid : Owner name) : Printable name := by
  obtain ⟨c, rest, spelled, upper, letters⟩ := valid.shape
  intro d member
  rw [spelled] at member
  rcases List.mem_cons.mp member with rfl | inside
  · exact alphanumPrintable (Bool.or_eq_true_iff.mpr (Or.inl (Bool.or_eq_true_iff.mpr (Or.inl upper))))
  · exact alphanumPrintable (letters d inside)

theorem saidOf {β : Type} {passes : β → Prop} [DecidablePred passes] {wording : β → String}
    {items : List β} {message : String}
    (said : message ∈ items.filterMap fun item => if passes item then none else some (wording item)) :
    ∃ item ∈ items, wording item = message := by
  obtain ⟨item, member, chosen⟩ := List.mem_filterMap.mp said
  split at chosen
  · contradiction
  · exact ⟨item, member, Option.some.inj chosen⟩

theorem constructorPrintable {text : List Char} {message : String}
    (said : message ∈ FunctionNames.constructorMessages text) : Printable message := by
  obtain ⟨found, member, rfl⟩ := saidOf said
  obtain ⟨owner, name⟩ := occurrenceValid (functionReads constructorReads) member
  refine printableAppend (printableAppend (printableAppend (printableAppend ?_ ?_) ?_) ?_) ?_
  · exact printableText (by decide +kernel)
  · exact identifierPrintable name
  · exact printableText (by decide +kernel)
  · exact ownerPrintable owner
  · exact printableText (by decide +kernel)

theorem namingPrintable {opening name closing : String} (first : opening.toList.all isPrintable = true)
    (valid : Identifier name) (last : closing.toList.all isPrintable = true) :
    Printable (opening ++ name ++ closing) :=
  printableAppend (printableAppend (printableText first) (identifierPrintable valid))
    (printableText last)

theorem memberPrintable {text : List Char} {message : String}
    (said : message ∈ FunctionNames.memberMessages text) : Printable message := by
  obtain ⟨found, member, rfl⟩ := saidOf said
  obtain ⟨_, name⟩ := occurrenceValid (functionReads memberReads) member
  exact namingPrintable (by decide +kernel) name (by decide +kernel)

theorem freePrintable {width : Nat} {text : List Char} {message : String}
    (said : message ∈ FunctionNames.freeMessages width text) : Printable message := by
  obtain ⟨found, member, rfl⟩ := saidOf said
  have name := occurrenceValid (functionReads freeReads) member
  exact namingPrintable (by decide +kernel) name (by decide +kernel)

theorem foundIdentifier {shape : Shape String} (reads : Reads shape Identifier) {text : List Char}
    {name : String} (member : name ∈ (occurrences shape text).map (·.value)) : Identifier name := by
  obtain ⟨found, inside, rfl⟩ := List.mem_map.mp member
  exact occurrenceValid reads inside

theorem globalIdentifier {text : List Char} {name : String}
    (member : name ∈ GlobalVariables.declared text) : Identifier name :=
  foundIdentifier variableReads ((GlobalVariables.declaredAmongVariables text).subset member)

theorem messagePrintable (config : Config) (text : List Char) : ∀ rule ∈ styleGuide,
    ∀ message ∈ rule.messages config text, Printable message := by
  apply everyRule
  case functionNames =>
    intro message said
    rcases List.mem_append.mp said with outside | free
    · rcases List.mem_append.mp outside with constructor | member
      · exact constructorPrintable constructor
      · exact memberPrintable member
    · exact freePrintable free
  case variableNames =>
    intro message said
    obtain ⟨name, member, rfl⟩ := saidOf said
    exact namingPrintable (by decide +kernel) (foundIdentifier variableReads member) (by decide +kernel)
  case classNames =>
    intro message said
    obtain ⟨name, member, rfl⟩ := saidOf said
    exact namingPrintable (by decide +kernel) (foundIdentifier classReads member) (by decide +kernel)
  case macroNames =>
    intro message said
    obtain ⟨name, member, rfl⟩ := saidOf said
    exact namingPrintable (by decide +kernel) (foundIdentifier macroReads member) (by decide +kernel)
  case globalVariables =>
    intro message said
    obtain ⟨name, member, rfl⟩ := List.mem_map.mp said
    exact namingPrintable (by decide +kernel) (globalIdentifier member) (by decide +kernel)
  case headerGuard =>
    intro message said
    simp only [Layout.headerGuard] at said
    split at said
    · contradiction
    · rw [List.mem_singleton.mp said]
      exact printableText (by decide +kernel)
  case headerStructure => exact fun message said => nomatch said
  case sourceStructure => exact fun message said => nomatch said

structure Batch where
  source : Source
  paths : List String

/- The records that a linter can leave behind, run after run from an empty one. The observer of a run
may stop it at any event. -/
inductive History (linter : Linter) : (batches : List Batch) → Record → Prop where
  | start : History linter [] Record.empty
  | run {batches record} (past : History linter batches record) (batch : Batch) {σ ε : Type}
      (observe : Observer σ ε) (observer : σ) :
      History linter (batches ++ [batch])
        (Run.recordOf (linter.run batch.source observe batch.paths record observer))

def FoundIn (linter : Linter) (batches : List Batch) (violation : Violation) : Prop :=
  ∃ batch ∈ batches, ∃ path ∈ batch.paths, ∃ content, batch.source path = .ok content ∧
    violation ∈ linter.lint ⟨Path.baseName path, content.text⟩

theorem foundReadable {linter : Linter} {batch : Batch} {violation : Violation}
    (found : violation ∈ batch.paths.flatMap (Run.foundAt linter.lint batch.source)) :
    FoundIn linter [batch] violation := by
  obtain ⟨path, member, here⟩ := List.mem_flatMap.mp found
  unfold Run.foundAt at here
  split at here
  · contradiction
  · rename_i content read
    exact ⟨batch, List.mem_cons_self, path, member, content, read, here⟩

theorem runFound {linter : Linter} {batch : Batch} {record : Record} {σ ε : Type}
    {observe : Observer σ ε} {observer : σ} {violation : Violation}
    (member : violation ∈
      (Run.recordOf (linter.run batch.source observe batch.paths record observer)).toList) :
    violation ∈ record.toList ∨ FoundIn linter [batch] violation := by
  obtain ⟨seen, left, told, recorded⟩ :=
    Run.runRecords linter batch.source observe batch.paths record observer
  rw [recorded] at member
  refine (List.mem_append.mp member).imp_right fun new => foundReadable ?_
  rw [← Run.toldViolations]
  change violation ∈ (Run.events linter batch.source batch.paths).filterMap Event.violation?
  rw [told, List.filterMap_append]
  exact List.mem_append_left _ new

theorem historyFound {linter : Linter} {batches : List Batch} {record : Record}
    (history : History linter batches record) :
    ∀ violation ∈ record.toList, FoundIn linter batches violation := by
  induction history with
  | start => exact fun violation member => nomatch member
  | @run batches record past batch σ ε observe observer ih =>
    intro violation member
    rcases runFound member with old | ⟨other, inside, rest⟩
    · obtain ⟨other, inside, rest⟩ := ih violation old
      exact ⟨other, List.mem_append_left _ inside, rest⟩
    · exact ⟨other, List.mem_append_right _ inside, rest⟩

theorem unprintableCount {text : String} {c : Char} (printable : Printable text)
    (hidden : isPrintable c = false) : text.toList.count c = "".toList.count c := by
  refine List.count_eq_zero.mpr fun member => ?_
  rw [printable c member] at hidden
  contradiction

theorem styledCount {message : String} {c : Char} (printable : Printable message)
    (hidden : isPrintable c = false) (style : Report.Style) (styled : Bool) :
    (style.apply styled message).toList.count c = (style.apply styled "").toList.count c := by
  have none := unprintableCount printable hidden
  unfold Report.Style.apply
  split
  · simp only [String.toList_append, List.count_append, none]
  · exact none

theorem liveFound (styled : Bool) (violation : Violation) :
    Report.live styled (.found violation) =
      "  " ++ Report.marker violation.severity ++ " " ++
        (Report.severityStyle violation.severity).apply styled violation.message ++ "\n" := rfl

theorem liveCount {violation : Violation} {c : Char} (printable : Printable violation.message)
    (hidden : isPrintable c = false) (styled : Bool) :
    (Report.live styled (.found violation)).toList.count c =
      (Report.live styled (.found { violation with message := "" })).toList.count c := by
  rw [liveFound, liveFound]
  simp only [String.toList_append, List.count_append, styledCount printable hidden]

theorem listingCount {violation : Violation} {c : Char} (printable : Printable violation.message)
    (hidden : isPrintable c = false) (number : Nat) :
    (Report.listingLine (violation, number)).toList.count c =
      (Report.listingLine ({ violation with message := "" }, number)).toList.count c := by
  have none := unprintableCount printable hidden
  simp only [Report.listingLine, String.toList_append, List.count_append, none]

theorem recordedViolations (config : Config) (batches : List Batch) (record : Record)
    (history : History (Linter.ofStyleGuide config) batches record) :
    ∀ violation ∈ record.toList,
      (∃ check ∈ defaultChecks, check.name = violation.check ∧ config.enables check.name = true ∧
        check.appliesTo config violation.file = true) ∧
      (violation.severity = .warning ↔ violation.check = "global-variables") ∧
      (∃ batch ∈ batches, ∃ path ∈ batch.paths, (∃ content, batch.source path = .ok content) ∧
        violation.file = Path.baseName path) ∧
      (∀ c ∈ violation.message.toList, 0x20 ≤ c.toNat ∧ c.toNat ≤ 0x7E) ∧
      ∀ c styled number, isPrintable c = false →
        (Report.live styled (.found violation)).toList.count c =
          (Report.live styled (.found { violation with message := "" })).toList.count c ∧
        (Report.listingLine (violation, number)).toList.count c =
          (Report.listingLine ({ violation with message := "" }, number)).toList.count c := by
  intro violation member
  obtain ⟨batch, inside, path, among, content, read, found⟩ := historyFound history violation member
  obtain ⟨rule, listed, enabled, applies, message, said, rfl⟩ := Linter.reportedBy found
  have printable : Printable message := messagePrintable config _ rule listed message said
  refine ⟨⟨rule.check, List.mem_map_of_mem listed, rfl, enabled, applies⟩, warningRule rule listed,
    ⟨batch, inside, path, among, ⟨content, read⟩, rfl⟩, ?_, ?_⟩
  · intro c here
    obtain ⟨low, high⟩ := Bool.and_eq_true_iff.mp (printable c here)
    exact ⟨of_decide_eq_true low, of_decide_eq_true high⟩
  · intro c styled number hidden
    exact ⟨liveCount printable hidden styled, listingCount printable hidden number⟩

/- The first run is stopped at its first report, which stays on record; the line feed and the escape
character of the file stand next to the name and are not reported with it. -/
theorem recordedViolationsSample :
    let source : Source := fun path =>
      if path = "gone.h" then .error (.notFound path) else .ok ⟨"class\nsong_list\x1b;", false⟩
    let linter := Linter.ofStyleGuide {}
    let stopping := Run.countingTo 2 "full" fun (seen : List Event) event => seen ++ [event]
    let first := Run.recordOf
      (linter.run source stopping ["gone.h", "b/a.cpp"] Record.empty (0, []))
    let record := Run.recordOf (linter.run source Run.recorder ["a.cpp"] first [])
    let reported : Violation := ⟨"class-names", "a.cpp",
      "class name 'song_list' should use upper camel case (no underscores)", .error⟩
    History linter [⟨source, ["gone.h", "b/a.cpp"]⟩, ⟨source, ["a.cpp"]⟩] record ∧
    record.toList = [reported, reported] ∧
    (∃ check ∈ defaultChecks, check.name = reported.check ∧ Config.enables {} check.name = true ∧
      check.appliesTo {} reported.file = true) ∧
    ∀ c ∈ reported.message.toList, 0x20 ≤ c.toNat ∧ c.toNat ≤ 0x7E := by
  intro source linter stopping first record reported
  have history : History linter [⟨source, ["gone.h", "b/a.cpp"]⟩, ⟨source, ["a.cpp"]⟩] record :=
    .run (.run .start ⟨source, ["gone.h", "b/a.cpp"]⟩ stopping (0, [])) ⟨source, ["a.cpp"]⟩
      Run.recorder []
  have listed : record.toList = [reported, reported] := by decide +kernel
  have sound := recordedViolations {} _ record history reported
    (by rw [listed]; exact List.mem_cons_self)
  exact ⟨history, listed, sound.1, sound.2.2.2.1⟩

end HouseStyle
