import HouseStyle.Proofs.Numerals
import HouseStyle.Proofs.Summaries

/-! Styling only adds. If the escape sequences are taken out of a styled report, what is left is the
report without styling, whatever else the texts in it look like: they need only be free of the escape
character itself. -/
namespace HouseStyle

namespace Report
open Text (All)

def escape : Char := '\x1b'

/- How many characters the escape sequence at the front of a text has: the escape character, a bracket,
digits and the letter `m`. Other texts have none. -/
def sequenceLength : List Char → Nat
  | first :: second :: rest =>
    let digits := rest.takeWhile Char.isDigit
    if first = escape ∧ second = '[' ∧ digits ≠ [] ∧ (rest.drop digits.length).head? = some 'm' then
      digits.length + 3
    else 0
  | _ => 0

def stripFrom : (covered : Nat) → List Char → List Char
  | _, [] => []
  | covered + 1, _ :: rest => stripFrom covered rest
  | 0, c :: rest =>
    if sequenceLength (c :: rest) = 0 then c :: stripFrom 0 rest
    else stripFrom (sequenceLength (c :: rest) - 1) rest

def stripped (text : String) : String := String.ofList (stripFrom 0 text.toList)

def Clean (text : String) : Prop := escape ∉ text.toList

instance (text : String) : Decidable (Clean text) := inferInstanceAs (Decidable (escape ∉ text.toList))

theorem stripCovered (word rest : List Char) :
    stripFrom word.length (word ++ rest) = stripFrom 0 rest := by
  induction word with
  | nil => rfl
  | cons c word ih =>
    rw [List.length_cons, List.cons_append, stripFrom]
    exact ih

theorem sequenceStripped {digits : List Char} (some : digits ≠ []) (all : All Char.isDigit digits)
    (rest : List Char) :
    stripFrom 0 (escape :: '[' :: (digits ++ 'm' :: rest)) = stripFrom 0 rest := by
  have run : (digits ++ 'm' :: rest).takeWhile Char.isDigit = digits :=
    Text.takeWhileRun all (Text.pastCons rest rfl)
  have found : sequenceLength (escape :: '[' :: (digits ++ 'm' :: rest)) = digits.length + 3 := by
    simp [sequenceLength, run, some]
  -- the escape character itself is taken by the first step, the others are covered by it
  have covered := stripCovered ('[' :: (digits ++ ['m'])) rest
  simp only [List.length_cons, List.length_append, List.length_nil, List.cons_append,
    List.append_assoc, List.nil_append] at covered
  rw [stripFrom, found, if_neg (by omega)]
  exact covered

theorem cleanStripped {text : List Char} (clean : escape ∉ text) (rest : List Char) :
    stripFrom 0 (text ++ rest) = text ++ stripFrom 0 rest := by
  induction text with
  | nil => rfl
  | cons c text ih =>
    simp only [List.mem_cons, not_or] at clean
    have none : sequenceLength (c :: (text ++ rest)) = 0 := by
      unfold sequenceLength
      split
      · rename_i same
        rw [(List.cons.inj same).1] at clean
        exact if_neg fun found => clean.1 found.1.symm
      · rfl
    rw [List.cons_append, stripFrom, if_pos none, ih clean.2, List.cons_append]

def Strips (styled plain : String) : Prop :=
  ∀ rest, stripFrom 0 (styled.toList ++ rest) = plain.toList ++ stripFrom 0 rest

theorem strippedOf {styled plain : String} (strips : Strips styled plain) : stripped styled = plain := by
  have whole := strips []
  rw [List.append_nil] at whole
  rw [stripped, whole, stripFrom, List.append_nil, String.ofList_toList]

theorem stripsClean {text : String} (clean : Clean text) : Strips text text := cleanStripped clean

theorem stripsAppend {styled plain styled' plain' : String} (front : Strips styled plain)
    (back : Strips styled' plain') : Strips (styled ++ styled') (plain ++ plain') := by
  intro rest
  simp only [String.toList_append, List.append_assoc]
  rw [front, back]

theorem stripsJoin {α : Type} (items : List α) {styled plain : α → String}
    (each : ∀ item ∈ items, Strips (styled item) (plain item)) :
    Strips (String.join (items.map styled)) (String.join (items.map plain)) := by
  induction items with
  | nil =>
    have nothing : Strips "" "" := stripsClean (by decide)
    exact nothing
  | cons item items ih =>
    rw [List.map_cons, List.map_cons, String.join_cons, String.join_cons]
    exact stripsAppend (each item List.mem_cons_self)
      (ih fun other member => each other (List.mem_cons_of_mem item member))

theorem stripsSequence (digits : List Char) (some : digits ≠ []) (all : All Char.isDigit digits) :
    Strips (String.ofList (escape :: '[' :: (digits ++ ['m']))) "" := by
  intro rest
  have taken := sequenceStripped some all rest
  simpa using taken

theorem stripsColor (color : Color) : Strips color.code "" := by
  have digits (digit : Char) (is : digit.isDigit = true) :
      Strips (String.ofList [escape, '[', '3', digit, 'm']) "" :=
    stripsSequence ['3', digit] (by simp) (List.all_eq_true.mp (by simp [is]))
  cases color with
  | red => exact digits '1' rfl
  | green => exact digits '2' rfl
  | yellow => exact digits '3' rfl

theorem stripsOpening (style : Style) : Strips style.opening "" := by
  have nothing : Strips "" "" := stripsClean (by decide)
  have strong : Strips "\x1b[1m" "" := stripsSequence ['1'] (by simp) (List.all_eq_true.mp rfl)
  obtain ⟨color, bold⟩ := style
  cases color with
  | none =>
    cases bold with
    | false => exact stripsAppend nothing nothing
    | true => exact stripsAppend nothing strong
  | some color =>
    cases bold with
    | false => exact stripsAppend (stripsColor color) nothing
    | true => exact stripsAppend (stripsColor color) strong

theorem stripsStyle (style : Style) {text : String} (clean : Clean text) :
    Strips (style.apply true text) (style.apply false text) := by
  have reset : Strips styleReset "" := stripsSequence ['0'] (by simp) (List.all_eq_true.mp rfl)
  have whole := stripsAppend (stripsAppend (stripsOpening style) (stripsClean clean)) reset
  rw [String.empty_append, String.append_empty] at whole
  exact whole

@[simp] theorem cleanNumber (n : Nat) : Clean (toString n) := by
  intro member
  have digit := Toml.writtenDigits n escape (by simpa [Nat.toList_repr] using member)
  contradiction

@[simp] theorem cleanAppend (front back : String) : Clean (front ++ back) ↔ Clean front ∧ Clean back := by
  simp only [Clean, String.toList_append, List.mem_append, not_or]

theorem cleanJoin {texts : List String} (each : ∀ text ∈ texts, Clean text) :
    Clean (String.join texts) := by
  induction texts with
  | nil => decide
  | cons text texts ih =>
    rw [String.join_cons]
    exact (cleanAppend _ _).mpr ⟨each text List.mem_cons_self,
      ih fun other member => each other (List.mem_cons_of_mem text member)⟩

end Report

def ReadFailure.texts : ReadFailure → List String
  | .notFound path | .notAFile path => [path]
  | .unreadable path cause => [path, cause]

def Violation.texts (violation : Violation) : List String :=
  [violation.check, violation.file, violation.message]

def Event.texts : Event → List String
  | .started file => [file]
  | .found violation => violation.texts
  | .skipped failure => failure.texts

namespace Report

theorem cleanFailure {failure : ReadFailure} (clean : ∀ text ∈ failure.texts, Clean text) :
    Clean failure.message := by
  cases failure with
  | notFound path =>
    have name := clean path List.mem_cons_self
    change Clean ("file does not exist: " ++ path)
    simp only [cleanAppend, name, and_true]
    decide +kernel
  | notAFile path =>
    have name := clean path List.mem_cons_self
    change Clean ("not a regular file: " ++ path)
    simp only [cleanAppend, name, and_true]
    decide +kernel
  | unreadable path cause =>
    have name := clean path List.mem_cons_self
    have reason := clean cause (List.mem_cons_of_mem path List.mem_cons_self)
    change Clean ("failed to read " ++ path ++ ": " ++ cause)
    simp only [cleanAppend, name, reason, and_true]
    decide +kernel

theorem stripsLive {event : Event} (clean : ∀ text ∈ event.texts, Clean text) :
    Strips (live true event) (live false event) := by
  have feed : Strips "\n" "\n" := stripsClean (by decide +kernel)
  cases event with
  | started file =>
    have opening : Strips "\nChecking file: " "\nChecking file: " := stripsClean (by decide +kernel)
    have name := stripsStyle bold (clean file (by simp [Event.texts]))
    exact stripsAppend (stripsAppend opening name) feed
  | found violation =>
    have mark : Clean ("  " ++ marker violation.severity ++ " ") := by
      cases violation.severity <;> decide +kernel
    have message := stripsStyle (severityStyle violation.severity)
      (clean violation.message (by simp [Event.texts, Violation.texts]))
    exact stripsAppend (stripsAppend (stripsClean mark) message) feed
  | skipped failure =>
    have warning : Clean "warning:" := by decide +kernel
    have styled := stripsStyle { yellow with bold := true } warning
    have space : Strips " " " " := stripsClean (by decide +kernel)
    exact stripsAppend (stripsAppend (stripsAppend styled space) (stripsClean (cleanFailure clean))) feed

theorem cleanCounted (count : Nat) {one many : String} (first : Clean one) (second : Clean many) :
    Clean (counted count one many) := by
  have word : Clean (if count = 1 then one else many) := by split <;> assumption
  simp only [counted, cleanAppend, cleanNumber, word, and_true, true_and]
  decide +kernel

theorem cleanCheckLines {counts : CheckCounts} (clean : ∀ entry ∈ counts.entries, Clean entry.1) :
    Clean (checkLines counts) := by
  refine cleanJoin (List.forall_mem_map.mpr fun entry member => ?_)
  have name := clean entry member
  simp only [cleanAppend, cleanNumber, name, and_true]
  decide +kernel

theorem cleanListing {violations : List Violation}
    (clean : ∀ violation ∈ violations, ∀ text ∈ violation.texts, Clean text) :
    Clean (listing violations) := by
  refine cleanJoin (List.forall_mem_map.mpr fun entry member => ?_)
  have texts := clean entry.1 (List.fst_mem_of_mem_zipIdx member)
  have file := texts entry.1.file (by simp [Violation.texts])
  have message := texts entry.1.message (by simp [Violation.texts])
  simp only [listingLine, cleanAppend, cleanNumber, file, message, and_true, true_and]
  decide +kernel

theorem stripsSkipped (skipped : Nat) : Strips (skippedLine true skipped) (skippedLine false skipped) := by
  unfold skippedLine
  split
  · exact stripsClean (by decide)
  · have opening : Clean (marker .warning ++ " Skipped ") := by decide +kernel
    have number : Clean (counted skipped "file" "files") :=
      cleanCounted skipped (by decide +kernel) (by decide +kernel)
    exact stripsAppend (stripsAppend (stripsClean opening) (stripsStyle yellow number))
      (stripsClean (by decide +kernel))

theorem stripsVerdict (deduction : UInt32) {record : Record}
    (clean : ∀ violation ∈ record.toList, ∀ text ∈ violation.texts, Clean text) :
    Strips (verdict true deduction record) (verdict false deduction record) := by
  unfold verdict
  split
  · exact stripsClean (by decide +kernel)
  · have opening : Strips "Deduction: " "Deduction: " := stripsClean (by decide +kernel)
    have points : Clean ("-" ++ toString deduction.toNat) := by
      simp only [cleanAppend, cleanNumber, and_true]
      decide +kernel
    have title : Strips "\n\nIssues:\n" "\n\nIssues:\n" := stripsClean (by decide +kernel)
    exact stripsAppend (stripsAppend (stripsAppend opening (stripsStyle _ points)) title)
      (stripsClean (cleanListing clean))

theorem stripsIssues {score : Score} {record : Record}
    (clean : ∀ violation ∈ record.toList, ∀ text ∈ violation.texts, Clean text)
    (counts : ∀ entry ∈ score.tally.byCheck.entries, Clean entry.1) :
    Strips (issues true score record) (issues false score record) := by
  unfold issues
  split
  · have mark : Clean "✅" := by decide +kernel
    exact stripsAppend (stripsStyle green mark) (stripsClean (by decide +kernel))
  · refine stripsAppend (stripsClean ?_) (stripsVerdict score.deduction clean)
    have total : Clean (counted score.tally.total "style issue" "style issues") :=
      cleanCounted _ (by decide +kernel) (by decide +kernel)
    have errors : Clean (counted score.tally.errors "error" "errors") :=
      cleanCounted _ (by decide +kernel) (by decide +kernel)
    have warnings : Clean (counted score.tally.warnings "warning" "warnings") :=
      cleanCounted _ (by decide +kernel) (by decide +kernel)
    simp only [cleanAppend, total, errors, warnings, cleanCheckLines counts, and_true]
    decide +kernel

theorem stripsSummary {score : Score} {record : Record} (totals : RunTotals)
    (clean : ∀ violation ∈ record.toList, ∀ text ∈ violation.texts, Clean text)
    (counts : ∀ entry ∈ score.tally.byCheck.entries, Clean entry.1) :
    Strips (summary true score record totals) (summary false score record totals) := by
  have above : Strips ("\n" ++ separator ++ "\n") ("\n" ++ separator ++ "\n") :=
    stripsClean (by decide +kernel)
  have title : Strips (bold.apply true "Code Style Check Results") (bold.apply false "Code Style Check Results") :=
    stripsStyle bold (by decide +kernel)
  have feed : Strips "\n" "\n" := stripsClean (by decide +kernel)
  have rule : Strips separator separator := stripsClean (by decide +kernel)
  have head := stripsAppend (stripsAppend (stripsAppend (stripsAppend above title) feed) rule) feed
  have body := stripsAppend (stripsAppend head (stripsSkipped totals.filesSkipped))
    (stripsIssues clean counts)
  exact stripsAppend (stripsAppend body rule) feed

theorem stylingStrips :
    (∀ events : List Event, (∀ event ∈ events, ∀ text ∈ event.texts, escape ∉ text.toList) →
      ∃ styled plain, events.foldlM (liveObserver true) "" = .ok styled ∧
        events.foldlM (liveObserver false) "" = .ok plain ∧ stripped styled = plain) ∧
    ∀ (score : Score) (record : Record) (totals : RunTotals),
      (∀ violation ∈ record.toList, ∀ text ∈ violation.texts, escape ∉ text.toList) →
      (∀ entry ∈ score.tally.byCheck.entries, escape ∉ entry.1.toList) →
      stripped (summary true score record totals) = summary false score record totals := by
  constructor
  · intro events clean
    have styled := liveAccepts true events ""
    have plain := liveAccepts false events ""
    refine ⟨_, _, styled, plain, strippedOf ?_⟩
    rw [String.empty_append, String.empty_append]
    exact stripsJoin events fun event member => stripsLive (clean event member)
  · intro score record totals clean counts
    exact strippedOf (stripsSummary totals clean counts)

theorem stylingStripsSample :
    let odd : Violation := ⟨"1m", "[31m.h", "0m[1m\n", .warning⟩
    let events : List Event := [.started "[31m.h", .found odd, .skipped (.unreadable "m" "[0m")]
    let record := Record.empty.push odd
    let score : Score := ⟨1, Tally.ofList record.toList⟩
    let totals : RunTotals := { filesSkipped := 1 }
    ((∀ event ∈ events, ∀ text ∈ event.texts, escape ∉ text.toList) ∧
      (∀ violation ∈ record.toList, ∀ text ∈ violation.texts, escape ∉ text.toList) ∧
      ∀ entry ∈ score.tally.byCheck.entries, escape ∉ entry.1.toList) ∧
    (∃ styled plain, events.foldlM (liveObserver true) "" = .ok styled ∧
      events.foldlM (liveObserver false) "" = .ok plain ∧ stripped styled = plain) ∧
    stripped (summary true score record totals) = summary false score record totals ∧
    summary true score record totals ≠ summary false score record totals := by
  intro odd events record score totals
  have told : ∀ event ∈ events, ∀ text ∈ event.texts, escape ∉ text.toList := by decide +kernel
  have found : ∀ violation ∈ record.toList, ∀ text ∈ violation.texts, escape ∉ text.toList := by
    decide +kernel
  have counts : ∀ entry ∈ score.tally.byCheck.entries, escape ∉ entry.1.toList := by decide +kernel
  exact ⟨⟨told, found, counts⟩, stylingStrips.1 events told,
    stylingStrips.2 score record totals found counts, by decide +kernel⟩

end Report

end HouseStyle
