import HouseStyle.Proofs.CheckNames

/-! The normal form of any name at all. What has been read of a name holds neither underscores nor
capital letters, and a text without them is kept as it is, but for one `-check` at its end. So the
texts without them are just the normal forms, and a normal form is its own normal form unless it ends
in `-check` still. -/
namespace HouseStyle.CheckName
open Text (All)
open Declaration (asciiEach letterAscii)

def Plain (text : String) : Prop := ∀ c ∈ text.toList, c ≠ '_' ∧ c.isUpper = false

def EndsInCheck (text : String) : Prop := ∃ stem, text = stem ++ "-check"

def SameDisabled (config other : Config) : Prop :=
  ∀ entry, entry ∈ config.disabledChecks ↔ entry ∈ other.disabledChecks

theorem plainIff (text : String) : Plain text ↔ All isKept text.toList := by
  simp [Plain, All, isKept]

theorem loweredKept {c : Char} (upper : c.isUpper = true) : isKept c.toLower = true := by
  have each : ((List.range 128).map Char.ofNat).all (fun d => !d.isUpper || isKept d.toLower) = true := by
    decide +kernel
  simpa [upper] using asciiEach each (letterAscii (Or.inl upper))

theorem extendWritesKept {done : List Char} (kept : All isKept done) (c : Char) :
    All isKept (extend done c) := by
  have hyphen : All isKept ('-' :: done) := List.forall_mem_cons.mpr ⟨rfl, kept⟩
  by_cases underscore : c = '_'
  · rw [extend, if_pos underscore]
    exact hyphen
  · cases upper : c.isUpper with
    | true =>
      rw [extendUpper done upper]
      refine List.forall_mem_cons.mpr ⟨loweredKept upper, ?_⟩
      split
      · exact kept
      · exact hyphen
    | false =>
      have here : isKept c = true := by simp [isKept, underscore, upper]
      rw [extendKept done here]
      exact List.forall_mem_cons.mpr ⟨here, kept⟩

theorem hyphenatedKept (name : List Char) : All isKept (hyphenated name) := by
  have read : All isKept (name.foldl extend []) :=
    List.foldlRecOn name extend (fun _ member => absurd member List.not_mem_nil)
      fun _ kept c _ => extendWritesKept kept c
  exact fun c member => read c (List.mem_reverse.mp member)

theorem dropCheckFront (name : List Char) : dropCheck name <+: name := by
  unfold dropCheck
  split
  · exact List.take_prefix _ name
  · exact List.prefix_refl name

theorem normalFormPlain (name : String) : Plain (normalForm name) := by
  rw [plainIff, normalForm, String.toList_ofList]
  exact fun c member => hyphenatedKept name.toList c ((dropCheckFront _).mem member)

theorem plainRead {text : String} (plain : Plain text) :
    normalForm text = String.ofList (dropCheck text.toList) := by
  have kept := (plainIff text).mp plain
  rw [normalForm, hyphenated, extendAllKept kept, List.append_nil, List.reverse_reverse]

theorem checkedChars (stem : String) : (stem ++ "-check").toList = stem.toList ++ checkEnding :=
  String.toList_append

theorem endsIff (text : String) : EndsInCheck text ↔ checkEnding <:+ text.toList := by
  constructor
  · rintro ⟨stem, rfl⟩
    exact ⟨stem.toList, (checkedChars stem).symm⟩
  · rintro ⟨stem, split⟩
    refine ⟨String.ofList stem, String.toList_inj.mp ?_⟩
    rw [checkedChars, String.toList_ofList, split]

theorem plainChecked {stem : String} (plain : Plain (stem ++ "-check")) :
    normalForm (stem ++ "-check") = stem := by
  rw [plainRead plain, checkedChars, dropCheckEnding, String.ofList_toList]

theorem plainUnchecked {text : String} (plain : Plain text) (other : ¬ EndsInCheck text) :
    normalForm text = text := by
  rw [endsIff] at other
  rw [plainRead plain, dropCheckOther other, String.ofList_toList]

theorem plainNormal {text : String} (plain : Plain text) : normalForm (text ++ "-check") = text := by
  have ending : All isKept checkEnding := List.all_eq_true.mp rfl
  refine plainChecked ((plainIff _).mpr ?_)
  rw [checkedChars]
  exact List.forall_mem_append.mpr ⟨(plainIff text).mp plain, ending⟩

theorem plainFixed {text : String} (plain : Plain text) : normalForm text = text ↔ ¬ EndsInCheck text := by
  refine ⟨?_, plainUnchecked plain⟩
  rintro fixed ⟨stem, rfl⟩
  -- what is left of such a text is shorter than the text
  rw [plainChecked plain] at fixed
  have lengths := congrArg String.length fixed
  rw [String.length_append] at lengths
  have ending : "-check".length = 6 := rfl
  omega

theorem enablesSame {config other : Config} (same : SameDisabled config other) {check again : String}
    (form : normalForm check = normalForm again) : config.enables check = other.enables again := by
  have disabled : config.enables check = false ↔ other.enables again = false := by
    rw [disabledIff, disabledIff, form]
    exact exists_congr fun entry => and_congr_left fun _ => same entry
  exact Bool.eq_iff_iff.mpr (by simpa using not_congr disabled)

theorem normalFormLaws :
    (∀ name, Plain (normalForm name) ∧
      (∀ stem, normalForm name = stem ++ "-check" → normalForm (normalForm name) = stem) ∧
      (normalForm (normalForm name) = normalForm name ↔ ¬ EndsInCheck (normalForm name))) ∧
    (∀ text, Plain text → ∃ name, normalForm name = text) ∧
    ∀ (config other : Config) (check again : String), SameDisabled config other →
      normalForm check = normalForm again →
      config.enables check = other.enables again ∧
      (config.enables check = false ↔
        ∃ entry ∈ other.disabledChecks, normalForm entry = normalForm again) := by
  refine ⟨fun name => ?_, fun text plain => ⟨_, plainNormal plain⟩, ?_⟩
  · have plain := normalFormPlain name
    refine ⟨plain, fun stem ends => ?_, plainFixed plain⟩
    rw [ends] at plain ⊢
    exact plainChecked plain
  · intro config other check again same form
    have answer := enablesSame same form
    exact ⟨answer, by rw [answer, disabledIff]⟩

theorem normalFormLawsSample :
    let name := "_Été__FooCheck_Check-check"
    let again := "-Été--foo-check-checkCheck"
    let config : Config := { disabledChecks := ["a", "-Été-_foo_check-CheckCheck"] }
    let other : Config := { disabledChecks := ["-Été-_foo_check-CheckCheck", "a", "a"] }
    (normalForm name = "-Été--foo-check" ++ "-check" ∧ Plain "-Été--foo-check" ∧
      SameDisabled config other ∧ normalForm name = normalForm again) ∧
    normalForm (normalForm name) = "-Été--foo-check" ∧
    normalForm (normalForm name) ≠ normalForm name ∧
    (∃ first, normalForm first = "-Été--foo-check") ∧
    config.enables name = false ∧ other.enables again = false := by
  intro name again config other
  have ends : normalForm name = "-Été--foo-check" ++ "-check" := by decide +kernel
  have plain : Plain "-Été--foo-check" := (plainIff _).mpr (List.all_eq_true.mp (by decide +kernel))
  have same : SameDisabled config other := by
    intro entry
    simp only [config, other, List.mem_cons, List.not_mem_nil, or_false, or_self]
    exact or_comm
  have form : normalForm name = normalForm again := by decide +kernel
  obtain ⟨names, texts, answers⟩ := normalFormLaws
  obtain ⟨_, shorter, fixed⟩ := names name
  obtain ⟨answer, disabled⟩ := answers config other name again same form
  have off := disabled.mpr ⟨"-Été-_foo_check-CheckCheck", by simp [other], by decide +kernel⟩
  exact ⟨⟨ends, plain, same, form⟩, shorter _ ends, fun still => fixed.mp still ⟨_, ends⟩,
    texts _ plain, off, answer ▸ off⟩

end HouseStyle.CheckName
