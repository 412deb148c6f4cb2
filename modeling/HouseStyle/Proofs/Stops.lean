import HouseStyle.Proofs.Runs

/-! Runs that their observer stops. Whatever event it refuses, the run ends there: the record holds
what it held at the start and the violations of the events up to the refused one, that one included.
A path that cannot be read is an event like any other and stops nothing by itself. -/
namespace HouseStyle.Run

variable {σ ε : Type}

def steadily (accept : σ → Event → σ) : Observer σ ε := fun state event => .ok (accept state event)

/- Along `events`, `observe` does as `accept` before event `number`, counted from nought, and fails on
that event if there is one. -/
structure FailsAt (observe : Observer σ ε) (accept : σ → Event → σ) (error : ε) (number : Nat)
    (start : σ) (events : List Event) : Prop where
  before : ∀ index event, index < number → events[index]? = some event →
    observe ((events.take index).foldl accept start) event =
      .ok (accept ((events.take index).foldl accept start) event)
  refuses : ∀ event, events[number]? = some event →
    observe ((events.take number).foldl accept start) event = .error error

theorem steadilyAccepts (accept : σ → Event → σ) (events : List Event) (start : σ) :
    events.foldlM (steadily accept : Observer σ ε) start = .ok (events.foldl accept start) :=
  List.foldlM_pure

theorem recorderAccepts (events : List Event) (seen : List Event) :
    events.foldlM recorder seen = .ok (seen ++ events) := by
  induction events generalizing seen with
  | nil => simp; rfl
  | cons event rest ih =>
    have later := ih (seen ++ [event])
    rw [List.append_assoc, List.singleton_append] at later
    exact later

theorem runRecorded (linter : Linter) (source : Source) (paths : List String) (record : Record) :
    (linter.run source recorder paths record []).map Progress.observer =
      .ok (events linter source paths) := by
  have recorded : linter.run source recorder paths record [] =
      .ok (completed linter source paths record (events linter source paths)) :=
    runAccepted record (recorderAccepts _ [])
  rw [recorded]
  exact congrArg Except.ok (completedObserver _ _ _ _ _)

theorem acceptsBefore {observe : Observer σ ε} {accept : σ → Event → σ} {error : ε} {number : Nat}
    {start : σ} {events : List Event} (fails : FailsAt observe accept error number start events)
    (count : Nat) (early : count ≤ number) :
    (events.take count).foldlM observe start = .ok ((events.take count).foldl accept start) := by
  induction count with
  | zero => rfl
  | succ count ih =>
    rw [List.take_add_one, List.foldlM_append, ih (by omega), List.foldl_append]
    cases here : events[count]? with
    | none => rfl
    | some event =>
      have accepted := fails.before count event (by omega) here
      change observe _ event >>= pure = _
      rw [accepted]
      rfl

theorem splitAtNumber {α : Type} {items : List α} {number : Nat} (inside : number < items.length) :
    ∃ item left, items = items.take number ++ item :: left ∧ items[number]? = some item := by
  refine ⟨items[number], items.drop (number + 1), ?_, List.getElem?_eq_getElem inside⟩
  rw [← List.drop_eq_getElem_cons inside, List.take_append_drop]

theorem runRefused {linter : Linter} {source : Source} {observe : Observer σ ε} {paths : List String}
    {start last : σ} {error : ε} {done : List Event} {event : Event} {left : List Event}
    (record : Record) (told : events linter source paths = done ++ event :: left)
    (accepted : done.foldlM observe start = .ok last) (refused : observe last event = .error error) :
    ∃ stopped, linter.run source observe paths record start = .error stopped ∧
      stopped.error = error ∧ stopped.progress.observer = last ∧
      stopped.progress.record.toList =
        record.toList ++ (done ++ [event]).filterMap Event.violation? := by
  rw [← stageEvents, List.map_eq_append_iff] at told
  obtain ⟨doneStages, rest, split, sameDone, sameRest⟩ := told
  obtain ⟨stage, leftStages, rfl, rfl, _⟩ := List.map_eq_cons_iff.mp sameRest
  subst sameDone
  have stops := stagesRefused doneStages stage leftStages (opening linter paths record start)
    accepted refused
  refine ⟨⟨error, stage.prepare (handOver
    (doneStages.foldl Stage.keep (opening linter paths record start)) last)⟩, ?_, rfl, ?_, ?_⟩
  · rw [runIsStages, split, stops]
    rfl
  · exact prepareObserver _ _
  · rw [prepareRecord, handOver, keptRecord, List.filterMap_append, List.append_assoc]
    cases found : stage.event.violation? <;> simp [found, opening]

def recordOf : Except (Stopped σ ε) (Progress σ) → Record
  | .ok progress => progress.record
  | .error stopped => stopped.progress.record

theorem observerSplits (observe : Observer σ ε) (events : List Event) (start : σ) :
    (∃ last, events.foldlM observe start = .ok last) ∨
      ∃ done event left last error, events = done ++ event :: left ∧
        done.foldlM observe start = .ok last ∧ observe last event = .error error := by
  induction events generalizing start with
  | nil => exact Or.inl ⟨start, rfl⟩
  | cons event rest ih =>
    cases first : observe start event with
    | error error => exact Or.inr ⟨[], event, rest, start, error, rfl, rfl, first⟩
    | ok next =>
      have onwards (events : List Event) :
          (event :: events).foldlM observe start = events.foldlM observe next := by
        rw [List.foldlM_cons, first]
        rfl
      rcases ih next with ⟨last, accepted⟩ | ⟨done, refused, left, last, error, rfl, accepted, stops⟩
      · exact Or.inl ⟨last, (onwards rest).trans accepted⟩
      · exact Or.inr ⟨event :: done, refused, left, last, error, rfl, (onwards done).trans accepted,
          stops⟩

theorem runRecords (linter : Linter) (source : Source) (observe : Observer σ ε) (paths : List String)
    (record : Record) (start : σ) :
    ∃ seen left, events linter source paths = seen ++ left ∧
      (recordOf (linter.run source observe paths record start)).toList =
        record.toList ++ seen.filterMap Event.violation? := by
  rcases observerSplits observe (events linter source paths) start with
    ⟨last, accepted⟩ | ⟨done, event, left, last, error, told, accepted, refused⟩
  · refine ⟨events linter source paths, [], by simp, ?_⟩
    rw [runAccepted record accepted]
    exact completedRecord linter source paths record last
  · obtain ⟨stopped, stops, _, _, recorded⟩ := runRefused record told accepted refused
    refine ⟨done ++ [event], left, by simp [told], ?_⟩
    rw [stops]
    exact recorded

theorem stopsInside {linter : Linter} {source : Source} {paths : List String} {observe : Observer σ ε}
    {accept : σ → Event → σ} {error : ε} {number : Nat} {start : σ} (record : Record)
    (fails : FailsAt observe accept error number start (events linter source paths))
    (inside : number < (events linter source paths).length) :
    ∃ stopped, linter.run source observe paths record start = .error stopped ∧
      stopped.error = error ∧
      stopped.progress.observer = ((events linter source paths).take number).foldl accept start ∧
      stopped.progress.record.toList = record.toList ++
        ((events linter source paths).take (number + 1)).filterMap Event.violation? := by
  obtain ⟨event, left, split, here⟩ := splitAtNumber inside
  have accepted := acceptsBefore fails number (Nat.le_refl _)
  have oneMore : (events linter source paths).take (number + 1) =
      (events linter source paths).take number ++ [event] := by
    rw [List.take_add_one, here]
    rfl
  rw [oneMore]
  exact runRefused record split accepted (fails.refuses event here)

theorem finishesBeyond {linter : Linter} {source : Source} {paths : List String}
    {observe : Observer σ ε} {accept : σ → Event → σ} {error : ε} {number : Nat} {start : σ}
    (record : Record) (fails : FailsAt observe accept error number start (events linter source paths))
    (beyond : (events linter source paths).length ≤ number) :
    linter.run source observe paths record start =
      .ok (completed linter source paths record ((events linter source paths).foldl accept start)) := by
  have accepted := acceptsBefore fails _ beyond
  rw [List.take_length] at accepted
  exact runAccepted record accepted

theorem runStopsAtEvent (linter : Linter) (source : Source) (paths : List String) (record : Record)
    (observe : Observer σ ε) (accept : σ → Event → σ) (error : ε) (number : Nat) (start : σ)
    (fails : FailsAt observe accept error number start (events linter source paths)) :
    let told := events linter source paths
    (linter.run source recorder paths record []).map Progress.observer = .ok told ∧
    (number < told.length →
      ∃ stopped, linter.run source observe paths record start = .error stopped ∧
        stopped.error = error ∧
        stopped.progress.observer = (told.take number).foldl accept start ∧
        stopped.progress.record.toList =
          record.toList ++ (told.take (number + 1)).filterMap Event.violation?) ∧
    (told.length ≤ number →
      linter.run source observe paths record start =
        linter.run source (steadily accept) paths record start) ∧
    record.toList <+: (recordOf (linter.run source observe paths record start)).toList ∧
    ∃ progress, linter.run source (steadily accept : Observer σ ε) paths record start =
      .ok progress := by
  intro told
  have steady : linter.run source (steadily accept : Observer σ ε) paths record start =
      .ok (completed linter source paths record (told.foldl accept start)) :=
    runAccepted record (steadilyAccepts accept told start)
  refine ⟨runRecorded linter source paths record, stopsInside record fails, ?_, ?_, _, steady⟩
  · intro beyond
    rw [finishesBeyond record fails beyond, steady]
  · rcases Nat.lt_or_ge number told.length with inside | beyond
    · obtain ⟨stopped, stops, _, _, recorded⟩ := stopsInside record fails inside
      rw [stops]
      exact ⟨_, recorded.symm⟩
    · rw [finishesBeyond record fails beyond]
      exact ⟨_, (completedRecord linter source paths record _).symm⟩

/- An observer with a count of its own can fail on any event, whatever it does with the others. -/
def countingTo (number : Nat) (error : ε) (accept : σ → Event → σ) : Observer (Nat × σ) ε :=
  fun state event =>
    if state.1 = number then .error error else .ok (state.1 + 1, accept state.2 event)

def countOn (accept : σ → Event → σ) (state : Nat × σ) (event : Event) : Nat × σ :=
  (state.1 + 1, accept state.2 event)

theorem countedEvents (accept : σ → Event → σ) (events : List Event) (count : Nat) (start : σ) :
    (events.foldl (countOn accept) (count, start)).1 = count + events.length := by
  induction events generalizing count start with
  | nil => rfl
  | cons event rest ih =>
    rw [List.foldl_cons, List.length_cons, countOn, ih]
    omega

theorem countingFails (number : Nat) (error : ε) (accept : σ → Event → σ) (start : σ)
    (events : List Event) :
    FailsAt (countingTo number error accept) (countOn accept) error number (0, start) events where
  before index event early here := by
    have short : index < events.length := (List.getElem?_eq_some_iff.mp here).1
    have counted := countedEvents accept (events.take index) 0 start
    rw [List.length_take, Nat.min_eq_left (Nat.le_of_lt short), Nat.zero_add] at counted
    exact if_neg (by omega)
  refuses event here := by
    have short : number < events.length := (List.getElem?_eq_some_iff.mp here).1
    have counted := countedEvents accept (events.take number) 0 start
    rw [List.length_take, Nat.min_eq_left (Nat.le_of_lt short), Nat.zero_add] at counted
    exact if_pos counted

theorem runStopsAtEventSample :
    let bare : Source := fun path => if path = "gone.h" then .error (.notFound path) else .ok ⟨"int x;", false⟩
    let linter : Linter := ⟨{}, [Layout.headerGuard.check]⟩
    let paths := ["gone.h", "a.h", "b.h"]
    let observe := countingTo 2 "full" fun (seen : List Event) event => seen ++ [event]
    let old : Violation := ⟨"class-names", "b.h", "old", .error⟩
    let guard : Violation :=
      ⟨"header-guard", "a.h", "header files must use #ifndef include guards", .error⟩
    FailsAt observe (countOn fun seen event => seen ++ [event]) "full" 2 (0, [])
      (events linter bare paths) ∧
    2 < (events linter bare paths).length ∧
    ∃ stopped, linter.run bare observe paths ⟨#[old]⟩ (0, []) = .error stopped ∧
      stopped.error = "full" ∧
      stopped.progress.observer = (2, [.skipped (.notFound "gone.h"), .started "a.h"]) ∧
      stopped.progress.record.toList = [old, guard] := by
  intro bare linter paths observe old guard
  have fails : FailsAt observe (countOn fun seen event => seen ++ [event]) "full" 2 (0, [])
      (events linter bare paths) := countingFails 2 "full" _ [] _
  have inside : 2 < (events linter bare paths).length := by decide +kernel
  obtain ⟨stopped, stops, said, reached, recorded⟩ :=
    (runStopsAtEvent linter bare paths ⟨#[old]⟩ observe _ "full" 2 (0, []) fails).2.1 inside
  exact ⟨fails, inside, stopped, stops, said, reached.trans (by decide +kernel),
    recorded.trans (by decide +kernel)⟩

end HouseStyle.Run
