import HouseStyle.Proofs.Numerals
import HouseStyle.Proofs.Spellings
import HouseStyle.Toml.Document

/-! Documents written line by line: pairs of keys and values, then perhaps a header and the pairs of its
table. Each line is read as the statement it was written for, and the statements build up the table
that holds the pairs in the order of their lines. -/
namespace HouseStyle.Toml
open Text (All Past)

abbrev BareKey (key : String) : Prop := Text.Named isBare isBare key

theorem bareStart {c : Char} (bare : isBare c = true) :
    isSpace c = false ∧ c ≠ '"' ∧ c ≠ '\'' ∧ c ≠ '[' ∧ c ≠ '#' ∧ c ≠ '\n' ∧ c ≠ '\r' ∧ c ≠ '\ufeff' := by
  have apart {d : Char} (other : isBare d = false) : c ≠ d := by
    rintro rfl
    rw [bare] at other
    contradiction
  refine ⟨?_, apart rfl, apart rfl, apart rfl, apart rfl, apart rfl, apart rfl, apart rfl⟩
  simp only [isSpace, Bool.or_eq_false_iff, beq_eq_false_iff_ne]
  exact ⟨apart rfl, apart rfl⟩

theorem spacesPast {c : Char} (other : isSpace c = false) (text : List Char) :
    spaces (c :: text) = c :: text := List.dropWhile_cons_of_neg (by simp [other])

theorem keyRead {key : String} (bare : BareKey key) {after : List Char} (past : Past isBare after)
    (undotted : (spaces after).head? ≠ some '.') :
    keyPath (key.toList ++ after) = .ok (⟨[], key⟩, spaces after) := by
  obtain ⟨c, rest, spelled, starts, all⟩ := bare.shape
  obtain ⟨noSpace, noQuote, noMark, _⟩ := bareStart starts
  have simple : simpleKey (c :: (rest ++ after)) = .ok (key, after) := by
    have plain : ¬ (c == '"' || c == '\'') = true := by simp [noQuote, noMark]
    rw [simpleKey, if_neg plain, if_pos starts, Text.takeWhileRun all past, Text.dropWhileRun all past,
      ← spelled, String.ofList_toList]
  rw [spelled, List.cons_append]
  change keyPathFrom (78 + 1) [] (c :: (rest ++ after)) = _
  rw [keyPathFrom, spacesPast noSpace, simple]
  simp only [bind, Except.bind]
  split
  · rename_i dotted
    rw [dotted] at undotted
    exact absurd rfl undotted
  · rfl

def line (key : String) (value : List Char) : List Char := key.toList ++ ' ' :: '=' :: ' ' :: value

def header (key : String) : List Char := '[' :: (key.toList ++ [']'])

structure Denotes (text : List Char) (meant : Value) : Prop where
  starts : ∃ c more, text = c :: more ∧ isSpace c = false
  read : ∀ rest, LineOver rest → value (depthLimit - 1) (text ++ rest) = .ok (meant, rest)

theorem decimalStarts (n : Int) : ∃ c more, decimal n = c :: more ∧ isSpace c = false := by
  cases n with
  | negSucc n => exact ⟨'-', _, rfl, rfl⟩
  | ofNat n =>
    obtain ⟨first, more, split, _⟩ := leadingDigit n
    have digit : first.isDigit = true := writtenDigits n first (by rw [split]; exact List.mem_cons_self)
    exact ⟨first, more, split, everyDigit (p := fun c => isSpace c = false)
      ⟨rfl, rfl, rfl, rfl, rfl, rfl, rfl, rfl, rfl, rfl⟩ digit⟩

abbrev Held (n : Int) : Prop := -0x8000000000000000 ≤ n ∧ n ≤ 0x7FFFFFFFFFFFFFFF

theorem integerDenotes {n : Int} (held : Held n) :
    Denotes (decimal n) (.integer n) where
  starts := decimalStarts n
  read rest ended := by
    have read := decimalRead (value 78) n ended
    rw [integerInRange, if_pos held] at read
    exact read

theorem integerRefused {n : Int} (beyond : ¬ Held n) {rest : List Char}
    (ended : LineOver rest) :
    value (depthLimit - 1) (decimal n ++ rest) = .error (.outOfRange "integer") := by
  have read := decimalRead (value 78) n ended
  rw [integerInRange, if_neg beyond] at read
  exact read

def Begins (text : List Char) : Prop :=
  ∃ c more, text = c :: more ∧ isSpace c = false ∧ c ≠ '#' ∧ c ≠ '\n' ∧ c ≠ '\r' ∧ c ≠ '\ufeff'

structure States (text : List Char) (said : Statement) : Prop where
  starts : Begins text
  read : ∀ rest, LineOver rest → statement (text ++ rest) = .ok (said, rest)

structure Refuses (text : List Char) (fault : Fault) : Prop where
  starts : Begins text
  read : ∀ rest, LineOver rest → statement (text ++ rest) = .error fault

theorem statementLine {key : String} (bare : BareKey key) {text : List Char}
    (starts : ∃ c more, text = c :: more ∧ isSpace c = false) (behind : List Char) :
    statement (line key text ++ behind) =
      (value (depthLimit - 1) (text ++ behind)).map fun found => (.pair ⟨[], key⟩ found.1, found.2) := by
  obtain ⟨c, rest, spelled, named, _⟩ := bare.shape
  have noBracket := (bareStart named).2.2.2.1
  have keyed : keyPath (key.toList ++ ' ' :: '=' :: ' ' :: (text ++ behind)) =
      .ok (⟨[], key⟩, '=' :: ' ' :: (text ++ behind)) :=
    keyRead bare (Text.pastCons _ rfl) fun dot => absurd (Option.some.inj dot) (by decide)
  have signed : equals ('=' :: ' ' :: (text ++ behind)) = .ok (text ++ behind) := by
    obtain ⟨d, more, rfl, visible⟩ := starts
    exact congrArg Except.ok (spacesPast visible (more ++ behind))
  have whole : line key text ++ behind = key.toList ++ ' ' :: '=' :: ' ' :: (text ++ behind) := by
    simp [line]
  have opened : ∀ below, line key text ++ behind ≠ '[' :: below := by
    intro below same
    rw [line, spelled] at same
    exact noBracket (List.cons.inj same).1
  unfold statement
  split
  · exact absurd ‹_› (opened _)
  · exact absurd ‹_› (opened _)
  · rw [whole, keyed]
    simp only [bind, Except.bind, signed]
    cases value (depthLimit - 1) (text ++ behind) <;> rfl

theorem lineStarts {key : String} (bare : BareKey key) (text : List Char) : Begins (line key text) := by
  obtain ⟨c, rest, spelled, named, _⟩ := bare.shape
  obtain ⟨noSpace, _, _, _, others⟩ := bareStart named
  exact ⟨c, _, by rw [line, spelled]; rfl, noSpace, others⟩

theorem lineStates {key : String} (bare : BareKey key) {text : List Char} {meant : Value}
    (denotes : Denotes text meant) : States (line key text) (.pair ⟨[], key⟩ meant) where
  starts := lineStarts bare text
  read behind ended := by
    rw [statementLine bare denotes.starts, denotes.read behind ended]
    rfl

theorem lineRefuses {key : String} (bare : BareKey key) {text : List Char} {fault : Fault}
    (starts : ∃ c more, text = c :: more ∧ isSpace c = false)
    (refused : ∀ rest, LineOver rest → value (depthLimit - 1) (text ++ rest) = .error fault) :
    Refuses (line key text) fault where
  starts := lineStarts bare text
  read behind ended := by
    rw [statementLine bare starts, refused behind ended]
    rfl

theorem headerStates {key : String} (bare : BareKey key) :
    States (header key) (.table ⟨[], key⟩) := by
  obtain ⟨c, rest, spelled, starts, _⟩ := bare.shape
  obtain ⟨_, _, _, noBracket, _⟩ := bareStart starts
  refine ⟨⟨'[', _, rfl, rfl, by decide, by decide, by decide, by decide⟩, ?_⟩
  intro behind _
  have keyed : keyPath (key.toList ++ ']' :: behind) = .ok (⟨[], key⟩, ']' :: behind) :=
    keyRead bare (Text.pastCons _ rfl) fun dot => absurd (Option.some.inj dot) (by decide)
  have whole : header key ++ behind = '[' :: (key.toList ++ ']' :: behind) := by simp [header]
  rw [whole]
  unfold statement
  split
  · rename_i same
    rw [spelled] at same
    exact absurd (List.cons.inj (List.cons.inj same).2).1 noBracket
  · rename_i same
    rw [← (List.cons.inj same).2, keyed]
    rfl
  · rename_i opened
    exact absurd rfl (opened _)

def joinLines (endsLast : Bool) : List (List Char) → List Char
  | [] => []
  | line :: rest =>
    line ++ if rest.isEmpty && !endsLast then [] else '\n' :: joinLines endsLast rest

theorem saysSomething {c : Char} (noSpace : isSpace c = false) (noComment : c ≠ '#') (noFeed : c ≠ '\n')
    (noReturn : c ≠ '\r') (rest : List Char) : lineEnd? (c :: rest) = none := by
  rw [lineEnd?, spacesPast noSpace, comment, if_neg noComment]
  simp only [newline?, if_neg noFeed, if_neg noReturn]

theorem nothingLeft (bound : Nat) : statementsFrom bound [] = .ok [] := by
  cases bound <;> rfl

theorem lineBegun {text : List Char} (begins : Begins text) (behind : List Char) :
    lineEnd? (text ++ behind) = none ∧ spaces (text ++ behind) = text ++ behind := by
  obtain ⟨c, more, rfl, noSpace, noComment, noFeed, noReturn, _⟩ := begins
  exact ⟨saysSomething noSpace noComment noFeed noReturn _, spacesPast noSpace _⟩

theorem lineStep {text : List Char} {said : Statement} (states : States text said)
    {tail below : List Char} (ended : LineOver tail) (ends : lineEnd? tail = some below) (bound : Nat) :
    statementsFrom (bound + 1) (text ++ tail) = (statementsFrom bound below).map (said :: ·) := by
  obtain ⟨some, visible⟩ := lineBegun states.starts tail
  rw [statementsFrom, some, visible]
  simp only [states.read tail ended, bind, Except.bind, ends]
  cases statementsFrom bound below <;> rfl

theorem lineStops {text : List Char} {fault : Fault} (refuses : Refuses text fault)
    {tail : List Char} (ended : LineOver tail) (bound : Nat) :
    statementsFrom (bound + 1) (text ++ tail) = .error fault := by
  obtain ⟨some, visible⟩ := lineBegun refuses.starts tail
  rw [statementsFrom, some, visible]
  simp only [refuses.read tail ended, bind, Except.bind]

theorem linesRead (endsLast : Bool) (written : List (List Char × Statement))
    (each : ∀ entry ∈ written, States entry.1 entry.2) (bound : Nat)
    (enough : (joinLines endsLast (written.map (·.1))).length ≤ bound) :
    statementsFrom bound (joinLines endsLast (written.map (·.1))) = .ok (written.map (·.2)) := by
  induction written generalizing bound with
  | nil => exact nothingLeft bound
  | cons entry written ih =>
    have states := each entry List.mem_cons_self
    have later := ih fun other member => each other (List.mem_cons_of_mem _ member)
    obtain ⟨c, more, starts, _⟩ := states.starts
    simp only [List.map_cons, joinLines] at enough ⊢
    cases bound with
    | zero => simp [starts] at enough
    | succ bound =>
      split
      · rename_i last
        have none : written = [] := by simpa using (Bool.and_eq_true_iff.mp last).1
        rw [lineStep states (Or.inl rfl) rfl, nothingLeft, none]
        rfl
      · rename_i goesOn
        rw [if_neg goesOn, starts] at enough
        simp only [List.length_append, List.length_cons] at enough
        rw [lineStep states (Or.inr ⟨_, rfl⟩) rfl, later bound (by omega)]
        rfl

theorem linesRefused (endsLast : Bool) (written : List (List Char × Statement))
    (each : ∀ entry ∈ written, States entry.1 entry.2) {text : List Char} {fault : Fault}
    (refuses : Refuses text fault) (bound : Nat)
    (enough : (joinLines endsLast (written.map (·.1) ++ [text])).length ≤ bound) :
    statementsFrom bound (joinLines endsLast (written.map (·.1) ++ [text])) = .error fault := by
  induction written generalizing bound with
  | nil =>
    obtain ⟨c, more, starts, _⟩ := refuses.starts
    simp only [List.map_nil, List.nil_append, joinLines, starts] at enough
    cases bound with
    | zero => simp at enough
    | succ bound =>
      refine lineStops refuses ?_ bound
      cases endsLast
      · exact Or.inl rfl
      · exact Or.inr ⟨_, rfl⟩
  | cons entry written ih =>
    have states := each entry List.mem_cons_self
    have later := ih fun other member => each other (List.mem_cons_of_mem _ member)
    have others : (written.map (·.1) ++ [text]).isEmpty = false := by simp
    obtain ⟨c, more, starts, _⟩ := states.starts
    simp only [List.map_cons, List.cons_append, joinLines, others, Bool.false_and, Bool.false_eq_true,
      if_false] at enough ⊢
    cases bound with
    | zero => simp [starts] at enough
    | succ bound =>
      simp only [List.length_append, List.length_cons] at enough
      rw [lineStep states (Or.inr ⟨_, rfl⟩) rfl, later bound (by omega)]
      rfl

theorem unmarked {text : List Char} (begins : Begins text) (endsLast : Bool) (rest : List (List Char)) :
    statements (joinLines endsLast (text :: rest)) =
      statementsFrom (joinLines endsLast (text :: rest)).length (joinLines endsLast (text :: rest)) := by
  obtain ⟨c, more, starts, _, _, _, _, noMark⟩ := begins
  unfold statements
  split
  · rename_i same
    rw [joinLines, starts] at same
    exact absurd (List.cons.inj same).1 noMark
  · rfl

theorem statementsRead (endsLast : Bool) (written : List (List Char × Statement))
    (each : ∀ entry ∈ written, States entry.1 entry.2) :
    statements (joinLines endsLast (written.map (·.1))) = .ok (written.map (·.2)) := by
  have lines := linesRead endsLast written each _ (Nat.le_refl _)
  cases written with
  | nil => exact lines
  | cons entry written =>
    rw [List.map_cons, unmarked (each entry List.mem_cons_self).starts]
    exact lines

theorem documentRefused (endsLast : Bool) (written : List (List Char × Statement))
    (each : ∀ entry ∈ written, States entry.1 entry.2) {text : List Char} {fault : Fault}
    (refuses : Refuses text fault) :
    parse (String.ofList (joinLines endsLast (written.map (·.1) ++ [text]))) = .error fault := by
  have lines := linesRefused endsLast written each refuses _ (Nat.le_refl _)
  have refused : statements (joinLines endsLast (written.map (·.1) ++ [text])) = .error fault := by
    cases written with
    | nil =>
      rw [List.map_nil, List.nil_append, unmarked refuses.starts]
      exact lines
    | cons entry written =>
      rw [List.map_cons, List.cons_append, unmarked (each entry List.mem_cons_self).starts]
      exact lines
  rw [parse, String.toList_ofList, refused]
  rfl

theorem setFresh {key : String} {entries : List (String × Value)} (fresh : key ∉ entries.map (·.1))
    (meant : Value) : setEntry key meant entries = entries ++ [(key, meant)] := by
  induction entries with
  | nil => rfl
  | cons entry entries ih =>
    obtain ⟨name, old⟩ := entry
    simp only [List.map_cons, List.mem_cons, not_or] at fresh
    rw [setEntry, if_neg (Ne.symm fresh.1), ih fresh.2, List.cons_append]

theorem lookupFresh {key : String} {entries : List (String × Value)} (fresh : key ∉ entries.map (·.1)) :
    entries.lookup key = none := by
  rw [List.lookup_eq_none_iff]
  intro entry member
  exact bne_iff_ne.mpr fun same => fresh (List.mem_map.mpr ⟨entry, member, same.symm⟩)

theorem addFresh {key : String} {entries : List (String × Value)} (fresh : key ∉ entries.map (·.1))
    (meant : Value) :
    addPair ⟨[], key⟩ meant ⟨.header, entries⟩ = .ok ⟨.header, entries ++ [(key, meant)]⟩ := by
  simp only [addPair, change, lookupFresh fresh, Table.set, setFresh fresh]
  exact if_neg (by decide)

theorem lookupLast {key : String} {entries : List (String × Value)} (fresh : key ∉ entries.map (·.1))
    (meant : Value) : (entries ++ [(key, meant)]).lookup key = some meant := by
  rw [List.lookup_append, lookupFresh fresh, List.lookup_cons_self, Option.none_or]

theorem setLast {key : String} {entries : List (String × Value)} (fresh : key ∉ entries.map (·.1))
    (old new : Value) : setEntry key new (entries ++ [(key, old)]) = entries ++ [(key, new)] := by
  induction entries with
  | nil => exact if_pos rfl
  | cons entry entries ih =>
    obtain ⟨name, first⟩ := entry
    simp only [List.map_cons, List.mem_cons, not_or] at fresh
    rw [List.cons_append, setEntry, if_neg (Ne.symm fresh.1), ih fresh.2, List.cons_append]

theorem openFresh {key : String} {entries : List (String × Value)} (fresh : key ∉ entries.map (·.1)) :
    openTable ⟨[], key⟩ ⟨.header, entries⟩ =
      .ok ⟨.header, entries ++ [(key, .table .header [])]⟩ := by
  simp only [openTable, change, lookupFresh fresh, Table.set, setFresh fresh]

theorem addBelow {name : String} {top : List (String × Value)} (apart : name ∉ top.map (·.1))
    {key : String} {entries : List (String × Value)} (fresh : key ∉ entries.map (·.1)) (meant : Value) :
    change .implied (addPair ⟨[], key⟩ meant) [name]
        ⟨.header, top ++ [(name, .table .header entries)]⟩ =
      .ok ⟨.header, top ++ [(name, .table .header (entries ++ [(key, meant)]))]⟩ := by
  rw [change, lookupLast apart]
  simp only [reduceCtorEq, false_and, or_self, if_false, change, addFresh fresh, bind, Except.bind]
  rw [Table.set, setLast apart]
  rfl

def pairs (entries : List (String × Value)) : List Statement :=
  entries.map fun (key, meant) => .pair ⟨[], key⟩ meant

/- Pairs with new keys come one after the other to the end of the table that is being written. The
document around that table is `frame`. -/
theorem pairsBuilt {here : List String} (frame : List (String × Value) → Table)
    (adds : ∀ {key entries}, key ∉ entries.map (·.1) → ∀ meant,
      change .implied (addPair ⟨[], key⟩ meant) here (frame entries) =
        .ok (frame (entries ++ [(key, meant)])))
    (old new : List (String × Value)) (distinct : ((old ++ new).map (·.1)).Nodup) :
    (pairs new).foldlM Building.step ⟨frame old, here⟩ = .ok ⟨frame (old ++ new), here⟩ := by
  induction new generalizing old with
  | nil => rw [List.append_nil]; rfl
  | cons entry new ih =>
    obtain ⟨key, meant⟩ := entry
    have fresh : key ∉ old.map (·.1) := by
      rw [List.map_append, List.map_cons, List.nodup_append] at distinct
      exact fun member => distinct.2.2 key member key List.mem_cons_self rfl
    have step : Building.step ⟨frame old, here⟩ (.pair ⟨[], key⟩ meant) =
        .ok ⟨frame (old ++ [(key, meant)]), here⟩ := by
      simp only [Building.step, adds fresh, bind, Except.bind]
    have rest := ih (old ++ [(key, meant)]) (by rwa [List.append_assoc])
    rw [List.append_assoc] at rest
    change (Building.step _ (.pair ⟨[], key⟩ meant) >>= fun building => _) = _
    rw [step]
    exact rest

structure Entry where
  key : String
  text : List Char
  meant : Value
  bare : BareKey key
  denotes : Denotes text meant

namespace Entry

def line (entry : Entry) : List Char := Toml.line entry.key entry.text

def pair (entry : Entry) : String × Value := (entry.key, entry.meant)

def statement (entry : Entry) : Statement := .pair ⟨[], entry.key⟩ entry.meant

def keys (entries : List Entry) : List String := entries.map key

end Entry

def writtenLines (top : List Entry) (name : String) (inner : List Entry) :
    List (List Char × Statement) :=
  top.map (fun entry => (entry.line, entry.statement)) ++
    if inner.isEmpty then []
    else (header name, .table ⟨[], name⟩) :: inner.map fun entry => (entry.line, entry.statement)

theorem writtenStates (top : List Entry) {name : String} (bare : BareKey name) (inner : List Entry) :
    ∀ entry ∈ writtenLines top name inner, States entry.1 entry.2 := by
  have each (entries : List Entry) :
      ∀ entry ∈ entries.map (fun entry => (entry.line, entry.statement)), States entry.1 entry.2 :=
    List.forall_mem_map.mpr fun entry _ => lineStates entry.bare entry.denotes
  intro entry member
  rcases List.mem_append.mp member with inTop | below
  · exact each top entry inTop
  · split at below
    · contradiction
    · rcases List.mem_cons.mp below with rfl | inside
      · exact headerStates bare
      · exact each inner entry inside

theorem writtenBuilt (top : List Entry) (name : String) (inner : List Entry)
    (distinct : (Entry.keys top).Nodup) (apart : name ∉ Entry.keys top)
    (distinctInner : (Entry.keys inner).Nodup) :
    ((writtenLines top name inner).map (·.2)).foldlM Building.step {} =
      .ok ⟨⟨.header, top.map Entry.pair ++
        if inner.isEmpty then [] else [(name, .table .header (inner.map Entry.pair))]⟩,
        if inner.isEmpty then [] else [name]⟩ := by
  have said (entries : List Entry) :
      (entries.map (fun entry => (entry.line, entry.statement))).map (·.2) = pairs (entries.map Entry.pair) := by
    rw [List.map_map, pairs, List.map_map]
    rfl
  have keyed (entries : List Entry) : (entries.map Entry.pair).map (·.1) = Entry.keys entries := by
    rw [List.map_map]
    rfl
  have above : (pairs (top.map Entry.pair)).foldlM Building.step {} =
      .ok ⟨⟨.header, top.map Entry.pair⟩, []⟩ :=
    pairsBuilt (fun entries => ⟨.header, entries⟩) addFresh [] _ (by rwa [List.nil_append, keyed])
  rw [writtenLines, List.map_append, List.foldlM_append, said, above]
  cases inner with
  | nil =>
    simp only [List.isEmpty_nil, if_true, List.append_nil]
    rfl
  | cons entry inner =>
    have opened : Building.step ⟨⟨.header, top.map Entry.pair⟩, []⟩ (.table ⟨[], name⟩) =
        .ok ⟨⟨.header, top.map Entry.pair ++ [(name, .table .header [])]⟩, [name]⟩ := by
      simp only [Building.step, openFresh (keyed top ▸ apart), bind, Except.bind]
      rfl
    have below := pairsBuilt
      (fun entries => ⟨.header, top.map Entry.pair ++ [(name, .table .header entries)]⟩)
      (addBelow (keyed top ▸ apart)) [] ((entry :: inner).map Entry.pair)
      (by rwa [List.nil_append, keyed])
    rw [List.isEmpty_cons, if_neg Bool.false_ne_true, if_neg Bool.false_ne_true,
      if_neg Bool.false_ne_true, List.map_cons, said]
    change (Building.step _ (.table ⟨[], name⟩) >>= fun building => _) = _
    rw [opened]
    exact below

theorem documentRead (endsLast : Bool) (top : List Entry) {name : String} (bare : BareKey name)
    (inner : List Entry) (distinct : (Entry.keys top).Nodup) (apart : name ∉ Entry.keys top)
    (distinctInner : (Entry.keys inner).Nodup) :
    parse (String.ofList (joinLines endsLast ((writtenLines top name inner).map (·.1)))) =
      .ok (top.map Entry.pair ++
        if inner.isEmpty then [] else [(name, .table .header (inner.map Entry.pair))]) := by
  have said := statementsRead endsLast _ (writtenStates top bare inner)
  have built := writtenBuilt top name inner distinct apart distinctInner
  rw [parse, String.toList_ofList, said]
  simp only [bind, Except.bind, built]

end HouseStyle.Toml
