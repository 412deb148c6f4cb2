import HouseStyle.Naming
import HouseStyle.Proofs.Declarators
import HouseStyle.Proofs.Search

/-! What the shapes of declarations read: names made of the characters that names are made of, from at
least one character of the text, the first of which is no line feed. -/
namespace HouseStyle.Declaration
open Text

theorem leftOf {text word rest : List Char} (split : text = word ++ rest) (some : word ≠ []) :
    Left rest text := ⟨word, some, split⟩

theorem leftFront {front text rest : List Char} (left : Left rest text) : Left rest (front ++ text) := by
  obtain ⟨word, some, rfl⟩ := left
  exact ⟨front ++ word, by simp [some], by simp⟩

theorem leftTrans {rest middle text : List Char} (later : Left rest middle) (first : Left middle text) :
    Left rest text := by
  obtain ⟨word, _, rfl⟩ := first
  exact leftFront later

theorem leftBlanks {text rest : List Char} (left : Left rest (blanks text)) : Left rest text := by
  obtain ⟨gap, split, _⟩ := blanksSplit text
  rw [split]
  exact leftFront left

theorem singleLeft {p : Char → Bool} {text rest : List Char} (read : single p text = some rest) :
    Left rest text := by
  obtain ⟨c, rfl, _⟩ := (singleIff _ _ _).mp read
  exact ⟨[c], by simp, rfl⟩

theorem typeLeft {types : List (List Char)} {text rest : List Char}
    (read : typeThenBlanks types text = some rest) : Left rest text := by
  simp only [typeThenBlanks, bind, Option.bind_eq_some_iff] at read
  obtain ⟨middle, found, read⟩ := read
  obtain ⟨kind, _, begins⟩ := List.exists_of_findSome?_eq_some found
  obtain ⟨gap, rfl, gapped, _⟩ := (someBlanksIff _ _).mp read
  rw [(literalIff _ _ _).mp begins]
  exact leftFront (leftOf rfl gapped)

theorem runLeft {first more : Char → Bool} {text rest : List Char} {name : String}
    (read : run first more text = some (name, rest)) : Named first more name ∧ Left rest text := by
  obtain ⟨rfl, named, _⟩ := (runIff _ _ _ _ _).mp read
  obtain ⟨c, tail, spelled, _⟩ := named.shape
  exact ⟨named, leftOf rfl (by simp [spelled])⟩

theorem openingLeft {text rest : List Char} (read : opening text = some rest) : Left rest text :=
  leftBlanks (singleLeft read)

theorem parametersLeft {text rest : List Char} (read : parameters text = some rest) :
    Left rest text := by
  have left := singleLeft read
  rw [← List.takeWhile_append_dropWhile (p := (· != ')')) (l := text)]
  exact leftFront left

theorem bodyLeft {text rest : List Char} (read : bodyOrEnd text = some rest) : Left rest text := by
  refine leftBlanks ?_
  have left := leftBlanks (singleLeft read)
  cases word : literal ['c', 'o', 'n', 's', 't'] (blanks text) with
  | none => rwa [word] at left
  | some middle =>
    rw [word] at left
    rw [(literalIff _ _ _).mp word]
    exact leftFront left

structure Reads {α : Type} (shape : Shape α) (valid : α → Prop) : Prop where
  read : ∀ {before text : List Char} {value : α} {rest : List Char},
    shape before text = some (value, rest) → valid value ∧ Left rest text
  feed : ∀ before text : List Char, shape before ('\n' :: text) = none

theorem readsOn {α : Type} {shape : Shape α} {valid : α → Prop} (reads : Reads shape valid) :
    ReadsOn shape := fun read => (reads.read read).2

theorem functionReads {α : Type} {head : Shape α} {valid : α → Prop} (reads : Reads head valid) :
    Reads (function head) valid where
  read {before text value rest} found := by
    simp only [function, bind, Option.bind_eq_some_iff] at found
    obtain ⟨⟨first, behindHead⟩, opened, behindList, closed, behindBody, ended, same⟩ := found
    cases Option.some.inj same
    obtain ⟨fits, left⟩ := reads.read opened
    exact ⟨fits, leftTrans (leftTrans (bodyLeft ended) (parametersLeft closed)) left⟩
  feed before text := by
    simp only [function, reads.feed before text]
    rfl

theorem shapedIff (first more : Char → Bool) (name : String) :
    Naming.shaped first more name.toList = true ↔ Named first more name := by
  constructor
  · intro fits
    cases spelled : name.toList with
    | nil =>
      rw [spelled] at fits
      contradiction
    | cons c rest =>
      rw [spelled, Naming.shaped, Bool.and_eq_true, List.all_eq_true] at fits
      exact ⟨c, rest, spelled, fits.1, fits.2⟩
  · rintro ⟨c, rest, spelled, starts, all⟩
    rw [spelled, Naming.shaped, Bool.and_eq_true, List.all_eq_true]
    exact ⟨starts, all⟩

instance (first more : Char → Bool) (name : String) : Decidable (Named first more name) :=
  decidable_of_iff _ (shapedIff first more name)

abbrev Owner (name : String) : Prop := Named Char.isUpper Char.isAlphanum name

def ValidMember (member : Member) : Prop := Owner member.owner ∧ Identifier member.name

theorem constructorReads : Reads constructorHead ValidMember where
  read {before text value rest} found := by
    rw [constructorHead, guardIf] at found
    simp only [bind, Option.bind_eq_some_iff] at found
    obtain ⟨_, _, ⟨owner, behindOwner⟩, owned, behindColons, joined, ⟨name, behindName⟩, named,
      behindOpening, opened, same⟩ := found
    cases Option.some.inj same
    obtain ⟨validOwner, first⟩ := runLeft owned
    obtain ⟨validName, third⟩ := runLeft named
    have second : Left behindColons behindOwner := leftOf ((literalIff _ _ _).mp joined) (by decide)
    exact ⟨⟨validOwner, validName⟩,
      leftTrans (openingLeft opened) (leftTrans third (leftTrans second first))⟩
  feed before text := by
    rw [constructorHead, guardIf]
    cases atLineStart before <;> rfl

theorem memberReads : Reads memberHead ValidMember where
  read {before text value rest} found := by
    rw [memberHead, guardIf] at found
    simp only [bind, Option.bind_eq_some_iff] at found
    obtain ⟨behindType, typed, _, _, ⟨owner, behindOwner⟩, owned, behindColons, joined,
      ⟨name, behindName⟩, named, behindOpening, opened, same⟩ := found
    cases Option.some.inj same
    obtain ⟨validOwner, second⟩ := runLeft owned
    obtain ⟨validName, fourth⟩ := runLeft named
    have third : Left behindColons behindOwner := leftOf ((literalIff _ _ _).mp joined) (by decide)
    exact ⟨⟨validOwner, validName⟩, leftTrans (openingLeft opened)
      (leftTrans (leftBlanks fourth) (leftTrans third (leftTrans second (typeLeft typed))))⟩
  feed _ _ := rfl

theorem freeReads : Reads freeHead Identifier where
  read {before text value rest} found := by
    rw [freeHead, guardIf] at found
    simp only [bind, Option.bind_eq_some_iff] at found
    obtain ⟨behindType, typed, _, _, ⟨name, behindName⟩, named, behindOpening, opened, same⟩ := found
    cases Option.some.inj same
    obtain ⟨valid, second⟩ := runLeft named
    exact ⟨valid, leftTrans (openingLeft opened) (leftTrans second (typeLeft typed))⟩
  feed _ _ := rfl

theorem declaratorLeft {types : List (List Char)} {text rest : List Char} {name : String}
    (read : declarator types text = some (name, rest)) : Identifier name ∧ Left rest text := by
  simp only [declarator, bind, Option.bind_eq_some_iff] at read
  obtain ⟨behindType, typed, ⟨found, behindName⟩, named, behindSign, signed, same⟩ := read
  cases Option.some.inj same
  obtain ⟨valid, second⟩ := runLeft named
  exact ⟨valid, leftTrans (leftBlanks (singleLeft signed)) (leftTrans second (typeLeft typed))⟩

theorem variableReads : Reads variableDeclaration Identifier where
  read {before text value rest} found := by
    rw [variableDeclaration, guardIf] at found
    simp only [bind, Option.bind_eq_some_iff] at found
    obtain ⟨⟨name, behind⟩, read, _, _, same⟩ := found
    cases Option.some.inj same
    exact declaratorLeft read
  feed _ _ := rfl

theorem keywordLeft {keyword text behindKeyword behindBlanks rest : List Char} {name : String}
    (began : literal keyword text = some behindKeyword)
    (gapped : someBlanks behindKeyword = some behindBlanks)
    (named : identifier behindBlanks = some (name, rest)) : Identifier name ∧ Left rest text := by
  obtain ⟨valid, left⟩ := runLeft named
  obtain ⟨gap, rfl, _⟩ := (someBlanksIff _ _).mp gapped
  rw [(literalIff _ _ _).mp began]
  exact ⟨valid, leftFront (leftFront left)⟩

theorem keywordIff (keyword text : List Char) (name : String) (rest : List Char) :
    (∃ behindKeyword, literal keyword text = some behindKeyword ∧
      ∃ behindBlanks, someBlanks behindKeyword = some behindBlanks ∧
        identifier behindBlanks = some (name, rest)) ↔
      ∃ gap, text = keyword ++ (gap ++ (name.toList ++ rest)) ∧ gap ≠ [] ∧ All isBlank gap ∧
        Identifier name ∧ Past isIdentifierPart rest := by
  constructor
  · rintro ⟨behindKeyword, began, behindBlanks, gapped, named⟩
    obtain ⟨gap, rfl, some, blank, _⟩ := (someBlanksIff _ _).mp gapped
    obtain ⟨rfl, valid, past⟩ := (runIff _ _ _ _ _).mp named
    exact ⟨gap, (literalIff _ _ _).mp began, some, blank, valid, past⟩
  · rintro ⟨gap, rfl, some, blank, valid, past⟩
    exact ⟨_, (literalIff _ _ _).mpr rfl, _,
      (someBlanksIff _ _).mpr ⟨gap, rfl, some, blank, identifierPast valid rest⟩,
      (runIff _ _ _ _ _).mpr ⟨rfl, valid, past⟩⟩

theorem classReads : Reads classDeclaration Identifier where
  read {before text value rest} found := by
    rw [classDeclaration, guardIf] at found
    simp only [bind, Option.bind_eq_some_iff] at found
    obtain ⟨behindKeyword, began, _, _, behindBlanks, gapped, named⟩ := found
    exact keywordLeft began gapped named
  feed _ _ := rfl

theorem macroReads : Reads macroDefinition Identifier where
  read {before text value rest} found := by
    simp only [macroDefinition, bind, Option.bind_eq_some_iff] at found
    obtain ⟨behindKeyword, began, behindBlanks, gapped, named⟩ := found
    exact keywordLeft began gapped named
  feed _ _ := rfl

theorem occurrenceValid {α : Type} {shape : Shape α} {valid : α → Prop} (reads : Reads shape valid)
    {text : List Char} {found : Occurrence α} (member : found ∈ occurrences shape text) :
    valid found.value := by
  obtain ⟨_, _, _, _, _, read⟩ := occurrencePlace member
  exact (reads.read read).1

end HouseStyle.Declaration
