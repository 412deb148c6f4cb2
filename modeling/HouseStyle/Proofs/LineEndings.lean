import HouseStyle.Proofs.Shapes
import HouseStyle.Proofs.Windows

/-! Line endings. With a carriage return put before every line feed a text holds the same
declarations at corresponding places: a carriage return is a blank like the line feed, no name and no
keyword holds either, and a line drops the one that was added. Only the characters that a window counts
come to be more, so it reaches less far back and takes fewer functions for members. -/
namespace HouseStyle.Text

def toCrlf : List Char → List Char
  | [] => []
  | c :: text => if c = '\n' then '\r' :: '\n' :: toCrlf text else c :: toCrlf text

def toCrlfBack : List Char → List Char
  | [] => []
  | c :: before => if c = '\n' then '\n' :: '\r' :: toCrlfBack before else c :: toCrlfBack before

theorem toCrlfFeed (text : List Char) : toCrlf ('\n' :: text) = '\r' :: '\n' :: toCrlf text := rfl

theorem toCrlfOther {c : Char} (other : c ≠ '\n') (text : List Char) :
    toCrlf (c :: text) = c :: toCrlf text := if_neg other

theorem toCrlfBackOther {c : Char} (other : c ≠ '\n') (before : List Char) :
    toCrlfBack (c :: before) = c :: toCrlfBack before := if_neg other

theorem toCrlfAppend (left right : List Char) : toCrlf (left ++ right) = toCrlf left ++ toCrlf right := by
  induction left with
  | nil => rfl
  | cons c left ih =>
    by_cases feed : c = '\n'
    · subst feed
      simp only [List.cons_append, toCrlfFeed, ih]
    · simp only [List.cons_append, toCrlfOther feed, ih]

theorem toCrlfTurned (word before : List Char) :
    (toCrlf word).reverse ++ toCrlfBack before = toCrlfBack (word.reverse ++ before) := by
  induction word generalizing before with
  | nil => rfl
  | cons c word ih =>
    rw [List.reverse_cons, List.append_assoc]
    by_cases feed : c = '\n'
    · subst feed
      rw [toCrlfFeed, ← ih]
      simp [toCrlfBack]
    · rw [toCrlfOther feed, ← ih]
      simp [toCrlfBackOther feed]

theorem toCrlfDropWhile {p : Char → Bool} (alike : p '\r' = p '\n') (text : List Char) :
    (toCrlf text).dropWhile p = toCrlf (text.dropWhile p) := by
  induction text with
  | nil => rfl
  | cons c text ih =>
    by_cases feed : c = '\n'
    · subst feed
      cases drops : p '\n' with
      | true => simp [toCrlfFeed, alike, drops, ih]
      | false => simp [toCrlfFeed, alike, drops]
    · rw [toCrlfOther feed]
      cases drops : p c with
      | true => simp [drops, ih]
      | false => simp [drops, toCrlfOther feed]

def Inline (p : Char → Bool) : Prop := p '\r' = false ∧ p '\n' = false

theorem toCrlfTakeWhile {p : Char → Bool} (inside : Inline p) (text : List Char) :
    (toCrlf text).takeWhile p = text.takeWhile p := by
  induction text with
  | nil => rfl
  | cons c text ih =>
    by_cases feed : c = '\n'
    · subst feed
      simp [toCrlfFeed, inside.1, inside.2]
    · rw [toCrlfOther feed, List.takeWhile_cons, List.takeWhile_cons, ih]

def Carried (read : List Char → Option (List Char)) : Prop :=
  ∀ text, read (toCrlf text) = (read text).map toCrlf

def carry {α : Type} (found : α × List Char) : α × List Char := (found.1, toCrlf found.2)

def CarriedValue {α : Type} (read : List Char → Option (α × List Char)) : Prop :=
  ∀ text, read (toCrlf text) = (read text).map carry

theorem bindCarried {α β γ δ : Type} {found : Option α} {moved : Option β} {f : α → β}
    {g : β → Option γ} {h : α → Option δ} {k : δ → γ} (first : moved = found.map f)
    (each : ∀ value, g (f value) = (h value).map k) : moved.bind g = (found.bind h).map k := by
  subst first
  cases found with
  | none => rfl
  | some value => exact each value

theorem blanksCarried (text : List Char) : blanks (toCrlf text) = toCrlf (blanks text) :=
  toCrlfDropWhile rfl text

theorem someBlanksCarried : Carried someBlanks := by
  intro text
  cases text with
  | nil => rfl
  | cons c text =>
    by_cases feed : c = '\n'
    · subst feed
      exact congrArg some (blanksCarried text)
    · rw [toCrlfOther feed, someBlanks, someBlanks]
      cases isBlank c with
      | true => exact congrArg some (blanksCarried text)
      | false => rfl

def isInline (c : Char) : Bool := c != '\r' && c != '\n'

theorem literalCarried {word : List Char} (inside : word.all isInline = true) :
    Carried (literal word) := by
  induction word with
  | nil => exact fun text => rfl
  | cons w word ih =>
    intro text
    simp only [List.all_cons, isInline, Bool.and_eq_true, bne_iff_ne] at inside
    obtain ⟨⟨noReturn, noFeed⟩, rest⟩ := inside
    cases text with
    | nil => rfl
    | cons c text =>
      by_cases feed : c = '\n'
      · subst feed
        simp [toCrlfFeed, literal, noReturn, noFeed]
      · rw [toCrlfOther feed, literal, literal]
        split
        · exact ih (by simpa [isInline] using rest) text
        · rfl

theorem runCarried {first more : Char → Bool} (starts : Inline first) (goes : Inline more) :
    CarriedValue (run first more) := by
  intro text
  cases text with
  | nil => rfl
  | cons c text =>
    by_cases feed : c = '\n'
    · subst feed
      simp [toCrlfFeed, run, starts.1, starts.2]
    · rw [toCrlfOther feed, run, run, toCrlfTakeWhile goes,
        toCrlfDropWhile (goes.1.trans goes.2.symm)]
      cases first c <;> rfl

theorem singleCarried {p : Char → Bool} (inside : Inline p) : Carried (single p) := by
  intro text
  cases text with
  | nil => rfl
  | cons c text =>
    by_cases feed : c = '\n'
    · subst feed
      simp [toCrlfFeed, single, inside.1, inside.2]
    · rw [toCrlfOther feed, single, single]
      cases p c <;> rfl

/- Whether something may begin at a place is told by the nearest character before it, which is the
same in both texts. -/
theorem guardCarried {begins : List Char → Bool}
    (nearest : ∀ c before other, begins (c :: before) = begins (c :: other)) (before : List Char) :
    (guard (begins (toCrlfBack before) = true) : Option Unit) =
      (guard (begins before = true) : Option Unit).map id := by
  have same : begins (toCrlfBack before) = begins before := by
    cases before with
    | nil => rfl
    | cons c before =>
      by_cases feed : c = '\n'
      · subst feed
        exact nearest _ _ _
      · rw [toCrlfBackOther feed]
        exact nearest _ _ _
  rw [same, Option.map_id, id]

end HouseStyle.Text

namespace HouseStyle.Declaration
open Text

theorem findCarried {words : List (List Char)} (inside : words.all (·.all isInline) = true)
    {turn : List Char → List Char} {text : List Char}
    (each : ∀ {word : List Char}, word.all isInline = true →
      literal word (turn text) = (literal word text).map turn) :
    words.findSome? (literal · (turn text)) = (words.findSome? (literal · text)).map turn := by
  induction words with
  | nil => rfl
  | cons word words ih =>
    obtain ⟨first, rest⟩ := Bool.and_eq_true_iff.mp inside
    rw [List.findSome?_cons, List.findSome?_cons, each first, ih rest]
    cases literal word text <;> rfl

theorem typeCarried {types : List (List Char)} (inside : types.all (·.all isInline) = true) :
    Carried (typeThenBlanks types) := by
  intro text
  exact bindCarried (findCarried inside fun word => literalCarried word text) someBlanksCarried

theorem identifierCarried : CarriedValue identifier := runCarried ⟨rfl, rfl⟩ ⟨rfl, rfl⟩

theorem ownerCarried : CarriedValue ownerName := runCarried ⟨rfl, rfl⟩ ⟨rfl, rfl⟩

theorem openingCarried : Carried opening := by
  intro text
  rw [opening, blanksCarried]
  exact singleCarried ⟨rfl, rfl⟩ _

theorem parametersCarried : Carried parameters := by
  intro text
  rw [parameters, toCrlfDropWhile rfl]
  exact singleCarried ⟨rfl, rfl⟩ _

theorem bodyCarried : Carried bodyOrEnd := by
  intro text
  have qualified : qualifier (toCrlf text) = toCrlf (qualifier text) := by
    simp only [qualifier, blanksCarried]
    rw [literalCarried (by decide)]
    cases literal ['c', 'o', 'n', 's', 't'] (blanks text) with
    | none => exact blanksCarried _
    | some rest => exact blanksCarried _
  rw [bodyOrEnd, qualified]
  exact singleCarried ⟨rfl, rfl⟩ _

def CarriedShape {α : Type} (shape : Shape α) : Prop :=
  ∀ before text, shape (toCrlfBack before) (toCrlf text) = (shape before text).map carry

theorem functionCarried {α : Type} {head : Shape α} (carried : CarriedShape head) :
    CarriedShape (function head) := by
  intro before text
  refine bindCarried (carried before text) fun (value, rest) => ?_
  refine bindCarried (parametersCarried rest) fun rest => ?_
  refine bindCarried (bodyCarried rest) fun rest => ?_
  rfl

theorem constructorCarried : CarriedShape constructorHead := by
  intro before text
  refine bindCarried (guardCarried (fun _ _ _ => rfl) before) fun _ => ?_
  refine bindCarried (ownerCarried text) fun (owner, rest) => ?_
  refine bindCarried (literalCarried (by decide) rest) fun rest => ?_
  refine bindCarried (identifierCarried rest) fun (name, rest) => ?_
  refine bindCarried (openingCarried rest) fun rest => ?_
  rfl

theorem memberCarried : CarriedShape memberHead := by
  intro before text
  refine bindCarried (typeCarried (by decide) text) fun rest => ?_
  refine bindCarried (guardCarried (fun _ _ _ => rfl) before) fun _ => ?_
  refine bindCarried (ownerCarried rest) fun (owner, rest) => ?_
  refine bindCarried (literalCarried (by decide) rest) fun rest => ?_
  have name : identifier (blanks (toCrlf rest)) = (identifier (blanks rest)).map carry := by
    rw [blanksCarried]
    exact identifierCarried _
  refine bindCarried name fun (name, rest) => ?_
  refine bindCarried (openingCarried rest) fun rest => ?_
  rfl

theorem freeCarried : CarriedShape freeHead := by
  intro before text
  refine bindCarried (typeCarried (by decide) text) fun rest => ?_
  refine bindCarried (guardCarried (fun _ _ _ => rfl) before) fun _ => ?_
  refine bindCarried (identifierCarried rest) fun (name, rest) => ?_
  refine bindCarried (openingCarried rest) fun rest => ?_
  rfl

theorem declaratorCarried {types : List (List Char)} (inside : types.all (·.all isInline) = true) :
    CarriedValue (declarator types) := by
  intro text
  refine bindCarried (typeCarried inside text) fun rest => ?_
  refine bindCarried (identifierCarried rest) fun (name, rest) => ?_
  have sign : single (fun c => c == '=' || c == ';') (blanks (toCrlf rest)) =
      (single (fun c => c == '=' || c == ';') (blanks rest)).map toCrlf := by
    rw [blanksCarried]
    exact singleCarried ⟨rfl, rfl⟩ _
  refine bindCarried sign fun rest => ?_
  rfl

theorem variableCarried : CarriedShape variableDeclaration := by
  intro before text
  refine bindCarried (declaratorCarried (by decide) text) fun found => ?_
  refine bindCarried (guardCarried (fun _ _ _ => rfl) before) fun _ => ?_
  rfl

theorem classCarried : CarriedShape classDeclaration := by
  intro before text
  refine bindCarried (literalCarried (by decide) text) fun rest => ?_
  refine bindCarried (guardCarried (fun _ _ _ => rfl) before) fun _ => ?_
  refine bindCarried (someBlanksCarried rest) fun rest => ?_
  exact identifierCarried rest

theorem macroCarried : CarriedShape macroDefinition := by
  intro before text
  refine bindCarried (literalCarried (by decide) text) fun rest => ?_
  refine bindCarried (someBlanksCarried rest) fun rest => ?_
  exact identifierCarried rest

def carryPlace {α : Type} (found : Occurrence α) : Occurrence α :=
  ⟨found.value, toCrlfBack found.before⟩

theorem toCrlfSome {word : List Char} (some : word ≠ []) : toCrlf word ≠ [] := by
  obtain ⟨c, rest, rfl⟩ := List.exists_cons_of_ne_nil some
  by_cases feed : c = '\n' <;> simp [toCrlf, feed]

theorem searchCarried {α : Type} {shape : Shape α} {valid : α → Prop} (reads : Reads shape valid)
    (carried : CarriedShape shape) (before text : List Char) :
    occurrencesFrom shape (toCrlfBack before) 0 (toCrlf text) =
      (occurrencesFrom shape before 0 text).map carryPlace := by
  refine searchInduction (motive := fun before text found =>
    occurrencesFrom shape (toCrlfBack before) 0 (toCrlf text) = found.map carryPlace) (readsOn reads)
    ?none ?miss ?hit before text
  case none => exact fun before => rfl
  case miss =>
    intro before c text found unread later
    have moved := carried before (c :: text)
    rw [unread] at moved
    rw [← later]
    by_cases feed : c = '\n'
    · subst feed
      -- two places stand for one: the carriage return as in the text, then the line feed
      rw [toCrlfFeed] at moved ⊢
      rw [occurrencesFrom, moved, occurrencesFrom, reads.feed]
      rfl
    · rw [toCrlfOther feed] at moved ⊢
      rw [occurrencesFrom, moved, toCrlfBackOther feed]
      rfl
  case hit =>
    intro before word rest value found some read later
    have moved := carried before (word ++ rest)
    rw [read, toCrlfAppend] at moved
    rw [toCrlfAppend, occurrencesHit moved (toCrlfSome some), toCrlfTurned, later]
    rfl

theorem occurrencesCarried {α : Type} {shape : Shape α} {valid : α → Prop} (reads : Reads shape valid)
    (carried : CarriedShape shape) (text : List Char) :
    occurrences shape (toCrlf text) = (occurrences shape text).map carryPlace :=
  searchCarried reads carried [] text

end HouseStyle.Declaration
