import HouseStyle.Proofs.Shapes

/-! Functions, said without reading them. A head begins where it may and ends with its opening
parenthesis; then come the first closing parenthesis behind it and the start of a body. What stands
between that parenthesis and the body is not the beginning of another head. -/
namespace HouseStyle.Declaration
open Text

structure Called (word : List Char) (name : String) : Prop where
  parts : ∃ gap, word = name.toList ++ (gap ++ ['(']) ∧ All isBlank gap
  identifier : Identifier name

structure ConstructorHead (before word : List Char) (member : Member) : Prop where
  starts : atLineStart before = true
  owner : Owner member.owner
  parts : ∃ call, word = member.owner.toList ++ (colons ++ call) ∧ Called call member.name

structure MemberHead (before word : List Char) (member : Member) : Prop where
  starts : atWordStart before = true
  owner : Owner member.owner
  parts : ∃ kind gap inner call,
    word = kind ++ (gap ++ (member.owner.toList ++ (colons ++ (inner ++ call)))) ∧
    kind ∈ functionTypes ∧ gap ≠ [] ∧ All isBlank gap ∧ All isBlank inner ∧ Called call member.name

structure FreeHead (before word : List Char) (name : String) : Prop where
  starts : atWordStart before = true
  parts : ∃ kind gap call, word = kind ++ (gap ++ call) ∧
    kind ∈ functionTypes ∧ gap ≠ [] ∧ All isBlank gap ∧ Called call name

def constWord : List Char := ['c', 'o', 'n', 's', 't']

def isBodyStart (c : Char) : Bool := c == '{' || c == ';'

structure Closes (after rest : List Char) : Prop where
  parts : ∃ gap word tail stop, after = gap ++ (word ++ (tail ++ stop :: rest)) ∧ All isBlank gap ∧
    (word = [] ∨ word = constWord) ∧ All isBlank tail ∧ isBodyStart stop = true

theorem functionTypesPrefixFree : PrefixFree functionTypes := by
  unfold PrefixFree
  decide

theorem calledIff (text : List Char) (name : String) (rest : List Char) :
    (∃ behind, identifier text = some (name, behind) ∧ opening behind = some rest) ↔
      ∃ call, text = call ++ rest ∧ Called call name := by
  constructor
  · rintro ⟨behind, named, opened⟩
    obtain ⟨rfl, valid, _⟩ := (runIff _ _ _ _ _).mp named
    obtain ⟨c, found, sign⟩ := (singleIff _ _ _).mp opened
    obtain ⟨gap, split, blank, _⟩ := blanksSplit behind
    rw [found, eq_of_beq sign] at split
    exact ⟨name.toList ++ (gap ++ ['(']), by simp [split], ⟨gap, rfl, blank⟩, valid⟩
  · rintro ⟨call, rfl, ⟨gap, rfl, blank⟩, valid⟩
    have past : Past isIdentifierPart (gap ++ '(' :: rest) := pastBlanks blank (pastCons rest rfl)
    refine ⟨gap ++ '(' :: rest, (runIff _ _ _ _ _).mpr ⟨by simp, valid, past⟩, ?_⟩
    have skipped : blanks (gap ++ '(' :: rest) = '(' :: rest := dropWhileRun blank (pastCons rest rfl)
    rw [opening, skipped]
    rfl

theorem calledPast {call : List Char} {name : String} (called : Called call name) (rest : List Char) :
    Past isBlank (call ++ rest) := by
  obtain ⟨⟨gap, rfl, _⟩, valid⟩ := called
  rw [List.append_assoc]
  exact identifierPast valid _

theorem upperPart {c : Char} (upper : c.isUpper = true) : isIdentifierPart c = true :=
  startIsPart (Bool.or_eq_true_iff.mpr (Or.inl (Bool.or_eq_true_iff.mpr (Or.inl upper))))

theorem ownerPast {owner : String} (valid : Owner owner) (rest : List Char) :
    Past isBlank (owner.toList ++ rest) := by
  obtain ⟨c, letters, spelled, upper, _⟩ := valid.shape
  rw [spelled]
  exact pastCons _ (partNotBlank (upperPart upper))

theorem ownerRead {owner : String} (valid : Owner owner) (rest : List Char) :
    ownerName (owner.toList ++ (colons ++ rest)) = some (owner, colons ++ rest) :=
  (runIff _ _ _ _ _).mpr ⟨rfl, valid, pastCons _ rfl⟩

theorem constructorIff (before text : List Char) (member : Member) (rest : List Char) :
    constructorHead before text = some (member, rest) ↔
      ∃ word, text = word ++ rest ∧ ConstructorHead before word member := by
  rw [constructorHead, guardIf]
  simp only [bind, Option.bind_eq_some_iff]
  constructor
  · rintro ⟨_, starts, ⟨owner, behindOwner⟩, owned, behindColons, joined, ⟨name, behindName⟩, named,
      behindOpening, opened, same⟩
    cases Option.some.inj same
    split at starts <;> try contradiction
    obtain ⟨rfl, validOwner, _⟩ := (runIff _ _ _ _ _).mp owned
    obtain ⟨call, rfl, called⟩ := (calledIff _ _ _).mp ⟨_, named, opened⟩
    obtain rfl : behindOwner = colons ++ (call ++ rest) := (literalIff _ _ _).mp joined
    exact ⟨owner.toList ++ (colons ++ call), by simp, by assumption, validOwner, call, rfl, called⟩
  · rintro ⟨word, rfl, starts, validOwner, call, rfl, called⟩
    obtain ⟨behind, named, opened⟩ := (calledIff (call ++ rest) _ _).mpr ⟨call, rfl, called⟩
    refine ⟨(), if_pos starts, (member.owner, colons ++ (call ++ rest)), ?_, call ++ rest,
      (literalIff _ _ _).mpr rfl, (member.name, behind), named, rest, opened, rfl⟩
    rw [List.append_assoc, List.append_assoc]
    exact ownerRead validOwner _

theorem memberIff (before text : List Char) (member : Member) (rest : List Char) :
    memberHead before text = some (member, rest) ↔
      ∃ word, text = word ++ rest ∧ MemberHead before word member := by
  rw [memberHead, guardIf]
  simp only [bind, Option.bind_eq_some_iff]
  constructor
  · rintro ⟨behindType, typed, _, starts, ⟨owner, behindOwner⟩, owned, behindColons, joined,
      ⟨name, behindName⟩, named, behindOpening, opened, same⟩
    cases Option.some.inj same
    split at starts <;> try contradiction
    obtain ⟨kind, gap, rfl, kept, gapped, blank, _⟩ :=
      (typeThenBlanksIff functionTypesPrefixFree _ _).mp typed
    obtain ⟨rfl, validOwner, _⟩ := (runIff _ _ _ _ _).mp owned
    obtain ⟨call, found, called⟩ := (calledIff _ _ _).mp ⟨_, named, opened⟩
    obtain ⟨inner, split, blankInner, _⟩ := blanksSplit behindColons
    rw [found] at split
    obtain rfl : behindOwner = colons ++ behindColons := (literalIff _ _ _).mp joined
    rw [split]
    exact ⟨kind ++ (gap ++ (owner.toList ++ (colons ++ (inner ++ call)))), by simp, by assumption,
      validOwner, kind, gap, inner, call, rfl, kept, gapped, blank, blankInner, called⟩
  · rintro ⟨word, rfl, starts, validOwner, kind, gap, inner, call, rfl, kept, gapped, blank, blankInner,
      called⟩
    obtain ⟨behind, named, opened⟩ := (calledIff (call ++ rest) _ _).mpr ⟨call, rfl, called⟩
    have skipped : blanks (inner ++ (call ++ rest)) = call ++ rest :=
      dropWhileRun blankInner (calledPast called rest)
    refine ⟨member.owner.toList ++ (colons ++ (inner ++ (call ++ rest))), ?_, (), if_pos starts, _,
      ownerRead validOwner _, inner ++ (call ++ rest), (literalIff _ _ _).mpr rfl, (member.name, behind),
      by rw [skipped]; exact named, rest, opened, rfl⟩
    exact (typeThenBlanksIff functionTypesPrefixFree _ _).mpr
      ⟨kind, gap, by simp, kept, gapped, blank, ownerPast validOwner _⟩

theorem freeIff (before text : List Char) (name : String) (rest : List Char) :
    freeHead before text = some (name, rest) ↔
      ∃ word, text = word ++ rest ∧ FreeHead before word name := by
  rw [freeHead, guardIf]
  simp only [bind, Option.bind_eq_some_iff]
  constructor
  · rintro ⟨behindType, typed, _, starts, ⟨name, behindName⟩, named, behindOpening, opened, same⟩
    cases Option.some.inj same
    split at starts <;> try contradiction
    obtain ⟨kind, gap, rfl, kept, gapped, blank, _⟩ :=
      (typeThenBlanksIff functionTypesPrefixFree _ _).mp typed
    obtain ⟨call, rfl, called⟩ := (calledIff _ _ _).mp ⟨_, named, opened⟩
    exact ⟨kind ++ (gap ++ call), by simp, by assumption, kind, gap, call, rfl, kept, gapped, blank, called⟩
  · rintro ⟨word, rfl, starts, kind, gap, call, rfl, kept, gapped, blank, called⟩
    obtain ⟨behind, named, opened⟩ := (calledIff (call ++ rest) _ _).mpr ⟨call, rfl, called⟩
    refine ⟨call ++ rest, ?_, (), if_pos starts, (name, behind), named, rest, opened, rfl⟩
    exact (typeThenBlanksIff functionTypesPrefixFree _ _).mpr
      ⟨kind, gap, by simp, kept, gapped, blank, calledPast called rest⟩

theorem unclosedIff (text : List Char) : ')' ∉ text ↔ All (· != ')') text := by
  constructor
  · intro absent c member
    exact bne_iff_ne.mpr fun same => absent (same ▸ member)
  · intro all member
    have other := all _ member
    contradiction

theorem closingStops (after : List Char) : Past (· != ')') (')' :: after) := pastCons after rfl

theorem closingUnique {left right after after' : List Char} (unclosed : ')' ∉ left)
    (unclosed' : ')' ∉ right) (same : left ++ ')' :: after = right ++ ')' :: after') :
    left = right ∧ after = after' := by
  have first := takeWhileRun ((unclosedIff _).mp unclosed) (closingStops after)
  have second := takeWhileRun ((unclosedIff _).mp unclosed') (closingStops after')
  rw [same, second] at first
  subst first
  exact ⟨rfl, (List.cons.inj (List.append_cancel_left same)).2⟩

theorem parametersIff (text rest : List Char) :
    parameters text = some rest ↔ ∃ inside, text = inside ++ ')' :: rest ∧ ')' ∉ inside := by
  constructor
  · intro read
    obtain ⟨c, found, sign⟩ := (singleIff _ _ _).mp read
    refine ⟨text.takeWhile (· != ')'), ?_, (unclosedIff _).mpr (takeWhileAll _ text)⟩
    rw [eq_of_beq sign] at found
    rw [← found, List.takeWhile_append_dropWhile]
  · rintro ⟨inside, rfl, unclosed⟩
    have skipped := dropWhileRun ((unclosedIff _).mp unclosed) (closingStops rest)
    rw [parameters, skipped]
    rfl

theorem bodyStartClass {c : Char} (starts : isBodyStart c = true) : isBlank c = false ∧ c ≠ 'c' := by
  have either : c = '{' ∨ c = ';' := by simpa [isBodyStart] using starts
  rcases either with rfl | rfl <;> decide

theorem bodyIff (after rest : List Char) : bodyOrEnd after = some rest ↔ Closes after rest := by
  constructor
  · intro read
    obtain ⟨stop, found, starts⟩ := (singleIff _ _ _).mp read
    obtain ⟨gap, first, blank, _⟩ := blanksSplit after
    simp only [qualifier] at found
    cases word : literal ['c', 'o', 'n', 's', 't'] (blanks after) with
    | none =>
      rw [word, Option.getD_none] at found
      obtain ⟨tail, second, blankTail, _⟩ := blanksSplit (blanks after)
      rw [found] at second
      rw [second] at first
      exact ⟨gap, [], tail, stop, first, blank, Or.inl rfl, blankTail, starts⟩
    | some behind =>
      rw [word, Option.getD_some] at found
      obtain ⟨tail, second, blankTail, _⟩ := blanksSplit behind
      rw [found] at second
      rw [(literalIff _ _ _).mp word, second] at first
      exact ⟨gap, constWord, tail, stop, first, blank, Or.inr rfl, blankTail, starts⟩
  · rintro ⟨gap, word, tail, stop, rfl, blank, either, blankTail, starts⟩
    obtain ⟨solid, other⟩ := bodyStartClass starts
    have skipTail : blanks (tail ++ stop :: rest) = stop :: rest :=
      dropWhileRun blankTail (pastCons rest solid)
    have reached : qualifier (gap ++ (word ++ (tail ++ stop :: rest))) = stop :: rest := by
      rcases either with rfl | rfl
      · have skipBoth : blanks (gap ++ (tail ++ stop :: rest)) = stop :: rest := by
          rw [← List.append_assoc]
          refine dropWhileRun (fun c member => ?_) (pastCons rest solid)
          rcases List.mem_append.mp member with inGap | inTail
          · exact blank c inGap
          · exact blankTail c inTail
        have noConst : literal ['c', 'o', 'n', 's', 't'] (stop :: rest) = none := if_neg (Ne.symm other)
        rw [List.nil_append, qualifier, skipBoth, noConst]
        exact List.dropWhile_cons_of_neg (by simp [solid])
      · have skipGap : blanks (gap ++ (constWord ++ (tail ++ stop :: rest))) =
            constWord ++ (tail ++ stop :: rest) := dropWhileRun blank (pastCons _ rfl)
        have const : literal ['c', 'o', 'n', 's', 't'] (constWord ++ (tail ++ stop :: rest)) =
            some (tail ++ stop :: rest) := (literalIff _ _ _).mpr rfl
        rw [qualifier, skipGap, const]
        exact skipTail
    rw [bodyOrEnd, reached]
    exact if_pos starts

/- A head as it is read beside the head as it is said. No head holds a closing parenthesis, and each
begins with some characters that cannot stand between a closing parenthesis and a body. -/
structure Recognised {α : Type} (head : Shape α) (Head : List Char → List Char → α → Prop) : Prop where
  reads : ∀ before text value rest,
    head before text = some (value, rest) ↔ ∃ word, text = word ++ rest ∧ Head before word value
  unclosed : ∀ {before word value}, Head before word value → ')' ∉ word
  begins : ∀ {before word value}, Head before word value → ∃ start more, word = start ++ more ∧
    start ≠ [] ∧ (∀ c ∈ start, isBlank c = false ∧ isBodyStart c = false) ∧ ¬ start <:+: constWord

theorem functionIff {α : Type} {head : Shape α} {Head : List Char → List Char → α → Prop}
    (recognised : Recognised head Head) (before text : List Char) (value : α) (rest : List Char) :
    function head before text = some (value, rest) ↔
      ∃ word inside after, text = word ++ (inside ++ ')' :: after) ∧ Head before word value ∧
        ')' ∉ inside ∧ Closes after rest := by
  simp only [function, bind, Option.bind_eq_some_iff]
  constructor
  · rintro ⟨⟨first, behindHead⟩, opened, behindList, closed, behindBody, ended, same⟩
    cases Option.some.inj same
    obtain ⟨word, rfl, said⟩ := (recognised.reads _ _ _ _).mp opened
    obtain ⟨inside, found, unclosed⟩ := (parametersIff _ _).mp closed
    exact ⟨word, inside, behindList, congrArg (word ++ ·) found, said, unclosed, (bodyIff _ _).mp ended⟩
  · rintro ⟨word, inside, after, rfl, said, unclosed, closes⟩
    exact ⟨(value, inside ++ ')' :: after), (recognised.reads _ _ _ _).mpr ⟨word, rfl, said⟩, after,
      (parametersIff _ _).mpr ⟨inside, rfl, unclosed⟩, rest, (bodyIff _ _).mpr closes, rfl⟩

theorem infixBehind {p : Char → Bool} {start gap rest : List Char} (some : start ≠ [])
    (outside : ∀ c ∈ start, p c = false) (all : All p gap) (inside : start <:+: gap ++ rest) :
    start <:+: rest := by
  induction gap with
  | nil => exact inside
  | cons c gap ih =>
    rcases List.infix_cons_iff.mp inside with first | later
    · cases start with
      | nil => contradiction
      | cons d start =>
        obtain ⟨rfl, _⟩ := List.cons_prefix_cons.mp first
        have other := outside d List.mem_cons_self
        rw [all d List.mem_cons_self] at other
        contradiction
    · exact ih (fun d member => all d (List.mem_cons_of_mem _ member)) later

theorem infixBefore {p : Char → Bool} {start gap front : List Char} (some : start ≠ [])
    (outside : ∀ c ∈ start, p c = false) (all : All p gap) (inside : start <:+: front ++ gap) :
    start <:+: front := by
  rw [← List.reverse_infix] at inside ⊢
  rw [List.reverse_append] at inside
  refine infixBehind (by simpa using some) (fun c member => outside c (List.mem_reverse.mp member))
    (fun c member => all c (List.mem_reverse.mp member)) inside

theorem prefixBefore {start front rest : List Char} {c : Char} (absent : c ∉ start)
    (starts : start <+: front ++ c :: rest) : start <+: front := by
  obtain ⟨more, split⟩ := starts
  rcases List.append_eq_append_iff.mp split with ⟨last, rfl, _⟩ | ⟨last, rfl, reach⟩
  · exact List.prefix_append _ _
  · cases last with
    | nil => simp
    | cons d last =>
      obtain ⟨rfl, _⟩ := List.cons.inj reach
      exact absurd (by simp) absent

theorem spanIdle {gap word tail front back : List Char} {stop : Char} {rest start : List Char}
    (blank : All isBlank gap) (either : word = [] ∨ word = constWord) (blankTail : All isBlank tail)
    (starts : isBodyStart stop = true) (split : gap ++ (word ++ (tail ++ [stop])) = front ++ back)
    (reached : back ≠ []) (some : start ≠ [])
    (letters : ∀ c ∈ start, isBlank c = false ∧ isBodyStart c = false)
    (begins : start <+: back ++ rest) : start <:+: constWord := by
  obtain ⟨middle, last, rfl⟩ : ∃ middle last, back = middle ++ [last] :=
    ⟨back.dropLast, back.getLast reached, (List.dropLast_concat_getLast reached).symm⟩
  have whole : (gap ++ (word ++ tail)) ++ [stop] = (front ++ middle) ++ [last] := by
    simpa using split
  obtain ⟨same, signs⟩ := List.append_inj' whole rfl
  cases signs
  have absent : stop ∉ start := fun member => by
    have other := (letters stop member).2
    rw [starts] at other
    contradiction
  rw [List.append_assoc, List.singleton_append] at begins
  have inside : start <:+: gap ++ (word ++ tail) := by
    rw [same]
    exact (prefixBefore absent begins).isInfix.trans (List.suffix_append _ _).isInfix
  have solid : ∀ c ∈ start, isBlank c = false := fun c member => (letters c member).1
  have inWord := infixBefore some solid blankTail (infixBehind some solid blank inside)
  rcases either with rfl | rfl
  · exact inWord.trans (List.nil_infix)
  · exact inWord

theorem spanBarren {α : Type} {head : Shape α} {Head : List Char → List Char → α → Prop}
    (recognised : Recognised head Head) {after rest : List Char} (closes : Closes after rest)
    (before : List Char) :
    ∃ span, after = span ++ rest ∧ Barren (function head) before span rest := by
  obtain ⟨gap, word, tail, stop, rfl, blank, either, blankTail, starts⟩ := closes
  refine ⟨gap ++ (word ++ (tail ++ [stop])), by simp, fun front back split reached => ?_⟩
  cases read : function head (front.reverse ++ before) (back ++ rest) with
  | none => rfl
  | some found =>
    obtain ⟨begun, inside, behind, whole, said, _⟩ := (functionIff recognised _ _ found.1 found.2).mp read
    obtain ⟨start, more, rfl, some, letters, apart⟩ := recognised.begins said
    have begins : start <+: back ++ rest := by
      rw [whole, List.append_assoc]
      exact List.prefix_append _ _
    exact absurd (spanIdle blank either blankTail starts split reached some letters begins) apart

theorem unclosedRun {p : Char → Bool} {run : List Char} (other : p ')' = false) (all : All p run) :
    ')' ∉ run := by
  intro member
  rw [all _ member] at other
  contradiction

theorem calledUnclosed {call : List Char} {name : String} (called : Called call name) : ')' ∉ call := by
  obtain ⟨⟨gap, rfl, blank⟩, valid⟩ := called
  have inName := unclosedRun rfl (identifierParts valid).2
  have inGap := unclosedRun rfl blank
  simp [inName, inGap]

theorem ownerUnclosed {owner : String} (valid : Owner owner) : ')' ∉ owner.toList := by
  obtain ⟨c, rest, spelled, upper, letters⟩ := valid.shape
  have inRest := unclosedRun rfl letters
  have first : ')' ≠ c := by
    rintro rfl
    contradiction
  rw [spelled]
  simp [inRest, first]

theorem typeBegins {kind : List Char} (member : kind ∈ functionTypes) :
    kind ≠ [] ∧ (∀ c ∈ kind, isBlank c = false ∧ isBodyStart c = false) ∧ ¬ kind <:+: constWord ∧
      ')' ∉ kind := by
  have each : functionTypes.all (fun kind => !kind.isEmpty &&
      kind.all (fun c => !isBlank c && !isBodyStart c && c != ')') && !holds kind constWord) = true := by
    decide
  have here := List.all_eq_true.mp each kind member
  simp only [Bool.and_eq_true, List.all_eq_true, Bool.not_eq_true', bne_iff_ne] at here
  obtain ⟨⟨some, letters⟩, apart⟩ := here
  refine ⟨by simpa using some, fun c inside => (letters c inside).1, ?_, fun inside => ?_⟩
  · rw [← holdsIff, apart]
    simp
  · exact (letters _ inside).2 rfl

theorem constructorRecognised : Recognised constructorHead ConstructorHead where
  reads := constructorIff
  unclosed said := by
    obtain ⟨_, owner, call, rfl, called⟩ := said
    simp [ownerUnclosed owner, calledUnclosed called, colons]
  begins said := by
    obtain ⟨_, owner, call, rfl, called⟩ := said
    obtain ⟨c, rest, spelled, upper, _⟩ := owner.shape
    refine ⟨[c], rest ++ (colons ++ call), by simp [spelled], by simp, ?_, ?_⟩
    · intro d member
      cases List.mem_singleton.mp member
      refine ⟨partNotBlank (upperPart upper), Bool.eq_false_iff.mpr fun starts => ?_⟩
      have either : c = '{' ∨ c = ';' := by simpa [isBodyStart] using starts
      rcases either with rfl | rfl <;> contradiction
    · intro inside
      have small : constWord.all (!·.isUpper) = true := by decide
      have member := List.all_eq_true.mp small c (inside.subset List.mem_cons_self)
      rw [upper] at member
      contradiction

theorem memberRecognised : Recognised memberHead MemberHead where
  reads := memberIff
  unclosed said := by
    obtain ⟨_, owner, kind, gap, inner, call, rfl, member, _, blank, blankInner, called⟩ := said
    simp [(typeBegins member).2.2.2, unclosedRun rfl blank, unclosedRun rfl blankInner,
      ownerUnclosed owner, calledUnclosed called, colons]
  begins said := by
    obtain ⟨_, _, kind, gap, inner, call, rfl, member, _⟩ := said
    obtain ⟨some, letters, apart, _⟩ := typeBegins member
    exact ⟨kind, _, rfl, some, letters, apart⟩

theorem freeRecognised : Recognised freeHead FreeHead where
  reads := freeIff
  unclosed said := by
    obtain ⟨_, kind, gap, call, rfl, member, _, blank, called⟩ := said
    simp [(typeBegins member).2.2.2, unclosedRun rfl blank, calledUnclosed called]
  begins said := by
    obtain ⟨_, kind, gap, call, rfl, member, _⟩ := said
    obtain ⟨some, letters, apart, _⟩ := typeBegins member
    exact ⟨kind, _, rfl, some, letters, apart⟩

end HouseStyle.Declaration
