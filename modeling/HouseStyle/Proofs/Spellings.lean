import HouseStyle.Toml.Nested

/-! Strings and arrays of strings written out. A character may be spelled in several ways: as it is, if
it is none of the special ones, by a short escape, if it has one, or by its code. Whichever is chosen,
what is read is what was written. -/
namespace HouseStyle.Toml

def isSpecial (c : Char) : Bool :=
  c == '"' || c == '\\' || c.toNat < 0x20 || c.toNat == 0x7F

def shortEscapes : List (Char × Char) :=
  [('\x08', 'b'), ('\t', 't'), ('\n', 'n'), ('\x0c', 'f'), ('\r', 'r'), ('"', '"'), ('\\', '\\')]

def hexDigit (capital : Bool) (n : Nat) : Char :=
  if capital then n.digitChar.toUpper else n.digitChar

def hexDigits (capital : Bool) : (width n : Nat) → List Char
  | 0, _ => []
  | width + 1, n => hexDigits capital width (n / 16) ++ [hexDigit capital (n % 16)]

inductive Spelled : Char → List Char → Prop where
  | plain {c : Char} (ordinary : isSpecial c = false) : Spelled c [c]
  | named {c letter : Char} (short : (c, letter) ∈ shortEscapes) : Spelled c ['\\', letter]
  | code {c : Char} (capital : Bool) (fits : c.toNat < 0x10000) :
      Spelled c ('\\' :: 'u' :: hexDigits capital 4 c.toNat)
  | longCode {c : Char} (capital : Bool) : Spelled c ('\\' :: 'U' :: hexDigits capital 8 c.toNat)

theorem hexDigitRead (capital : Bool) {n : Nat} (small : n < 16) :
    isHexDigit (hexDigit capital n) = true ∧ hexValue (hexDigit capital n) = n := by
  have each : (List.range 16).all (fun n => isHexDigit (hexDigit capital n) &&
      hexValue (hexDigit capital n) == n) = true := by
    cases capital <;> decide
  have here := List.all_eq_true.mp each n (List.mem_range.mpr small)
  simpa using here

theorem hexDigitsLength (capital : Bool) (width n : Nat) :
    (hexDigits capital width n).length = width := by
  induction width generalizing n with
  | zero => rfl
  | succ width ih => rw [hexDigits, List.length_append, ih, List.length_singleton]

theorem hexDigitsAll (capital : Bool) (width n : Nat) :
    (hexDigits capital width n).all isHexDigit = true := by
  induction width generalizing n with
  | zero => rfl
  | succ width ih =>
    have last := (hexDigitRead capital (Nat.mod_lt n (by decide : 0 < 16))).1
    rw [hexDigits, List.all_append, ih, List.all_cons, last]
    rfl

theorem ofDigitsHex (capital : Bool) (width n : Nat) (fits : n < Nat.pow 16 width) :
    ofDigits 16 (hexDigits capital width n) = n := by
  induction width generalizing n with
  | zero =>
    have none : n = 0 := Nat.lt_one_iff.mp fits
    rw [none]
    rfl
  | succ width ih =>
    have fewer : n / 16 < Nat.pow 16 width := Nat.div_lt_of_lt_mul (by rwa [Nat.mul_comm])
    have last := (hexDigitRead capital (Nat.mod_lt n (by decide : 0 < 16))).2
    have front := ih (n / 16) fewer
    unfold ofDigits at front ⊢
    rw [hexDigits, List.foldl_append, front, List.foldl_cons, List.foldl_nil, last]
    omega

theorem codePointHex (capital : Bool) {width : Nat} {c : Char} (fits : c.toNat < Nat.pow 16 width)
    (rest : List Char) : codePoint width (hexDigits capital width c.toNat ++ rest) = .ok c := by
  have front : (hexDigits capital width c.toNat ++ rest).take width =
      hexDigits capital width c.toNat :=
    List.take_left' (hexDigitsLength capital width c.toNat)
  have valid : c.toNat.isValidChar := c.valid
  simp only [codePoint, front, hexDigitsLength, hexDigitsAll, ofDigitsHex capital width _ fits,
    and_self, if_true, if_pos valid, Char.ofNat_toNat]

theorem basicCovered (word rest : List Char) :
    basicFrom word.length (word ++ rest) = basicFrom 0 rest := by
  induction word with
  | nil => rfl
  | cons c word ih =>
    rw [List.length_cons, List.cons_append, basicFrom]
    exact ih

theorem escapeRead {c : Char} {word rest : List Char}
    (read : escape (word ++ rest) = .ok (c, word.length)) :
    basicFrom 0 ('\\' :: (word ++ rest)) = prepend c (basicFrom 0 rest) := by
  rw [basicFrom, if_neg (by decide), if_pos rfl, read, ← basicCovered word rest]

theorem spelledRead {c : Char} {word : List Char} (spelled : Spelled c word) (rest : List Char) :
    basicFrom 0 (word ++ rest) = prepend c (basicFrom 0 rest) := by
  cases spelled with
  | plain ordinary =>
    simp only [isSpecial, Bool.or_eq_false_iff, beq_eq_false_iff_ne, decide_eq_false_iff_not] at ordinary
    obtain ⟨⟨⟨noQuote, noBackslash⟩, printed⟩, noDelete⟩ := ordinary
    have plain : isPlain c = true := by
      simp only [isPlain, Bool.or_eq_true, Bool.and_eq_true, decide_eq_true_eq, bne_iff_ne]
      exact Or.inr ⟨Nat.not_lt.mp printed, noDelete⟩
    rw [List.cons_append, basicFrom, if_neg noQuote, if_neg noBackslash, if_pos plain]
    rfl
  | named short =>
    simp only [shortEscapes, List.mem_cons, List.not_mem_nil, or_false, Prod.mk.injEq] at short
    rcases short with ⟨rfl, rfl⟩ | ⟨rfl, rfl⟩ | ⟨rfl, rfl⟩ | ⟨rfl, rfl⟩ | ⟨rfl, rfl⟩ | ⟨rfl, rfl⟩ |
      ⟨rfl, rfl⟩ <;> rfl
  | code capital fits =>
    have read : escape (('u' :: hexDigits capital 4 c.toNat) ++ rest) =
        .ok (c, ('u' :: hexDigits capital 4 c.toNat).length) := by
      rw [List.cons_append, List.length_cons, hexDigitsLength, escape, codePointHex capital fits]
      rfl
    exact escapeRead read
  | longCode capital =>
    have fits : c.toNat < Nat.pow 16 8 := c.val.toNat_lt_size
    have read : escape (('U' :: hexDigits capital 8 c.toNat) ++ rest) =
        .ok (c, ('U' :: hexDigits capital 8 c.toNat).length) := by
      rw [List.cons_append, List.length_cons, hexDigitsLength, escape, codePointHex capital fits]
      rfl
    exact escapeRead read

theorem spelledHead {c : Char} {word : List Char} (spelled : Spelled c word) :
    ∃ first more, word = first :: more ∧ first ≠ '"' := by
  cases spelled with
  | plain ordinary =>
    refine ⟨c, [], rfl, ?_⟩
    rintro rfl
    contradiction
  | named short => exact ⟨'\\', _, rfl, by decide⟩
  | code capital fits => exact ⟨'\\', _, rfl, by decide⟩
  | longCode capital => exact ⟨'\\', _, rfl, by decide⟩

structure Manner where
  spell : Char → List Char
  spelled : ∀ c, Spelled c (spell c)
  endsLast : Bool

namespace Manner

def quoted (manner : Manner) (text : String) : List Char :=
  '"' :: (text.toList.flatMap manner.spell ++ ['"'])

def items (manner : Manner) : List String → List Char
  | [] => []
  | [text] => manner.quoted text
  | text :: next :: rest => manner.quoted text ++ ',' :: ' ' :: manner.items (next :: rest)

def array (manner : Manner) (texts : List String) : List Char := '[' :: (manner.items texts ++ [']'])

theorem contentRead (manner : Manner) (content rest : List Char) :
    basicFrom 0 (content.flatMap manner.spell ++ '"' :: rest) = .ok (content, rest) := by
  induction content with
  | nil => rfl
  | cons c content ih =>
    rw [List.flatMap_cons, List.append_assoc, spelledRead (manner.spelled c), ih]
    rfl

/- What follows a string must not make its closing quote one of three. -/
def Unquoted (rest : List Char) : Prop := rest.head? ≠ some '"'

theorem quotedShort (manner : Manner) (text : String) {rest : List Char} (after : Unquoted rest) :
    quotedString (manner.quoted text ++ rest) = shortString (manner.quoted text ++ rest) := by
  have once : ∀ below, manner.quoted text ++ rest ≠ '"' :: '"' :: '"' :: below := by
    intro below same
    cases content : text.toList with
    | nil =>
      simp only [quoted, content, List.flatMap_nil, List.nil_append, List.cons_append,
        List.cons.injEq, true_and] at same
      exact after (by rw [same]; rfl)
    | cons c content' =>
      obtain ⟨first, more, spells, other⟩ := spelledHead (manner.spelled c)
      simp only [quoted, content, List.flatMap_cons, spells, List.cons_append, List.cons.injEq,
        true_and] at same
      exact other same.1
  unfold quotedString
  split
  · exact absurd ‹_› (once _)
  · rename_i same
    cases same
  · rfl

theorem quotedRead (manner : Manner) (item : Reader Value) (text : String) {rest : List Char}
    (after : Unquoted rest) :
    valueWith item (manner.quoted text ++ rest) = .ok (.string text, rest) := by
  have short : shortString (manner.quoted text ++ rest) = .ok (text, rest) := by
    have content := contentRead manner text.toList rest
    rw [quoted, List.cons_append, List.append_assoc, List.singleton_append, shortString, content]
    exact congrArg (fun whole => Except.ok (whole, rest)) String.ofList_toList
  have read : (quotedString (manner.quoted text ++ rest)).map
      (fun found => (Value.string found.1, found.2)) = .ok (.string text, rest) := by
    rw [quotedShort manner text after, short]
    rfl
  exact read

theorem itemsLength (manner : Manner) (texts : List String) :
    texts.length ≤ (manner.items texts).length := by
  induction texts with
  | nil => exact Nat.le_refl _
  | cons text rest ih =>
    cases rest with
    | nil => simp [items, quoted]
    | cons next rest =>
      simp only [items, List.length_append, List.length_cons] at ih ⊢
      omega

theorem arrayItemsSpace (item : Reader Value) (bound : Nat) (text : List Char) :
    arrayItems item bound (' ' :: text) = arrayItems item bound text := by
  cases bound <;> rfl

section Items

variable (manner : Manner) {item : Reader Value}
  (each : ∀ text rest, Unquoted rest → item (manner.quoted text ++ rest) = .ok (.string text, rest))
include each

theorem itemLast (text : String) (bound : Nat) (rest : List Char) :
    arrayItems item (bound + 1) (manner.quoted text ++ ']' :: rest) = .ok ([.string text], rest) := by
  rw [arrayItems]
  split
  · rename_i closed
    exact absurd (List.cons.inj closed).1 (by decide)
  · change (item (manner.quoted text ++ ']' :: rest) >>= _) = _
    rw [each text _ (by simp [Unquoted])]
    rfl

theorem itemBefore (text : String) {bound : Nat} {more rest : List Char} {values : List Value}
    (later : arrayItems item bound more = .ok (values, rest)) :
    arrayItems item (bound + 1) (manner.quoted text ++ ',' :: more) =
      .ok (.string text :: values, rest) := by
  rw [arrayItems]
  split
  · rename_i closed
    exact absurd (List.cons.inj closed).1 (by decide)
  · change (item (manner.quoted text ++ ',' :: more) >>= _) = _
    rw [each text _ (by simp [Unquoted])]
    change (arrayItems item bound more >>= _) = _
    rw [later]
    rfl

theorem itemsRead (texts : List String) {bound : Nat} (enough : texts.length < bound)
    (rest : List Char) :
    arrayItems item bound (manner.items texts ++ ']' :: rest) = .ok (texts.map .string, rest) := by
  induction texts generalizing bound with
  | nil =>
    cases bound with
    | zero => contradiction
    | succ bound => rfl
  | cons text texts ih =>
    cases bound with
    | zero => contradiction
    | succ bound =>
      cases texts with
      | nil => exact itemLast manner each text bound rest
      | cons next texts =>
        have later := ih (Nat.lt_of_succ_lt_succ enough)
        rw [← arrayItemsSpace] at later
        rw [items, List.append_assoc]
        exact itemBefore manner each text later

end Items

theorem arrayRead (manner : Manner) {item : Reader Value}
    (each : ∀ text rest, Unquoted rest → item (manner.quoted text ++ rest) = .ok (.string text, rest))
    (texts : List String) (rest : List Char) :
    valueWith item (manner.array texts ++ rest) = .ok (.array (texts.map .string), rest) := by
  have spelled : manner.array texts ++ rest = '[' :: (manner.items texts ++ ']' :: rest) := by
    simp [array]
  have enough : texts.length < ('[' :: (manner.items texts ++ ']' :: rest)).length := by
    have atLeast := itemsLength manner texts
    simp only [List.length_cons, List.length_append]
    omega
  rw [spelled]
  change (arrayItems item _ (manner.items texts ++ ']' :: rest)).map
    (fun found => (Value.array found.1, found.2)) = _
  rw [itemsRead manner each texts enough]
  rfl

end Manner

end HouseStyle.Toml
