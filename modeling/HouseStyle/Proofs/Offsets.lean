import HouseStyle.Proofs.Windows
import Mathlib.Data.String.Basic

/-! Windows by byte offsets. A text can be cut between two of its characters and nowhere else, so an
offset inside a character is refused. A function is found between characters, and from there back a
window has as many characters as it is wide, unless the text has fewer: cutting it out by offsets
cannot fail, and gives the characters that the search remembers. -/
namespace HouseStyle.Text

def slice (text : String) (start stop : Nat) : Option String :=
  if start ≤ stop ∧ String.Pos.Raw.isValid text ⟨start⟩ ∧ String.Pos.Raw.isValid text ⟨stop⟩ then
    some (String.Pos.Raw.extract text ⟨start⟩ ⟨stop⟩)
  else none

def starts (offset : Nat) : (text : List Char) → List Nat
  | [] => []
  | c :: text => offset :: starts (offset + c.utf8Size) text

/- Where a window at the end of `head` begins: at the `width`-th character from the end, or at the
first one where there are not so many. -/
def windowStart (head : String) (stop width : Nat) : Nat :=
  if width = 0 then stop else (starts 0 head.toList).reverse[width - 1]?.getD 0

def windowBefore (text : String) (stop width : Nat) : Option String := do
  let head ← slice text 0 stop
  slice head (windowStart head stop width) head.utf8ByteSize

def Occurrence.offset {α : Type} (found : Occurrence α) : Nat := String.utf8Len found.before

theorem validIff (text : String) (offset : Nat) :
    String.Pos.Raw.isValid text ⟨offset⟩ = true ↔
      ∃ front rest, text.toList = front ++ rest ∧ offset = String.utf8Len front := by
  rw [String.Pos.Raw.isValid_eq_true_iff, String.Pos.Raw.isValid_iff_exists_append]
  constructor
  · rintro ⟨front, rest, rfl, place⟩
    refine ⟨front.toList, rest.toList, String.toList_append, ?_⟩
    rw [String.utf8Len_toList]
    exact congrArg String.Pos.Raw.byteIdx place
  · rintro ⟨front, rest, split, rfl⟩
    refine ⟨String.ofList front, String.ofList rest, ?_, ?_⟩
    · rw [← String.ofList_append, ← split, String.ofList_toList]
    · rw [String.rawEndPos, String.utf8ByteSize_ofList]

theorem frontWithin {front after whole rest : List Char} (same : front ++ after = whole ++ rest)
    (within : String.utf8Len front ≤ String.utf8Len whole) : ∃ part, whole = front ++ part := by
  rcases List.append_eq_append_iff.mp same with ⟨part, longer, _⟩ | ⟨part, rfl, _⟩
  · exact ⟨part, longer⟩
  · rw [String.utf8Len_append] at within
    have none : part = [] := String.utf8Len_eq_zero.mp (by omega)
    exact ⟨[], by simp [none]⟩

theorem extractPart {text : String} {front part rest : List Char}
    (split : text.toList = front ++ part ++ rest) :
    String.Pos.Raw.extract text ⟨String.utf8Len front⟩
      ⟨String.utf8Len front + String.utf8Len part⟩ = String.ofList part := by
  rw [← String.ofList_toList (s := text), split]
  exact String.extract_of_valid front part rest

theorem sliceIff (text part : String) (start stop : Nat) :
    slice text start stop = some part ↔
      ∃ front rest, text.toList = front ++ part.toList ++ rest ∧
        start = String.utf8Len front ∧ stop = start + part.utf8ByteSize := by
  unfold slice
  constructor
  · intro sliced
    split at sliced <;> try contradiction
    rename_i valid
    obtain ⟨within, starting, stopping⟩ := valid
    -- either offset splits the text, and the first split lies in the front that the second one leaves
    obtain ⟨front, after, before, rfl⟩ := (validIff text start).mp starting
    obtain ⟨whole, rest, split, rfl⟩ := (validIff text stop).mp stopping
    obtain ⟨inside, rfl⟩ := frontWithin (before.symm.trans split) within
    rw [String.utf8Len_append, extractPart split] at sliced
    cases Option.some.inj sliced
    refine ⟨front, rest, by rw [split, String.toList_ofList], rfl, ?_⟩
    rw [String.utf8Len_append, String.utf8ByteSize_ofList]
  · rintro ⟨front, rest, split, rfl, rfl⟩
    have starting := (validIff text (String.utf8Len front)).mpr
      ⟨front, part.toList ++ rest, by rw [split, List.append_assoc], rfl⟩
    have stopping := (validIff text (String.utf8Len front + part.utf8ByteSize)).mpr
      ⟨front ++ part.toList, rest, split, by rw [String.utf8Len_append, String.utf8Len_toList]⟩
    have extracted := extractPart split
    rw [String.utf8Len_toList, String.ofList_toList] at extracted
    rw [if_pos ⟨Nat.le_add_right _ _, starting, stopping⟩, extracted]

theorem sliceFront (text head : String) (stop : Nat) :
    slice text 0 stop = some head ↔
      ∃ rest, text.toList = head.toList ++ rest ∧ stop = head.utf8ByteSize := by
  rw [sliceIff]
  constructor
  · rintro ⟨front, rest, split, start, rfl⟩
    cases String.utf8Len_eq_zero.mp start.symm
    exact ⟨rest, split, Nat.zero_add _⟩
  · rintro ⟨rest, split, rfl⟩
    exact ⟨[], rest, split, rfl, (Nat.zero_add _).symm⟩

theorem sliceBack (text : String) {front back : List Char} (split : text.toList = front ++ back) :
    slice text (String.utf8Len front) text.utf8ByteSize = some (String.ofList back) := by
  rw [sliceIff]
  refine ⟨front, [], by rw [split, String.toList_ofList, List.append_nil], rfl, ?_⟩
  rw [← String.utf8Len_toList, split, String.utf8Len_append, String.utf8ByteSize_ofList]

theorem startsLength (offset : Nat) (text : List Char) : (starts offset text).length = text.length := by
  induction text generalizing offset with
  | nil => rfl
  | cons c text ih => rw [starts, List.length_cons, ih, List.length_cons]

theorem startsAt (offset : Nat) {text : List Char} {place : Nat} (inside : place < text.length) :
    (starts offset text)[place]? = some (offset + String.utf8Len (text.take place)) := by
  induction text generalizing offset place with
  | nil => contradiction
  | cons c text ih =>
    cases place with
    | zero => rfl
    | succ place =>
      rw [starts, List.getElem?_cons_succ, ih _ (Nat.lt_of_succ_lt_succ inside), List.take_succ_cons,
        String.utf8Len_cons]
      congr 1
      omega

theorem windowStartFront (head : String) (width : Nat) :
    windowStart head head.utf8ByteSize width =
      String.utf8Len (head.toList.take (head.length - width)) := by
  rw [← String.length_toList]
  unfold windowStart
  split
  · rename_i none
    rw [none, Nat.sub_zero, List.take_length, String.utf8Len_toList]
  · rename_i wide
    by_cases short : head.toList.length < width
    · -- counting back ends before it reaches `width`, and the window is the whole of `head`
      have past : (starts 0 head.toList).reverse.length ≤ width - 1 := by
        rw [List.length_reverse, startsLength]
        omega
      have whole : head.toList.length - width = 0 := by omega
      rw [List.getElem?_eq_none past, whole]
      rfl
    · have inside : width - 1 < (starts 0 head.toList).length := by
        rw [startsLength]
        omega
      have place : head.toList.length - 1 - (width - 1) = head.toList.length - width := by omega
      rw [List.getElem?_reverse inside, startsLength, place, startsAt 0 (by omega), Nat.zero_add]
      rfl

theorem windowIff (text window : String) (stop width : Nat) :
    windowBefore text stop width = some window ↔
      ∃ head, slice text 0 stop = some head ∧
        window.toList = head.toList.drop (head.length - width) := by
  have back (head : String) : slice head (windowStart head head.utf8ByteSize width) head.utf8ByteSize =
      some (String.ofList (head.toList.drop (head.length - width))) := by
    rw [windowStartFront]
    exact sliceBack head (List.take_append_drop _ _).symm
  rw [windowBefore, Option.bind_eq_bind, Option.bind_eq_some_iff]
  refine exists_congr fun head => and_congr_right fun sliced => ?_
  obtain ⟨_, _, rfl⟩ := (sliceFront text head stop).mp sliced
  rw [back, Option.some_inj, ← String.toList_inj, String.toList_ofList, eq_comm]

example : windowBefore "aé" 2 1 = none ∧ windowBefore "aé" 3 1 = some "é" := by
  decide +kernel

end HouseStyle.Text

namespace HouseStyle.FunctionNames
open Text Declaration

theorem windowsBetweenCharacters (text : String) (width : Nat) (found : Occurrence String)
    (member : found ∈ occurrences (function freeHead) text.toList) :
    ∃ head rest left, slice text 0 found.offset = some head ∧
      slice text found.offset text.utf8ByteSize = some rest ∧
      function freeHead found.before rest.toList = some (found.value, left) ∧
      windowBefore text found.offset width = some (String.ofList (found.context width)) ∧
      found.context width <:+ head.toList ∧ (found.context width).length = min width head.length := by
  obtain ⟨front, rest, left, split, place, read⟩ := occurrencePlace member
  rw [List.append_nil] at place
  have offset : found.offset = String.utf8Len front := by
    rw [Occurrence.offset, place, String.utf8Len_reverse]
  have context : found.context width = front.drop (front.length - width) := by
    rw [Occurrence.context, place, List.reverse_take, List.reverse_reverse, List.length_reverse]
  have head : slice text 0 found.offset = some (String.ofList front) := by
    rw [sliceFront, String.toList_ofList, String.utf8ByteSize_ofList]
    exact ⟨rest, split, offset⟩
  refine ⟨String.ofList front, String.ofList rest, left, head, ?_, ?_, ?_, ?_, ?_⟩
  · rw [offset]
    exact sliceBack text split
  · rw [String.toList_ofList]
    exact read
  · refine (windowIff _ _ _ _).mpr ⟨_, head, ?_⟩
    rw [String.toList_ofList, String.toList_ofList, String.length_ofList, context]
  · rw [context, String.toList_ofList]
    exact List.drop_suffix _ front
  · rw [context, String.length_ofList, List.length_drop]
    omega

theorem windowsBetweenCharactersSample :
    let text := "é😀::\u2003\nint Foo() {}"
    let found : Occurrence String := ⟨"Foo", ['\n', '\u2003', ':', ':', '😀', 'é']⟩
    (found ∈ occurrences (function freeHead) text.toList ∧ found.offset = 12) ∧
    windowBefore text found.offset 0 = some "" ∧
    windowBefore text found.offset 5 = some "😀::\u2003\n" ∧
    windowBefore text found.offset 6 = some "é😀::\u2003\n" ∧
    windowBefore text found.offset 18446744073709551615 = some "é😀::\u2003\n" := by
  intro text found
  have member : found ∈ occurrences (function freeHead) text.toList := by decide +kernel
  have cut (width : Nat) :
      windowBefore text found.offset width = some (String.ofList (found.context width)) := by
    obtain ⟨_, _, _, _, _, _, window, _⟩ := windowsBetweenCharacters text width found member
    exact window
  exact ⟨⟨member, by decide +kernel⟩, (cut 0).trans (by decide +kernel), (cut 5).trans (by decide +kernel),
    (cut 6).trans (by decide +kernel), (cut _).trans (by decide +kernel)⟩

end HouseStyle.FunctionNames
