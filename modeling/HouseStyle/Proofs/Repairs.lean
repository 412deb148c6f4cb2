import HouseStyle.Proofs.Encodings
import HouseStyle.Source
import HouseStyle.Text.CodeRun

/-! Text that was repaired. Bytes below 0x80 are characters of their own and never part of another one,
so they cut a file into pieces that are read apart: whatever is broken between two of them stays there. -/
namespace HouseStyle.Text

theorem rangesHigh (first : UInt8) : ∀ range ∈ (tailRanges first).getD [], 0x80 ≤ range.1.toNat := by
  have lowest : (0x80 : UInt8).toNat = 0x80 := rfl
  rcases leadCases first with ⟨ranges, known, lead⟩ | ⟨unknown, _⟩
  · rw [known, Option.getD_some]
    cases lead with
    | one => simp
    | two => simp
    | three least most overlong lower => simp; omega
    | four least most overlong lower => simp; omega
  · rw [unknown, Option.getD_none]
    exact fun range member => absurd member List.not_mem_nil

theorem frontReach (first : UInt8) (bytes : List UInt8) :
    (front first bytes).2 = tailLength ((tailRanges first).getD []) bytes := by
  unfold front
  cases tailRanges first with
  | none => simp [tailLength]
  | some ranges =>
    simp only [Option.getD_some]
    split <;> rfl

theorem tailInside (ranges : List (UInt8 × UInt8)) (bytes : List UInt8) :
    tailLength ranges bytes ≤ bytes.length := by
  fun_induction tailLength ranges bytes with
  | case1 low high ranges byte bytes inside ih => exact Nat.succ_le_succ ih
  | case2 => exact Nat.zero_le _
  | case3 => exact Nat.zero_le _

theorem tailCut {ranges : List (UInt8 × UInt8)} (high : ∀ range ∈ ranges, 0x80 ≤ range.1.toNat)
    {a : UInt8} (ascii : a.toNat < 0x80) (before after : List UInt8) :
    tailLength ranges (before ++ a :: after) = tailLength ranges before := by
  induction before generalizing ranges with
  | nil =>
    cases ranges with
    | nil => simp [tailLength]
    | cons range ranges =>
      have least := high range List.mem_cons_self
      have outside : ¬ range.1 ≤ a := fun inside => by
        have reached := UInt8.le_iff_toNat_le.mp inside
        omega
      simp [tailLength, outside]
  | cons byte before ih =>
    cases ranges with
    | nil => simp [tailLength]
    | cons range ranges =>
      have later := ih fun other member => high other (List.mem_cons_of_mem _ member)
      rw [List.cons_append, tailLength, tailLength, later]

theorem tailHigh {ranges : List (UInt8 × UInt8)} (high : ∀ range ∈ ranges, 0x80 ≤ range.1.toNat)
    (bytes : List UInt8) : ∀ byte ∈ bytes.take (tailLength ranges bytes), 0x80 ≤ byte.toNat := by
  fun_induction tailLength ranges bytes with
  | case1 low top ranges byte bytes inside ih =>
    intro other member
    rw [List.take_succ_cons, List.mem_cons] at member
    rcases member with rfl | later
    · have least := high (low, top) List.mem_cons_self
      have reached := UInt8.le_iff_toNat_le.mp (of_decide_eq_true (Bool.and_eq_true_iff.mp inside).1)
      exact Nat.le_trans least reached
    · exact ih (fun range member => high range (List.mem_cons_of_mem _ member)) other later
  | case2 => simp
  | case3 => simp

theorem frontCut {a : UInt8} (ascii : a.toNat < 0x80) (first : UInt8) (before after : List UInt8) :
    front first (before ++ a :: after) = front first before := by
  have high := rangesHigh first
  unfold front
  cases known : tailRanges first with
  | none => rfl
  | some ranges =>
    rw [known, Option.getD_some] at high
    simp only [tailCut high ascii, List.take_append_of_le_length (tailInside ranges before)]

theorem asciiFront {a : UInt8} (ascii : a.toNat < 0x80) (bytes : List UInt8) :
    front a bytes = (some (Char.ofNat a.toNat), 0) :=
  frontSpelled (spellsOne (by omega) rfl) bytes

theorem decodeCut {a : UInt8} (ascii : a.toNat < 0x80) (covered : Nat) (before after : List UInt8)
    (inside : covered ≤ before.length) :
    decodeFrom covered (before ++ a :: after) =
      decodeFrom covered before ++ some (Char.ofNat a.toNat) :: decodeFrom 0 after := by
  induction before generalizing covered with
  | nil =>
    cases Nat.le_zero.mp inside
    simp only [List.nil_append, decodeFrom, asciiFront ascii]
  | cons byte before ih =>
    cases covered with
    | succ covered =>
      rw [List.cons_append, decodeFrom, decodeFrom]
      exact ih covered (Nat.le_of_succ_le_succ inside)
    | zero =>
      have reach : (front byte before).2 ≤ before.length := by
        rw [frontReach]
        exact tailInside _ _
      rw [List.cons_append, decodeFrom, decodeFrom, frontCut ascii, ih _ reach, List.cons_append]

def repaired (bytes : List UInt8) : List Char := (decode bytes).map (·.getD replacement)

theorem allFound (found : List (Option Char)) (text : List Char) :
    found.mapM id = some text ↔ found = text.map some := by
  induction found generalizing text with
  | nil => cases text <;> simp
  | cons first found ih =>
    cases first with
    | none => cases text <;> simp [bind]
    | some c =>
      cases text with
      | nil => simp [bind, Option.bind_eq_some_iff]
      | cons d text =>
        simp only [List.mapM_cons, id, bind, Option.bind_eq_some_iff, List.map_cons, List.cons.injEq,
          Option.some.injEq, ← ih]
        constructor
        · rintro ⟨_, rfl, rest, all, same⟩
          cases Option.some.inj same
          exact ⟨rfl, all⟩
        · rintro ⟨rfl, all⟩
          exact ⟨c, rfl, text, all, rfl⟩

theorem contentText (bytes : List UInt8) :
    (Content.ofBytes bytes).text = String.ofList (repaired bytes) := by
  unfold Content.ofBytes
  cases strict : strictText? bytes with
  | none => rfl
  | some text =>
    obtain ⟨chars, all, rfl⟩ := Option.map_eq_some_iff.mp strict
    rw [repaired, (allFound _ _).mp all, List.map_map]
    simp [Function.comp_def]

theorem repairedCut {a : UInt8} (ascii : a.toNat < 0x80) (before after : List UInt8) :
    repaired (before ++ a :: after) = repaired before ++ Char.ofNat a.toNat :: repaired after := by
  unfold repaired decode
  rw [decodeCut ascii 0 before after (Nat.zero_le _), List.map_append, List.map_cons, Option.getD_some]

theorem charNat {n : Nat} (valid : n.isValidChar) : (Char.ofNat n).toNat = n := by
  rw [Char.ofNat, dif_pos valid]
  rfl

theorem frontHigh {first : UInt8} (high : 0x80 ≤ first.toNat) (bytes : List UInt8) :
    isAscii ((front first bytes).1.getD replacement) = false := by
  cases found : (front first bytes).1 with
  | none => rfl
  | some c =>
    obtain ⟨tail, code, spells, rfl⟩ := frontFound found
    obtain ⟨valid, several⟩ := spellsValid spells
    have beyond := several high
    rw [Option.getD_some, isAscii, charNat valid]
    exact decide_eq_false (by omega)

theorem frontCovers (first : UInt8) (bytes : List UInt8) :
    (bytes.drop (front first bytes).2).filter (· < 0x80) = bytes.filter (· < 0x80) := by
  have covered : (bytes.take (front first bytes).2).filter (· < 0x80) = [] := by
    rw [List.filter_eq_nil_iff, frontReach]
    intro byte member
    have high := tailHigh (rangesHigh first) bytes byte member
    have lowest : (0x80 : UInt8).toNat = 0x80 := rfl
    rw [decide_eq_true_eq, UInt8.lt_iff_toNat_lt]
    omega
  calc (bytes.drop (front first bytes).2).filter (· < 0x80)
      = (bytes.take (front first bytes).2 ++ bytes.drop (front first bytes).2).filter (· < 0x80) := by
        rw [List.filter_append, covered, List.nil_append]
    _ = bytes.filter (· < 0x80) := by rw [List.take_append_drop]

/- The induction follows the reading: covered bytes are no ASCII ones, and neither is what they spell. -/
theorem asciiKept (covered : Nat) (bytes : List UInt8) :
    ((decodeFrom covered bytes).map (·.getD replacement)).filter isAscii =
      ((bytes.drop covered).filter (· < 0x80)).map fun byte => Char.ofNat byte.toNat := by
  induction bytes generalizing covered with
  | nil => simp [decodeFrom]
  | cons byte bytes ih =>
    cases covered with
    | succ covered => exact ih covered
    | zero =>
      rw [decodeFrom, List.map_cons, List.filter_cons, ih, List.drop_zero, List.filter_cons]
      by_cases ascii : byte.toNat < 0x80
      · have below : byte < 0x80 := UInt8.lt_iff_toNat_lt.mpr ascii
        have kept : isAscii (Char.ofNat byte.toNat) = true := by
          rw [isAscii, charNat (Or.inl (by omega))]
          exact decide_eq_true ascii
        rw [asciiFront ascii, Option.getD_some, if_pos kept, if_pos (decide_eq_true below), List.map_cons,
          List.drop_zero]
      · have above : ¬ byte < 0x80 := fun below => ascii (UInt8.lt_iff_toNat_lt.mp below)
        rw [frontHigh (by omega) bytes, if_neg Bool.false_ne_true, if_neg (by simpa using above), frontCovers]

theorem repairedAscii (bytes : List UInt8) :
    (repaired bytes).filter isAscii =
      (bytes.filter (· < 0x80)).map fun byte => Char.ofNat byte.toNat := by
  have kept := asciiKept 0 bytes
  rwa [List.drop_zero] at kept

theorem feedKept (bytes : List UInt8) : '\n' ∈ repaired bytes ↔ 0x0A ∈ bytes := by
  have feed (byte : UInt8) : Char.ofNat byte.toNat = '\n' ↔ byte = 0x0A := by
    constructor
    · intro same
      have bound := byte.toNat_lt
      have code := congrArg Char.toNat same
      rw [charNat (Or.inl (by omega))] at code
      exact UInt8.toNat_inj.mp code
    · rintro rfl
      rfl
  calc '\n' ∈ repaired bytes
      ↔ '\n' ∈ (repaired bytes).filter isAscii := by simp [isAscii]
    _ ↔ '\n' ∈ (bytes.filter (· < 0x80)).map fun byte => Char.ofNat byte.toNat := by
      rw [repairedAscii]
    _ ↔ 0x0A ∈ bytes := by simp [feed]

/- The induction is on the length of the file, by its first line. -/
theorem linesRepaired (size : Nat) (bytes : List UInt8) (bound : bytes.length ≤ size) :
    (repaired bytes).splitOn '\n' = (bytes.splitOn 0x0A).map repaired := by
  induction size generalizing bytes with
  | zero =>
    cases List.length_eq_zero_iff.mp (Nat.le_zero.mp bound)
    rfl
  | succ size ih =>
    by_cases broken : 0x0A ∈ bytes
    · obtain ⟨line, rest, rfl, whole⟩ := List.eq_append_cons_of_mem broken
      have apart : '\n' ∉ repaired line := mt (feedKept line).mp whole
      have cut : repaired (line ++ 0x0A :: rest) = repaired line ++ '\n' :: repaired rest :=
        repairedCut (by decide) line rest
      simp only [List.length_append, List.length_cons] at bound
      rw [cut, List.splitOn_append_cons_self_of_not_mem apart,
        List.splitOn_append_cons_self_of_not_mem whole, ih rest (by omega), List.map_cons]
    · rw [List.splitOn_eq_singleton (mt (feedKept bytes).mp broken), List.splitOn_eq_singleton broken]
      rfl

theorem wholeText (text : String) : Content.ofBytes text.toUTF8.data.toList = ⟨text, false⟩ := by
  have strict : strictText? text.toUTF8.data.toList = some text := by
    rw [strictText?, decodeText, (allFound _ _).mpr rfl, Option.map_some, String.ofList_toList]
  unfold Content.ofBytes
  rw [strict]

theorem decodingCutsAtAscii :
    (∀ text : String, Content.ofBytes text.toUTF8.data.toList = ⟨text, false⟩) ∧
    (∀ (before after : List UInt8) (a : UInt8), a < 0x80 →
      (Content.ofBytes (before ++ [a] ++ after)).text =
        (Content.ofBytes before).text ++ String.singleton (Char.ofNat a.toNat) ++
          (Content.ofBytes after).text) ∧
    (∀ bytes : List UInt8, (Content.ofBytes bytes).text.toList.filter isAscii =
      (bytes.filter (· < 0x80)).map fun byte => Char.ofNat byte.toNat) ∧
    ∀ bytes : List UInt8, (Content.ofBytes bytes).text.toList.splitOn '\n' =
      (bytes.splitOn 0x0A).map fun line => (Content.ofBytes line).text.toList := by
  refine ⟨wholeText, ?_, ?_, ?_⟩
  · intro before after a ascii
    have cut := repairedCut (UInt8.lt_iff_toNat_lt.mp ascii) before after
    simp only [contentText, List.append_assoc, List.singleton_append, cut, ← String.toList_inj,
      String.toList_append, String.toList_ofList, String.toList_singleton]
  · intro bytes
    rw [contentText, String.toList_ofList, repairedAscii]
  · intro bytes
    simp only [contentText, String.toList_ofList]
    exact linesRepaired bytes.length bytes (Nat.le_refl _)

theorem decodingCutsAtAsciiSample :
    let broken : List UInt8 := [0x61, 0xE2, 0x82]
    let stray : List UInt8 := [0x80, 0xC3, 0xA9, 0xF0, 0x9F]
    (0x0A : UInt8) < 0x80 ∧
    (Content.ofBytes broken).text = "a\uFFFD" ∧ (Content.ofBytes stray).text = "\uFFFDé\uFFFD" ∧
    (Content.ofBytes (broken ++ [0x0A] ++ stray)).text = "a\uFFFD\n\uFFFDé\uFFFD" := by
  intro broken stray
  have first : (Content.ofBytes broken).text = "a\uFFFD" := by decide +kernel
  have second : (Content.ofBytes stray).text = "\uFFFDé\uFFFD" := by decide +kernel
  have cut := decodingCutsAtAscii.2.1 broken stray 0x0A (by decide)
  rw [first, second] at cut
  exact ⟨by decide, first, second, cut.trans (by decide +kernel)⟩

end HouseStyle.Text
