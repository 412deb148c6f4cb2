import HouseStyle.Text.Utf8

/-! How bytes spell characters: one to four of them, each in a range that the first one lays down. Reading
finds a character exactly where one is spelled, and reads back every text that was written. -/
namespace HouseStyle.Text

inductive Within : (ranges : List (UInt8 × UInt8)) → (tail : List UInt8) → Prop where
  | nil : Within [] []
  | cons {low high byte : UInt8} {ranges : List (UInt8 × UInt8)} {tail : List UInt8}
      (least : low.toNat ≤ byte.toNat) (most : byte.toNat ≤ high.toNat) (later : Within ranges tail) :
      Within ((low, high) :: ranges) (byte :: tail)

inductive Lead (first : UInt8) : (ranges : List (UInt8 × UInt8)) → Prop where
  | one (most : first.toNat < 0x80) : Lead first []
  | two (least : 0xC2 ≤ first.toNat) (most : first.toNat < 0xE0) : Lead first [(0x80, 0xBF)]
  | three {low high : UInt8} (least : 0xE0 ≤ first.toNat) (most : first.toNat < 0xF0)
      (overlong : first.toNat = 0xE0 → low.toNat = 0xA0) (lower : first.toNat ≠ 0xE0 → low.toNat = 0x80)
      (surrogate : first.toNat = 0xED → high.toNat = 0x9F) (upper : first.toNat ≠ 0xED → high.toNat = 0xBF) :
      Lead first [(low, high), (0x80, 0xBF)]
  | four {low high : UInt8} (least : 0xF0 ≤ first.toNat) (most : first.toNat < 0xF5)
      (overlong : first.toNat = 0xF0 → low.toNat = 0x90) (lower : first.toNat ≠ 0xF0 → low.toNat = 0x80)
      (beyond : first.toNat = 0xF4 → high.toNat = 0x8F) (upper : first.toNat ≠ 0xF4 → high.toNat = 0xBF) :
      Lead first [(low, high), (0x80, 0xBF), (0x80, 0xBF)]

theorem tailRangesNat (first : UInt8) :
    tailRanges first =
      if first.toNat < 0x80 then some []
      else if first.toNat < 0xC2 then none
      else if first.toNat < 0xE0 then some [(0x80, 0xBF)]
      else if first.toNat = 0xE0 then some [(0xA0, 0xBF), (0x80, 0xBF)]
      else if first.toNat = 0xED then some [(0x80, 0x9F), (0x80, 0xBF)]
      else if first.toNat < 0xF0 then some [(0x80, 0xBF), (0x80, 0xBF)]
      else if first.toNat = 0xF0 then some [(0x90, 0xBF), (0x80, 0xBF), (0x80, 0xBF)]
      else if first.toNat < 0xF4 then some [(0x80, 0xBF), (0x80, 0xBF), (0x80, 0xBF)]
      else if first.toNat = 0xF4 then some [(0x80, 0x8F), (0x80, 0xBF), (0x80, 0xBF)]
      else none := by
  simp only [tailRanges, UInt8.lt_iff_toNat_lt, ← UInt8.toNat_inj]
  rfl

theorem leadCases (first : UInt8) :
    (∃ ranges, tailRanges first = some ranges ∧ Lead first ranges) ∨
      tailRanges first = none ∧ (0x80 ≤ first.toNat ∧ first.toNat < 0xC2 ∨ 0xF5 ≤ first.toNat) := by
  rw [tailRangesNat]
  by_cases ascii : first.toNat < 0x80
  · rw [if_pos ascii]
    exact Or.inl ⟨_, rfl, .one ascii⟩
  rw [if_neg ascii]
  by_cases stray : first.toNat < 0xC2
  · rw [if_pos stray]
    exact Or.inr ⟨rfl, Or.inl ⟨by omega, stray⟩⟩
  rw [if_neg stray]
  by_cases two : first.toNat < 0xE0
  · rw [if_pos two]
    exact Or.inl ⟨_, rfl, .two (by omega) two⟩
  rw [if_neg two]
  by_cases least : first.toNat = 0xE0
  · rw [if_pos least]
    exact Or.inl ⟨_, rfl, .three (by omega) (by omega) (fun _ => rfl) (by omega) (by omega) (fun _ => rfl)⟩
  rw [if_neg least]
  by_cases surrogate : first.toNat = 0xED
  · rw [if_pos surrogate]
    exact Or.inl ⟨_, rfl, .three (by omega) (by omega) (by omega) (fun _ => rfl) (fun _ => rfl) (by omega)⟩
  rw [if_neg surrogate]
  by_cases three : first.toNat < 0xF0
  · rw [if_pos three]
    exact Or.inl ⟨_, rfl, .three (by omega) three (by omega) (fun _ => rfl) (by omega) (fun _ => rfl)⟩
  rw [if_neg three]
  by_cases fewest : first.toNat = 0xF0
  · rw [if_pos fewest]
    exact Or.inl ⟨_, rfl, .four (by omega) (by omega) (fun _ => rfl) (by omega) (by omega) (fun _ => rfl)⟩
  rw [if_neg fewest]
  by_cases four : first.toNat < 0xF4
  · rw [if_pos four]
    exact Or.inl ⟨_, rfl, .four (by omega) (by omega) (by omega) (fun _ => rfl) (by omega) (fun _ => rfl)⟩
  rw [if_neg four]
  by_cases last : first.toNat = 0xF4
  · rw [if_pos last]
    exact Or.inl ⟨_, rfl, .four (by omega) (by omega) (by omega) (fun _ => rfl) (fun _ => rfl) (by omega)⟩
  rw [if_neg last]
  exact Or.inr ⟨rfl, Or.inr (by omega)⟩

theorem leadOf {first : UInt8} {ranges : List (UInt8 × UInt8)} (known : tailRanges first = some ranges) :
    Lead first ranges := by
  rcases leadCases first with ⟨others, same, lead⟩ | ⟨unknown, _⟩
  · cases Option.some.inj (known.symm.trans same)
    exact lead
  · rw [unknown] at known
    contradiction

theorem leadKnown (first : UInt8) (leads : first.toNat < 0x80 ∨ 0xC2 ≤ first.toNat ∧ first.toNat < 0xF5) :
    ∃ ranges, tailRanges first = some ranges ∧ Lead first ranges := by
  rcases leadCases first with found | ⟨_, outside⟩
  · exact found
  · omega

theorem tailRead {ranges : List (UInt8 × UInt8)} {tail : List UInt8} (within : Within ranges tail)
    (rest : List UInt8) :
    tailLength ranges (tail ++ rest) = ranges.length ∧ tail.length = ranges.length := by
  induction within with
  | nil => exact ⟨by simp [tailLength], rfl⟩
  | cons least most later ih =>
    have inside := Bool.and_eq_true_iff.mpr
      ⟨decide_eq_true (UInt8.le_iff_toNat_le.mpr least), decide_eq_true (UInt8.le_iff_toNat_le.mpr most)⟩
    refine ⟨?_, by rw [List.length_cons, List.length_cons, ih.2]⟩
    rw [List.cons_append, tailLength, if_pos inside, ih.1, List.length_cons]

theorem tailWithin {ranges : List (UInt8 × UInt8)} {bytes : List UInt8}
    (complete : tailLength ranges bytes = ranges.length) :
    ∃ tail rest, bytes = tail ++ rest ∧ Within ranges tail := by
  fun_induction tailLength ranges bytes with
  | case1 low high ranges byte bytes inside ih =>
    obtain ⟨tail, rest, rfl, within⟩ := ih (Nat.succ.inj complete)
    obtain ⟨least, most⟩ := Bool.and_eq_true_iff.mp inside
    have low := UInt8.le_iff_toNat_le.mp (of_decide_eq_true least)
    have high := UInt8.le_iff_toNat_le.mp (of_decide_eq_true most)
    exact ⟨byte :: tail, rest, rfl, .cons low high within⟩
  | case2 low high ranges byte bytes outside => cases complete
  | case3 ranges bytes short =>
    cases List.length_eq_zero_iff.mp complete.symm
    exact ⟨[], bytes, rfl, .nil⟩

theorem withinNil {tail : List UInt8} (within : Within [] tail) : tail = [] := by
  cases within
  rfl

theorem withinCons {low high : UInt8} {ranges : List (UInt8 × UInt8)} {tail : List UInt8}
    (within : Within ((low, high) :: ranges) tail) :
    ∃ byte rest, tail = byte :: rest ∧ low.toNat ≤ byte.toNat ∧ byte.toNat ≤ high.toNat ∧
      Within ranges rest := by
  cases within with
  | cons least most later => exact ⟨_, _, rfl, least, most, later⟩

structure Spells (first : UInt8) (tail : List UInt8) (code : Nat) : Prop where
  within : ∃ ranges, tailRanges first = some ranges ∧ Within ranges tail
  code : codeOf first tail = code

theorem spellsValid {first : UInt8} {tail : List UInt8} {code : Nat} (spells : Spells first tail code) :
    code.isValidChar ∧ (0x80 ≤ first.toNat → 0x80 ≤ code) := by
  have lowest : (0x80 : UInt8).toNat = 0x80 := rfl
  have highest : (0xBF : UInt8).toNat = 0xBF := rfl
  obtain ⟨⟨ranges, known, within⟩, rfl⟩ := spells
  cases leadOf known with
  | one most =>
    cases withinNil within
    have code : codeOf first [] = first.toNat := rfl
    rw [code]
    exact ⟨Or.inl (by omega), id⟩
  | two least most =>
    obtain ⟨second, rest, rfl, least₂, most₂, within⟩ := withinCons within
    cases withinNil within
    have code : codeOf first [second] = first.toNat % 0x20 * 0x40 + second.toNat % 0x40 := rfl
    rw [code]
    exact ⟨Or.inl (by omega), fun _ => by omega⟩
  | three least most overlong lower surrogate upper =>
    obtain ⟨second, rest, rfl, least₂, most₂, within⟩ := withinCons within
    obtain ⟨third, rest, rfl, least₃, most₃, within⟩ := withinCons within
    cases withinNil within
    have code : codeOf first [second, third] =
        (first.toNat % 0x10 * 0x40 + second.toNat % 0x40) * 0x40 + third.toNat % 0x40 := rfl
    rw [code, Nat.isValidChar]
    omega
  | four least most overlong lower beyond upper =>
    obtain ⟨second, rest, rfl, least₂, most₂, within⟩ := withinCons within
    obtain ⟨third, rest, rfl, least₃, most₃, within⟩ := withinCons within
    obtain ⟨fourth, rest, rfl, least₄, most₄, within⟩ := withinCons within
    cases withinNil within
    have code : codeOf first [second, third, fourth] =
        ((first.toNat % 0x08 * 0x40 + second.toNat % 0x40) * 0x40 + third.toNat % 0x40) * 0x40 +
          fourth.toNat % 0x40 := rfl
    rw [code, Nat.isValidChar]
    omega

/- The spelling of a code, by the number of its bytes. The first byte allows no other number. -/
section Spelling

variable {n : Nat} {first second third fourth : UInt8}

theorem spellsOne (most : n ≤ 0x7F) (one : first.toNat = n) : Spells first [] n := by
  obtain ⟨ranges, known, lead⟩ := leadKnown first (Or.inl (by omega))
  refine ⟨⟨ranges, known, ?_⟩, one⟩
  cases lead with
  | one => exact .nil
  | _ => omega

theorem spellsTwo (least : 0x80 ≤ n) (most : n ≤ 0x7FF) (one : first.toNat = n / 0x40 % 0x20 + 0xC0)
    (two : second.toNat = n % 0x40 + 0x80) : Spells first [second] n := by
  have lowest : (0x80 : UInt8).toNat = 0x80 := rfl
  have highest : (0xBF : UInt8).toNat = 0xBF := rfl
  obtain ⟨ranges, known, lead⟩ := leadKnown first (Or.inr (by omega))
  refine ⟨⟨ranges, known, ?_⟩, ?_⟩
  · cases lead with
    | two => exact .cons (by omega) (by omega) .nil
    | _ => omega
  · change first.toNat % 0x20 * 0x40 + second.toNat % 0x40 = n
    omega

theorem spellsThree (least : 0x800 ≤ n) (most : n ≤ 0xFFFF) (valid : n.isValidChar)
    (one : first.toNat = n / 0x1000 % 0x10 + 0xE0) (two : second.toNat = n / 0x40 % 0x40 + 0x80)
    (three : third.toNat = n % 0x40 + 0x80) : Spells first [second, third] n := by
  have lowest : (0x80 : UInt8).toNat = 0x80 := rfl
  have highest : (0xBF : UInt8).toNat = 0xBF := rfl
  rw [Nat.isValidChar] at valid
  obtain ⟨ranges, known, lead⟩ := leadKnown first (Or.inr (by omega))
  refine ⟨⟨ranges, known, ?_⟩, ?_⟩
  · cases lead with
    | three => exact .cons (by omega) (by omega) (.cons (by omega) (by omega) .nil)
    | _ => omega
  · change (first.toNat % 0x10 * 0x40 + second.toNat % 0x40) * 0x40 + third.toNat % 0x40 = n
    omega

theorem spellsFour (least : 0x10000 ≤ n) (valid : n.isValidChar)
    (one : first.toNat = n / 0x40000 % 0x08 + 0xF0) (two : second.toNat = n / 0x1000 % 0x40 + 0x80)
    (three : third.toNat = n / 0x40 % 0x40 + 0x80) (four : fourth.toNat = n % 0x40 + 0x80) :
    Spells first [second, third, fourth] n := by
  have lowest : (0x80 : UInt8).toNat = 0x80 := rfl
  have highest : (0xBF : UInt8).toNat = 0xBF := rfl
  rw [Nat.isValidChar] at valid
  obtain ⟨ranges, known, lead⟩ := leadKnown first (Or.inr (by omega))
  refine ⟨⟨ranges, known, ?_⟩, ?_⟩
  · cases lead with
    | four => exact .cons (by omega) (by omega) (.cons (by omega) (by omega) (.cons (by omega) (by omega) .nil))
    | _ => omega
  · change ((first.toNat % 0x08 * 0x40 + second.toNat % 0x40) * 0x40 + third.toNat % 0x40) * 0x40 +
      fourth.toNat % 0x40 = n
    omega

end Spelling

theorem byteNat {n : Nat} (small : n < 0x100) : (UInt8.ofNat n).toNat = n :=
  UInt8.toNat_ofNat_of_lt' small

theorem encodedSpells (c : Char) :
    ∃ first tail, String.utf8EncodeChar c = first :: tail ∧ Spells first tail c.toNat := by
  have valid : c.toNat.isValidChar := c.valid
  have code : c.val.toNat = c.toNat := rfl
  rw [String.utf8EncodeChar, code]
  generalize c.toNat = n at valid
  by_cases one : n ≤ 0x7F
  · rw [if_pos one]
    exact ⟨_, _, rfl, spellsOne one (byteNat (by omega))⟩
  rw [if_neg one]
  by_cases two : n ≤ 0x7FF
  · rw [if_pos two]
    exact ⟨_, _, rfl, spellsTwo (by omega) two (byteNat (by omega)) (byteNat (by omega))⟩
  rw [if_neg two]
  by_cases three : n ≤ 0xFFFF
  · rw [if_pos three]
    exact ⟨_, _, rfl, spellsThree (by omega) three valid (byteNat (by omega)) (byteNat (by omega))
      (byteNat (by omega))⟩
  rw [if_neg three]
  exact ⟨_, _, rfl, spellsFour (by omega) valid (byteNat (by omega)) (byteNat (by omega))
    (byteNat (by omega)) (byteNat (by omega))⟩

theorem frontSpelled {first : UInt8} {tail : List UInt8} {code : Nat} (spells : Spells first tail code)
    (rest : List UInt8) : front first (tail ++ rest) = (some (Char.ofNat code), tail.length) := by
  obtain ⟨⟨ranges, known, within⟩, rfl⟩ := spells
  obtain ⟨complete, length⟩ := tailRead within rest
  unfold front
  simp only [known, complete, if_true]
  rw [← length, List.take_left]

theorem frontFound {first : UInt8} {bytes : List UInt8} {c : Char} (found : (front first bytes).1 = some c) :
    ∃ tail code, Spells first tail code ∧ c = Char.ofNat code := by
  unfold front at found
  cases known : tailRanges first with
  | none =>
    rw [known] at found
    cases found
  | some ranges =>
    simp only [known] at found
    split at found
    · rename_i complete
      obtain ⟨tail, rest, rfl, within⟩ := tailWithin complete
      obtain ⟨_, length⟩ := tailRead within rest
      rw [complete, ← length, List.take_left] at found
      exact ⟨tail, _, ⟨⟨ranges, known, within⟩, rfl⟩, (Option.some.inj found).symm⟩
    · cases found

theorem decodeCovered (tail rest : List UInt8) : decodeFrom tail.length (tail ++ rest) = decode rest := by
  induction tail with
  | nil => rfl
  | cons byte tail ih => exact ih

theorem decodeEncoded (c : Char) (rest : List UInt8) :
    decode (String.utf8EncodeChar c ++ rest) = some c :: decode rest := by
  obtain ⟨first, tail, spelled, spells⟩ := encodedSpells c
  rw [spelled, List.cons_append, decode, decodeFrom, frontSpelled spells, decodeCovered, Char.ofNat_toNat]

theorem encodedBytes (text : String) :
    text.toUTF8.data.toList = text.toList.flatMap String.utf8EncodeChar := by
  have spelled : text.toByteArray = text.toList.utf8Encode := by
    rw [← String.toByteArray_ofList, String.ofList_toList]
  rw [String.toUTF8_eq_toByteArray, spelled]
  exact List.toList_data_toByteArray

theorem decodeText (text : String) : decode text.toUTF8.data.toList = text.toList.map some := by
  rw [encodedBytes]
  induction text.toList with
  | nil => rfl
  | cons c rest ih => rw [List.flatMap_cons, decodeEncoded, ih, List.map_cons]

end HouseStyle.Text
