import HouseStyle.Proofs.Readers
import HouseStyle.Toml.Nested

/-! Numbers written in decimal digits. What is written at the end of a line is read as a number, not as
a date, and as the number it was written for, unless that is no number of 64 bits. -/
namespace HouseStyle.Toml
open Text (All Past)

def LineOver (rest : List Char) : Prop := rest = [] ∨ ∃ below, rest = '\n' :: below

def decimal : Int → List Char
  | .ofNat n => Nat.toDigits 10 n
  | .negSucc n => '-' :: Nat.toDigits 10 (n + 1)

theorem digitAmong {c : Char} (digit : c.isDigit = true) :
    c ∈ ['0', '1', '2', '3', '4', '5', '6', '7', '8', '9'] := by
  have range : 48 ≤ c.toNat ∧ c.toNat ≤ 57 := Char.isDigit_iff_toNat.mp digit
  have code : c.toNat ∈ [48, 49, 50, 51, 52, 53, 54, 55, 56, 57] := by
    simp only [List.mem_cons, List.not_mem_nil, or_false]
    omega
  rw [← Char.ofNat_toNat c]
  exact List.mem_map_of_mem (f := Char.ofNat) code

theorem everyDigit {p : Char → Prop}
    (each : p '0' ∧ p '1' ∧ p '2' ∧ p '3' ∧ p '4' ∧ p '5' ∧ p '6' ∧ p '7' ∧ p '8' ∧ p '9')
    {c : Char} (digit : c.isDigit = true) : p c := by
  obtain ⟨zero, one, two, three, four, five, six, seven, eight, nine⟩ := each
  have among := digitAmong digit
  simp only [List.mem_cons, List.not_mem_nil, or_false] at among
  rcases among with rfl | rfl | rfl | rfl | rfl | rfl | rfl | rfl | rfl | rfl <;> assumption

theorem writtenDigits (n : Nat) : All Char.isDigit (Nat.toDigits 10 n) :=
  fun _ member => Nat.isDigit_of_mem_toDigits (by decide) (by decide) member

theorem ofDigitsWritten (n : Nat) : ofDigits 10 (Nat.toDigits 10 n) = n := by
  have same (digits : List Char) (all : All Char.isDigit digits) (value : Nat) :
      digits.foldl (fun value c => value * 10 + hexValue c) value =
        Nat.ofDigitChars 10 digits value := by
    induction digits generalizing value with
    | nil => rfl
    | cons c digits ih =>
      have digit : c.isDigit = true := all c List.mem_cons_self
      rw [List.foldl_cons, Nat.ofDigitChars_cons, hexValue, if_pos digit, Nat.mul_comm]
      exact ih (fun d member => all d (List.mem_cons_of_mem c member)) _
  rw [ofDigits, same _ (writtenDigits n)]
  exact Nat.ofDigitChars_toDigits (by decide) (by decide)

theorem leadingDigit (n : Nat) : ∃ first more, Nat.toDigits 10 n = first :: more ∧
    (first = '0' → n = 0 ∧ more = []) := by
  induction n using Nat.strongRecOn with
  | ind n ih =>
    rw [Nat.toDigits_eq_if (by decide)]
    split
    · rename_i small
      exact ⟨n.digitChar, [], rfl, fun zero => ⟨Nat.digitChar_eq_zero.mp zero, rfl⟩⟩
    · rename_i large
      obtain ⟨first, more, split, leads⟩ := ih (n / 10) (by omega)
      refine ⟨first, more ++ [(n % 10).digitChar], by rw [split, List.cons_append], ?_⟩
      intro zero
      have := (leads zero).1
      omega

theorem digitRunWritten {digits rest : List Char} (all : All Char.isDigit digits)
    (ended : LineOver rest) : digitRun Char.isDigit (digits ++ rest) = (digits, rest) := by
  induction digits with
  | nil => rcases ended with rfl | ⟨below, rfl⟩ <;> rfl
  | cons c digits ih =>
    have digit : c.isDigit = true := all c List.mem_cons_self
    have later := ih fun d member => all d (List.mem_cons_of_mem c member)
    simp only [List.cons_append, digitRun, if_pos digit, later]

theorem decimalDigitsWritten (n : Nat) {rest : List Char} (ended : LineOver rest) :
    decimalDigits (Nat.toDigits 10 n ++ rest) = some (Nat.toDigits 10 n, rest) := by
  obtain ⟨first, more, split, leads⟩ := leadingDigit n
  have digits := writtenDigits n
  have ran := digitRunWritten digits ended
  have digit : first.isDigit = true := digits first (by rw [split]; exact List.mem_cons_self)
  rw [split, List.cons_append] at ran ⊢
  by_cases zero : first = '0'
  · obtain ⟨_, rfl⟩ := leads zero
    rw [zero]
    rfl
  · have others : decimalDigits (first :: (more ++ rest)) =
        someDigits Char.isDigit (first :: (more ++ rest)) := by
      unfold decimalDigits
      split
      · rename_i same
        exact absurd (List.cons.inj same).1 zero
      · rfl
    rw [others, someDigits, if_pos (by simpa using digit), ran]

theorem nothingBehind {rest : List Char} (ended : LineOver rest) :
    fraction rest = .ok (none, rest) ∧ exponent rest = .ok (none, rest) := by
  rcases ended with rfl | ⟨below, rfl⟩ <;> exact ⟨rfl, rfl⟩

theorem numberBody (n : Nat) {rest : List Char} (ended : LineOver rest) (text : List Char)
    (mark : Option Char) (signed : sign text = (mark, Nat.toDigits 10 n ++ rest)) :
    decimalNumber text =
      (integerInRange (if mark = some '-' then -(n : Int) else n)).map fun value => (value, rest) := by
  obtain ⟨first, more, split, _⟩ := leadingDigit n
  have digit : first.isDigit = true := writtenDigits n first (by rw [split]; exact List.mem_cons_self)
  have finite : specialFloat? (Nat.toDigits 10 n ++ rest) = none := by
    rw [split]
    exact everyDigit (p := fun c => specialFloat? (c :: more ++ rest) = none)
      ⟨rfl, rfl, rfl, rfl, rfl, rfl, rfl, rfl, rfl, rfl⟩ digit
  obtain ⟨noPlaces, noPower⟩ := nothingBehind ended
  unfold decimalNumber
  simp only [signed, finite, decimalDigitsWritten n ended, noPlaces, noPower, ofDigitsWritten, bind,
    Except.bind]
  cases integerInRange (if mark = some '-' then -(n : Int) else n) <;> rfl

theorem dropWritten {digits rest : List Char} (all : All Char.isDigit digits) (ended : LineOver rest)
    (width : Nat) (front : ((digits ++ rest).take width).all Char.isDigit = true) :
    ∀ c, ((digits ++ rest).drop width).head? = some c → c.isDigit = true ∨ c = '\n' := by
  intro c head
  induction digits generalizing width with
  | nil =>
    rcases ended with rfl | ⟨below, rfl⟩
    · simp at head
    · cases width with
      | zero => exact Or.inr (Option.some.inj head).symm
      | succ width => simp at front
  | cons d digits ih =>
    cases width with
    | zero =>
      cases Option.some.inj head
      exact Or.inl (all c List.mem_cons_self)
    | succ width =>
      obtain ⟨_, later⟩ := Bool.and_eq_true_iff.mp front
      exact ih (fun e member => all e (List.mem_cons_of_mem d member)) width later head

theorem fixedNumberWritten {digits rest : List Char} (all : All Char.isDigit digits)
    (ended : LineOver rest) {width value : Nat} {left : List Char}
    (read : fixedNumber width (digits ++ rest) = some (value, left)) {c : Char}
    (head : left.head? = some c) : c.isDigit = true ∨ c = '\n' := by
  simp only [fixedNumber] at read
  split at read <;> try contradiction
  rename_i fits
  cases Option.some.inj read
  exact dropWritten all ended width fits.2 c head

theorem hourWritten {digits rest : List Char} (all : All Char.isDigit digits) (ended : LineOver rest) :
    hour? (digits ++ rest) = none := by
  rw [Option.eq_none_iff_forall_ne_some]
  intro left read
  simp only [hour?, twoDigits, bind, Option.bind_eq_some_iff] at read
  obtain ⟨⟨hours, behind⟩, ⟨⟨value, after⟩, fixed, bounded⟩, marked, colon, _⟩ := read
  split at bounded <;> try contradiction
  cases Option.some.inj bounded
  cases after with
  | nil => cases colon
  | cons d after =>
    simp only [mark] at colon
    split at colon <;> try contradiction
    rename_i same
    rcases fixedNumberWritten all ended fixed rfl with digit | feed
    · rw [← same] at digit
      contradiction
    · rw [← same] at feed
      contradiction

theorem momentWritten {digits rest : List Char} (all : All Char.isDigit digits) (ended : LineOver rest) :
    moment? (digits ++ rest) = none := by
  unfold moment?
  cases year : fixedNumber 4 (digits ++ rest) with
  | none => rw [hourWritten all ended]; rfl
  | some found =>
    obtain ⟨value, left⟩ := found
    refine if_neg fun dash => ?_
    rcases fixedNumberWritten all ended year dash with digit | feed <;> contradiction

theorem momentSigned (text : List Char) : moment? ('-' :: text) = none := by
  have fixed (width : Nat) : fixedNumber (width + 1) ('-' :: text) = none := by
    refine if_neg fun fits => ?_
    have sign := (Bool.and_eq_true_iff.mp fits.2).1
    contradiction
  simp only [moment?, hour?, twoDigits, fixed, bind, Option.bind, Option.map]

/- Digits at the end of a line are a decimal number; only a nought may be the first of several bases'
marks, and no mark follows it here. -/
theorem numberWritten (n : Nat) {rest : List Char} (ended : LineOver rest) :
    number (Nat.toDigits 10 n ++ rest) = decimalNumber (Nat.toDigits 10 n ++ rest) := by
  obtain ⟨first, more, split, leads⟩ := leadingDigit n
  rw [split, List.cons_append]
  by_cases zero : first = '0'
  · obtain ⟨_, rfl⟩ := leads zero
    rw [zero]
    rcases ended with rfl | ⟨below, rfl⟩ <;> rfl
  · unfold number
    split <;> rename_i same <;> first | exact absurd (List.cons.inj same).1 zero | rfl

theorem decimalRead (item : Reader Value) (n : Int) {rest : List Char} (ended : LineOver rest) :
    valueWith item (decimal n ++ rest) = (integerInRange n).map fun value => (value, rest) := by
  cases n with
  | negSucc n =>
    change momentOrNumber ('-' :: (Nat.toDigits 10 (n + 1) ++ rest)) = _
    rw [momentOrNumber, momentSigned]
    exact numberBody (n + 1) ended ('-' :: (Nat.toDigits 10 (n + 1) ++ rest)) (some '-') rfl
  | ofNat n =>
    obtain ⟨first, more, split, _⟩ := leadingDigit n
    have all := writtenDigits n
    have digit : first.isDigit = true := all first (by rw [split]; exact List.mem_cons_self)
    have unsigned : sign (Nat.toDigits 10 n ++ rest) = (none, Nat.toDigits 10 n ++ rest) := by
      rw [split]
      exact everyDigit (p := fun c => sign (c :: more ++ rest) = (none, c :: more ++ rest))
        ⟨rfl, rfl, rfl, rfl, rfl, rfl, rfl, rfl, rfl, rfl⟩ digit
    have plain : valueWith item (Nat.toDigits 10 n ++ rest) =
        momentOrNumber (Nat.toDigits 10 n ++ rest) := by
      rw [split]
      exact everyDigit (p := fun c => valueWith item (c :: more ++ rest) =
        momentOrNumber (c :: more ++ rest)) ⟨rfl, rfl, rfl, rfl, rfl, rfl, rfl, rfl, rfl, rfl⟩ digit
    change valueWith item (Nat.toDigits 10 n ++ rest) = _
    rw [plain, momentOrNumber, momentWritten all ended]
    exact (numberWritten n ended).trans (numberBody n ended _ none unsigned)

end HouseStyle.Toml
