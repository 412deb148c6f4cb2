import HouseStyle.Proofs.Written

/-! Numbers in configurations. A decimal number of any size is taken for a field exactly if the field can
hold it, and then for what it is; all other numbers are refused, be it by the field or already as numbers
of the document. -/
namespace HouseStyle
open Toml (Value Entry BareKey Held)

theorem exceptBindOk {ε α β : Type} {first : Except ε α} {next : α → Except ε β} {result : β} :
    Except.bind first next = .ok result ↔ ∃ found, first = .ok found ∧ next found = .ok result := by
  cases first with
  | error fault => simp [Except.bind]
  | ok found => simp [Except.bind]

namespace ConfigDocument

theorem fieldTaken {α : Type} {entries : List (String × Value)} {key : String} {base found : α}
    {read : Value → Option α} {value : Value} (taken : field entries key base read = .ok found)
    (given : entries.lookup key = some value) : read value = some found := by
  unfold field at taken
  rw [given] at taken
  cases means : read value with
  | none => simp [means] at taken
  | some other =>
    simp only [means] at taken
    rw [Except.ok.inj taken]

theorem priceTaken {entries : List (String × Value)} {prices : Scoring}
    (taken : scoringFields entries = .ok prices) (price : Price) :
    field entries price.key (price.amount {}) word? = .ok (price.amount prices) := by
  simp only [scoringFields, bind, exceptBindOk] at taken
  obtain ⟨first, firstTaken, additional, additionalTaken, most, mostTaken, whole⟩ := taken
  cases Except.ok.inj whole
  cases price with
  | firstError => exact firstTaken
  | perAdditionalError => exact additionalTaken
  | maxDeduction => exact mostTaken

theorem configTaken {entries : List (String × Value)} {config : Config}
    (taken : ConfigDocument.config entries = .ok config) :
    field entries Setting.scopeContextChars.key ({} : Config).scopeContextChars count? =
        .ok config.scopeContextChars ∧
      ∀ value, entries.lookup "scoring" = some value → scoring value = .ok config.scoring := by
  simp only [ConfigDocument.config, bind, exceptBindOk] at taken
  obtain ⟨headers, _, sources, _, window, windowTaken, disabled, _, prices⟩ := taken
  split at prices
  · rename_i missing
    cases Except.ok.inj prices
    exact ⟨windowTaken, fun value given => absurd (missing.symm.trans given) (by simp)⟩
  · rename_i value given
    simp only [exceptBindOk] at prices
    obtain ⟨taken, pricesTaken, whole⟩ := prices
    cases Except.ok.inj whole
    refine ⟨windowTaken, fun other given' => ?_⟩
    cases Option.some.inj (given.symm.trans given')
    exact pricesTaken

theorem wordRange {n : Int} {word : UInt32} (read : word? (.integer n) = some word) :
    0 ≤ n ∧ n ≤ 0xFFFFFFFF := by
  simp only [word?] at read
  split at read <;> try contradiction
  assumption

theorem countRange {n : Int} {count : Nat} (read : count? (.integer n) = some count) : 0 ≤ n := by
  simp only [count?] at read
  split at read <;> try contradiction
  assumption

end ConfigDocument

namespace Config

def ending (endsLast : Bool) : String := if endsLast then "\n" else ""

def priceGiven (price : Price) (n : Int) (endsLast : Bool) : String :=
  "[scoring]\n" ++ price.key ++ " = " ++ toString n ++ ending endsLast

def windowGiven (n : Int) (endsLast : Bool) : String :=
  Setting.scopeContextChars.key ++ " = " ++ toString n ++ ending endsLast

example : priceGiven .maxDeduction (-1) true = "[scoring]\nmax_deduction = -1\n" := by decide +kernel

theorem decimalString (n : Int) : n.repr.toList = Toml.decimal n := by
  cases n with
  | ofNat n => exact Nat.toList_repr
  | negSucc n =>
    change ("-" ++ Nat.repr (n + 1)).toList = _
    simp [Toml.decimal, Nat.toList_repr]

theorem priceLines (price : Price) (n : Int) (endsLast : Bool) :
    priceGiven price n endsLast = String.ofList (Toml.joinLines endsLast
      [Toml.header "scoring", Toml.line price.key (Toml.decimal n)]) := by
  rw [← String.toList_inj]
  cases endsLast <;> simp [priceGiven, ending, Toml.joinLines, Toml.header, Toml.line, decimalString]

theorem windowLines (n : Int) (endsLast : Bool) :
    windowGiven n endsLast = String.ofList (Toml.joinLines endsLast
      [Toml.line Setting.scopeContextChars.key (Toml.decimal n)]) := by
  rw [← String.toList_inj]
  cases endsLast <;> simp [windowGiven, ending, Toml.joinLines, Toml.line, decimalString]

theorem priceBare (price : Price) : BareKey price.key := (priceEntry {} price).bare

theorem windowBare : BareKey Setting.scopeContextChars.key := bareKey (by decide +kernel)

theorem scoringBare : BareKey "scoring" := bareKey (by decide +kernel)

def integerEntry {key : String} (bare : BareKey key) {n : Int} (held : Held n) : Entry where
  key := key
  text := Toml.decimal n
  meant := .integer n
  bare := bare
  denotes := Toml.integerDenotes held

theorem priceParsed (price : Price) {n : Int} (held : Held n) (endsLast : Bool) :
    Toml.parse (priceGiven price n endsLast) =
      .ok [("scoring", .table .header [(price.key, .integer n)])] := by
  rw [priceLines]
  exact Toml.documentRead endsLast [] scoringBare [integerEntry (priceBare price) held] List.nodup_nil
    List.not_mem_nil (List.pairwise_singleton _ _)

theorem windowParsed {n : Int} (held : Held n) (endsLast : Bool) :
    Toml.parse (windowGiven n endsLast) = .ok [(Setting.scopeContextChars.key, .integer n)] := by
  rw [windowLines]
  exact Toml.documentRead endsLast [integerEntry windowBare held] scoringBare [] (List.pairwise_singleton _ _)
    (by simp [Entry.keys, integerEntry, (settingApart .scopeContextChars).symm]) List.nodup_nil

theorem priceBeyond (price : Price) {n : Int} (beyond : ¬ Held n) (endsLast : Bool) :
    Toml.parse (priceGiven price n endsLast) = .error (.outOfRange "integer") := by
  have refuses := Toml.lineRefuses (priceBare price) (Toml.decimalStarts n)
    fun _ => Toml.integerRefused beyond
  have above : ∀ entry ∈ [(Toml.header "scoring", Toml.Statement.table ⟨[], "scoring"⟩)],
      Toml.States entry.1 entry.2 := by
    intro entry member
    cases List.mem_singleton.mp member
    exact Toml.headerStates scoringBare
  rw [priceLines]
  exact Toml.documentRefused endsLast _ above refuses

theorem windowBeyond {n : Int} (beyond : ¬ Held n) (endsLast : Bool) :
    Toml.parse (windowGiven n endsLast) = .error (.outOfRange "integer") := by
  have refuses := Toml.lineRefuses windowBare (Toml.decimalStarts n)
    fun _ => Toml.integerRefused beyond
  rw [windowLines]
  exact Toml.documentRefused endsLast [] (by simp) refuses

structure ReadWithin (text : String) (inside : Prop) (holds : Config → Prop) : Prop where
  accepted : inside → ∃ config, Config.ofText text = .ok config ∧ holds config
  refused : ¬ inside → ∃ error, Config.ofText text = .error error ∧
    error.messages.head? = some "parsing lint configuration"

theorem refusedText {text : String} (never : ∀ config, Config.parse text ≠ .ok config) :
    ∃ error, Config.ofText text = .error error ∧
      error.messages.head? = some "parsing lint configuration" := by
  cases read : Config.parse text with
  | ok config => exact absurd read (never config)
  | error fault => exact ⟨.unparsed none fault, by rw [Config.ofText, read], rfl⟩

theorem onlyOnce (config : Config) (settings : List Setting) (prices : List Price) :
    (config.only settings prices).only settings prices = config.only settings prices := by
  have once {α : Type} (given : Prop) [Decidable given] (written base : α) :
      (if given then (if given then written else base) else base) =
        if given then written else base := by
    by_cases here : given <;> simp [here]
  simp only [only, once]

theorem textRead {text : String} {entries : List (String × Value)} {config : Config}
    (parsed : Toml.parse text = .ok entries) (read : ConfigDocument.config entries = .ok config) :
    Config.ofText text = .ok config := by
  rw [Config.ofText, Config.parse, parsed]
  simp only [read]

theorem priceAccepted (price : Price) (word : UInt32) (endsLast : Bool) :
    ∃ config, Config.ofText (priceGiven price word.toNat endsLast) = .ok config ∧
      price.amount config.scoring = word ∧ config = config.only [] [price] := by
  have small : word.toNat < UInt32.size := UInt32.toNat_lt_size word
  simp only [UInt32.size] at small
  let config : Config := { scoring := ⟨word, word, word⟩ }
  -- one amount for all prices, of which only the given one is written
  have meant : config.priceValue price = .integer word.toNat := by cases price <;> rfl
  have read := ConfigDocument.entriesRead config [] [price]
  have parsed := priceParsed price (n := word.toNat) (by omega) endsLast
  rw [← meant] at parsed
  exact ⟨config.only [] [price], textRead parsed read, by cases price <;> rfl,
    (onlyOnce config [] [price]).symm⟩

theorem windowAccepted {count : Nat} (fits : count ≤ 0x7FFFFFFFFFFFFFFF) (endsLast : Bool) :
    ∃ config, Config.ofText (windowGiven count endsLast) = .ok config ∧
      config.scopeContextChars = count ∧ config = config.only [.scopeContextChars] [] := by
  let config : Config := { scopeContextChars := count }
  have read := ConfigDocument.entriesRead config [.scopeContextChars] []
  have parsed := windowParsed (n := count) (by omega) endsLast
  exact ⟨config.only [.scopeContextChars] [], textRead parsed read, rfl,
    (onlyOnce config [.scopeContextChars] []).symm⟩

theorem priceInRange {price : Price} {n : Int} {endsLast : Bool} {config : Config}
    (read : Config.parse (priceGiven price n endsLast) = .ok config) : 0 ≤ n ∧ n ≤ 0xFFFFFFFF := by
  by_cases held : Held n
  · rw [Config.parse, priceParsed price held] at read
    have prices := (ConfigDocument.configTaken read).2 _ rfl
    have taken := ConfigDocument.priceTaken prices price
    exact ConfigDocument.wordRange (ConfigDocument.fieldTaken taken (List.lookup_cons_self))
  · -- such a number is refused before it comes to any field
    rw [Config.parse, priceBeyond price held] at read
    contradiction

theorem windowInRange {n : Int} {endsLast : Bool} {config : Config}
    (read : Config.parse (windowGiven n endsLast) = .ok config) :
    0 ≤ n ∧ n ≤ 0x7FFFFFFFFFFFFFFF := by
  by_cases held : Held n
  · rw [Config.parse, windowParsed held] at read
    have taken := (ConfigDocument.configTaken read).1
    exact ⟨ConfigDocument.countRange (ConfigDocument.fieldTaken taken (List.lookup_cons_self)), held.2⟩
  · rw [Config.parse, windowBeyond held] at read
    contradiction

theorem integersTaken (n : Int) (endsLast : Bool) :
    (∀ price : Price, ReadWithin (priceGiven price n endsLast) (0 ≤ n ∧ n ≤ 0xFFFFFFFF) fun config =>
      (price.amount config.scoring).toNat = n ∧ config = config.only [] [price]) ∧
    ReadWithin (windowGiven n endsLast) (0 ≤ n ∧ n ≤ 0x7FFFFFFFFFFFFFFF) fun config =>
      config.scopeContextChars = n ∧ config = config.only [.scopeContextChars] [] := by
  refine ⟨fun price => ⟨fun inside => ?_, fun outside => ?_⟩, ⟨fun inside => ?_, fun outside => ?_⟩⟩
  · obtain ⟨word, rfl⟩ : ∃ word : UInt32, n = word.toNat := by
      have wraps : (UInt32.ofNat n.toNat).toNat = n.toNat % UInt32.size := UInt32.toNat_ofNat
      rw [UInt32.size] at wraps
      exact ⟨UInt32.ofNat n.toNat, by omega⟩
    obtain ⟨config, read, holds, others⟩ := priceAccepted price word endsLast
    exact ⟨config, read, by rw [holds], others⟩
  · exact refusedText fun config read => outside (priceInRange read)
  · obtain ⟨count, rfl⟩ : ∃ count : Nat, n = count := ⟨n.toNat, by omega⟩
    have fits : count ≤ 0x7FFFFFFFFFFFFFFF := by omega
    obtain ⟨config, read, holds, others⟩ := windowAccepted fits endsLast
    exact ⟨config, read, by rw [holds], others⟩
  · exact refusedText fun config read => outside (windowInRange read)

end Config

end HouseStyle
