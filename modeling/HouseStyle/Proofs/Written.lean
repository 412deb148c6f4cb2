import HouseStyle.Config.Load
import HouseStyle.Proofs.Documents

/-! Configurations written out as documents. Any of the settings and any of the prices may be written,
each on a line of its own and in any order. Such a document is accepted, and a configuration read from
it has what was written and is the default one in all else. -/
namespace HouseStyle
open Toml (Value Manner Entry Denotes BareKey LineOver)

inductive Setting where
  | headerExtensions
  | sourceExtensions
  | scopeContextChars
  | disabledChecks
  deriving DecidableEq, Repr

inductive Price where
  | firstError
  | perAdditionalError
  | maxDeduction
  deriving DecidableEq, Repr

def Setting.key : Setting → String
  | .headerExtensions => "header_extensions"
  | .sourceExtensions => "source_extensions"
  | .scopeContextChars => "scope_context_chars"
  | .disabledChecks => "disabled_checks"

def Price.key : Price → String
  | .firstError => "first_error"
  | .perAdditionalError => "per_additional_error"
  | .maxDeduction => "max_deduction"

def Price.amount (scoring : Scoring) : Price → UInt32
  | .firstError => scoring.firstError
  | .perAdditionalError => scoring.perAdditionalError
  | .maxDeduction => scoring.maxDeduction

namespace Config

def settingText (manner : Manner) (config : Config) : Setting → List Char
  | .headerExtensions => manner.array config.headerExtensions
  | .sourceExtensions => manner.array config.sourceExtensions
  | .scopeContextChars => Toml.decimal config.scopeContextChars
  | .disabledChecks => manner.array config.disabledChecks

def priceText (config : Config) (price : Price) : List Char :=
  Toml.decimal (price.amount config.scoring).toNat

def document (manner : Manner) (config : Config) (settings : List Setting) (prices : List Price) :
    String :=
  String.ofList (Toml.joinLines manner.endsLast
    (settings.map (fun setting => Toml.line setting.key (config.settingText manner setting)) ++
      if prices.isEmpty then []
      else Toml.header "scoring" :: prices.map fun price => Toml.line price.key (config.priceText price)))

def only (config : Config) (settings : List Setting) (prices : List Price) : Config :=
  let base : Config := {}
  { headerExtensions :=
      if .headerExtensions ∈ settings then config.headerExtensions else base.headerExtensions
    sourceExtensions :=
      if .sourceExtensions ∈ settings then config.sourceExtensions else base.sourceExtensions
    scopeContextChars :=
      if .scopeContextChars ∈ settings then config.scopeContextChars else base.scopeContextChars
    disabledChecks :=
      if .disabledChecks ∈ settings then config.disabledChecks else base.disabledChecks
    scoring :=
      { firstError :=
          if .firstError ∈ prices then config.scoring.firstError else base.scoring.firstError
        perAdditionalError :=
          if .perAdditionalError ∈ prices then config.scoring.perAdditionalError
          else base.scoring.perAdditionalError
        maxDeduction :=
          if .maxDeduction ∈ prices then config.scoring.maxDeduction else base.scoring.maxDeduction } }

def textsValue (texts : List String) : Value := .array (texts.map .string)

def settingValue (config : Config) : Setting → Value
  | .headerExtensions => textsValue config.headerExtensions
  | .sourceExtensions => textsValue config.sourceExtensions
  | .scopeContextChars => .integer config.scopeContextChars
  | .disabledChecks => textsValue config.disabledChecks

def priceValue (config : Config) (price : Price) : Value :=
  .integer (price.amount config.scoring).toNat

def settingPairs (config : Config) (settings : List Setting) : List (String × Value) :=
  settings.map fun setting => (setting.key, config.settingValue setting)

def pricePairs (config : Config) (prices : List Price) : List (String × Value) :=
  prices.map fun price => (price.key, config.priceValue price)

theorem textsDenote (manner : Manner) (texts : List String) :
    Denotes (manner.array texts) (textsValue texts) where
  starts := ⟨'[', _, rfl, rfl⟩
  read rest _ := manner.arrayRead (fun text _ after => manner.quotedRead _ text after) texts rest

theorem countDenotes {n : Nat} (fits : n ≤ 0x7FFFFFFFFFFFFFFF) :
    Denotes (Toml.decimal n) (.integer n) := Toml.integerDenotes (by omega)

theorem bareKey {key : String} (bare : (!key.toList.isEmpty && key.toList.all Toml.isBare) = true) :
    BareKey key := by
  obtain ⟨some, all⟩ := Bool.and_eq_true_iff.mp bare
  cases spelled : key.toList with
  | nil => simp [spelled] at some
  | cons c rest =>
    rw [spelled] at all
    have each := List.all_eq_true.mp all
    exact ⟨c, rest, spelled, each c List.mem_cons_self,
      fun d member => each d (List.mem_cons_of_mem c member)⟩

def settingEntry (manner : Manner) {config : Config}
    (fits : config.scopeContextChars ≤ 0x7FFFFFFFFFFFFFFF) (setting : Setting) : Entry where
  key := setting.key
  text := config.settingText manner setting
  meant := config.settingValue setting
  bare := by cases setting <;> exact bareKey (by decide +kernel)
  denotes := by
    cases setting with
    | headerExtensions => exact textsDenote manner _
    | sourceExtensions => exact textsDenote manner _
    | scopeContextChars => exact countDenotes fits
    | disabledChecks => exact textsDenote manner _

def priceEntry (config : Config) (price : Price) : Entry where
  key := price.key
  text := config.priceText price
  meant := config.priceValue price
  bare := by cases price <;> exact bareKey (by decide +kernel)
  denotes := by
    have small : (price.amount config.scoring).toNat < UInt32.size := UInt32.toNat_lt_size _
    exact countDenotes (Nat.le_trans (Nat.le_of_lt small) (by decide))

end Config

theorem settingKeys {one other : Setting} (same : one.key = other.key) : one = other := by
  revert same
  cases one <;> cases other <;> decide

theorem priceKeys {one other : Price} (same : one.key = other.key) : one = other := by
  revert same
  cases one <;> cases other <;> decide

theorem settingApart (setting : Setting) : setting.key ≠ "scoring" := by
  cases setting <;> decide

theorem lookupKeyed {α : Type} [DecidableEq α] {key : α → String}
    (distinct : ∀ {a b}, key a = key b → a = b) (meant : α → Value) (items : List α) (item : α) :
    (items.map fun a => (key a, meant a)).lookup (key item) =
      if item ∈ items then some (meant item) else none := by
  induction items with
  | nil => rfl
  | cons first items ih =>
    rw [List.map_cons, List.lookup_cons]
    by_cases same : item = first
    · subst same
      simp
    · have apart : (key item == key first) = false :=
        beq_eq_false_iff_ne.mpr fun equal => same (distinct equal)
      simp [apart, ih, same]

namespace ConfigDocument

theorem textsRead (texts : List String) : texts? (Config.textsValue texts) = some texts := by
  have each (items : List String) : (items.map Value.string).mapM text? = some items := by
    induction items with
    | nil => rfl
    | cons item items ih => rw [List.map_cons, List.mapM_cons, ih]; rfl
  exact each texts

theorem countRead (n : Nat) : count? (.integer n) = some n := by
  rw [count?, if_pos (Int.natCast_nonneg n), Int.toNat_natCast]

theorem wordRead (word : UInt32) : word? (.integer word.toNat) = some word := by
  have small : word.toNat < UInt32.size := UInt32.toNat_lt_size word
  have inside : (0 : Int) ≤ word.toNat ∧ (word.toNat : Int) ≤ 0xFFFFFFFF := by
    simp only [UInt32.size] at small
    omega
  rw [word?, if_pos inside, Int.toNat_natCast, UInt32.ofNat_toNat]

theorem fieldRead {α : Type} {entries : List (String × Value)} {key : String} {present : Prop}
    [Decidable present] {value : Value} {read : Value → Option α} {meant : α}
    (found : entries.lookup key = if present then some value else none)
    (means : read value = some meant) (base : α) :
    field entries key base read = .ok (if present then meant else base) := by
  unfold field
  rw [found]
  by_cases here : present
  · simp only [if_pos here, means]
  · simp only [if_neg here]

theorem pricesRead (config : Config) (settings : List Setting) (prices : List Price) :
    scoringFields (config.pricePairs prices) = .ok (config.only settings prices).scoring := by
  have stated (price : Price) (base : UInt32) :
      field (config.pricePairs prices) price.key base word? =
        .ok (if price ∈ prices then price.amount config.scoring else base) :=
    fieldRead (lookupKeyed priceKeys config.priceValue prices price) (wordRead _) base
  have first := stated .firstError ({} : Scoring).firstError
  have additional := stated .perAdditionalError ({} : Scoring).perAdditionalError
  have most := stated .maxDeduction ({} : Scoring).maxDeduction
  simp only [Price.key] at first additional most
  simp only [scoringFields, first, additional, most, bind, Except.bind]
  rfl

section Entries

variable (config : Config) (settings : List Setting) (prices : List Price)

def entries : List (String × Value) :=
  config.settingPairs settings ++
    if prices.isEmpty then [] else [("scoring", .table .header (config.pricePairs prices))]

theorem lookupSetting (setting : Setting) :
    (entries config settings prices).lookup setting.key =
      if setting ∈ settings then some (config.settingValue setting) else none := by
  have apart : (setting.key == "scoring") = false := beq_eq_false_iff_ne.mpr (settingApart setting)
  rw [entries, List.lookup_append, Config.settingPairs, lookupKeyed settingKeys]
  cases prices with
  | nil => simp
  | cons price prices => simp [List.lookup_cons, apart]

theorem lookupScoring :
    (entries config settings prices).lookup "scoring" =
      if prices.isEmpty then none else some (.table .header (config.pricePairs prices)) := by
  have missing : (config.settingPairs settings).lookup "scoring" = none := by
    refine List.lookup_eq_none_iff.mpr (List.forall_mem_map.mpr fun setting _ => ?_)
    exact bne_iff_ne.mpr (settingApart setting).symm
  rw [entries, List.lookup_append, missing]
  cases prices with
  | nil => rfl
  | cons price prices => simp

theorem entriesRead :
    ConfigDocument.config (entries config settings prices) = .ok (config.only settings prices) := by
  have stated {α : Type} (setting : Setting) {read : Value → Option α} {meant : α}
      (means : read (config.settingValue setting) = some meant) (base : α) :
      field (entries config settings prices) setting.key base read =
        .ok (if setting ∈ settings then meant else base) :=
    fieldRead (lookupSetting config settings prices setting) means base
  have headers := stated .headerExtensions (textsRead _) ({} : Config).headerExtensions
  have sources := stated .sourceExtensions (textsRead _) ({} : Config).sourceExtensions
  have window := stated .scopeContextChars (countRead _) ({} : Config).scopeContextChars
  have disabled := stated .disabledChecks (textsRead _) ({} : Config).disabledChecks
  simp only [Setting.key] at headers sources window disabled
  simp only [ConfigDocument.config, headers, sources, window, disabled, lookupScoring, bind,
    Except.bind]
  -- a table without prices is not written, so the default prices stand where there are none
  cases prices with
  | nil => rfl
  | cons price prices =>
    simp only [List.isEmpty_cons, Bool.false_eq_true, if_false, scoring,
      pricesRead config settings (price :: prices)]
    rfl

end Entries

end ConfigDocument

namespace Config

theorem documentLines (manner : Manner) {config : Config} (settings : List Setting)
    (prices : List Price) (fits : config.scopeContextChars ≤ 0x7FFFFFFFFFFFFFFF) :
    config.document manner settings prices =
      String.ofList (Toml.joinLines manner.endsLast ((Toml.writtenLines
        (settings.map (settingEntry manner fits)) "scoring" (prices.map (priceEntry config))).map
          (·.1))) := by
  rw [document, Toml.writtenLines, List.map_append, List.map_map, List.map_map]
  cases prices with
  | nil => rfl
  | cons price prices =>
    simp only [List.isEmpty_cons, List.map_cons, Bool.false_eq_true, if_false, List.map_map]
    rfl

theorem documentRead (manner : Manner) {config : Config} {settings : List Setting}
    {prices : List Price} (fits : config.scopeContextChars ≤ 0x7FFFFFFFFFFFFFFF)
    (once : settings.Nodup) (oncePrices : prices.Nodup) :
    Toml.parse (config.document manner settings prices) =
      .ok (ConfigDocument.entries config settings prices) := by
  have keys : Entry.keys (settings.map (settingEntry manner fits)) = settings.map Setting.key :=
    List.map_map
  have below : Entry.keys (prices.map (priceEntry config)) = prices.map Price.key := List.map_map
  have distinct : (settings.map Setting.key).Nodup :=
    List.Pairwise.map _ (fun _ _ other same => other (settingKeys same)) once
  have distinctPrices : (prices.map Price.key).Nodup :=
    List.Pairwise.map _ (fun _ _ other same => other (priceKeys same)) oncePrices
  have apart : "scoring" ∉ settings.map Setting.key := by
    intro member
    obtain ⟨setting, _, same⟩ := List.mem_map.mp member
    exact settingApart setting same
  rw [documentLines manner settings prices fits, Toml.documentRead manner.endsLast _
    (bareKey (by decide +kernel)) _ (keys ▸ distinct) (keys ▸ apart) (below ▸ distinctPrices),
    ConfigDocument.entries, List.map_map, List.map_map, List.isEmpty_map]
  rfl

theorem writtenConfigRead (manner : Manner) (config : Config) (settings : List Setting)
    (prices : List Price) (fits : config.scopeContextChars ≤ 0x7FFFFFFFFFFFFFFF)
    (once : settings.Nodup) (oncePrices : prices.Nodup) :
    Config.ofText (config.document manner settings prices) = .ok (config.only settings prices) := by
  rw [Config.ofText, Config.parse, documentRead manner fits once oncePrices]
  simp only [ConfigDocument.entriesRead]

def coded : Manner where
  spell c := if Toml.isSpecial c then '\\' :: 'u' :: Toml.hexDigits true 4 c.toNat else [c]
  spelled c := by
    split
    · rename_i special
      have fits : c.toNat < 0x10000 := by
        simp only [Toml.isSpecial, Bool.or_eq_true, beq_iff_eq, decide_eq_true_eq] at special
        rcases special with ((rfl | rfl) | control) | delete
        · decide
        · decide
        · omega
        · omega
      exact .code true fits
    · rename_i ordinary
      exact .plain (Bool.eq_false_iff.mpr ordinary)
  endsLast := false

theorem writtenConfigReadSample :
    let config : Config :=
      { headerExtensions := ["", "é\"\\\n\x7f"], sourceExtensions := ["m"],
        scopeContextChars := 0x7FFFFFFFFFFFFFFF, scoring := ⟨0, 0xFFFFFFFF, 7⟩ }
    let text := "scope_context_chars = 9223372036854775807\n" ++
      "header_extensions = [\"\", \"é\\u0022\\u005C\\u000A\\u007F\"]\n" ++
      "[scoring]\nper_additional_error = 4294967295\nfirst_error = 0"
    config.scopeContextChars ≤ 0x7FFFFFFFFFFFFFFF ∧
    [Setting.scopeContextChars, .headerExtensions].Nodup ∧
    [Price.perAdditionalError, .firstError].Nodup ∧
    config.document coded [.scopeContextChars, .headerExtensions] [.perAdditionalError, .firstError] =
      text ∧
    Config.ofText text = .ok
      { headerExtensions := ["", "é\"\\\n\x7f"], scopeContextChars := 0x7FFFFFFFFFFFFFFF,
        scoring := { firstError := 0, perAdditionalError := 0xFFFFFFFF } } := by
  intro config text
  have written : config.document coded [.scopeContextChars, .headerExtensions]
      [.perAdditionalError, .firstError] = text := by decide +kernel
  have read := writtenConfigRead coded config [.scopeContextChars, .headerExtensions]
    [.perAdditionalError, .firstError] (by decide) (by decide) (by decide)
  rw [written] at read
  exact ⟨by decide, by decide, by decide, written, read.trans (congrArg Except.ok (by decide))⟩

end Config

end HouseStyle
