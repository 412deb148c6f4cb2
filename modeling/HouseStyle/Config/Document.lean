import HouseStyle.Config
import HouseStyle.Toml.Document

/-! Configurations as TOML documents. Every key is optional, and unknown keys are passed over. -/
namespace HouseStyle

inductive ConfigFault where
  | document (fault : Toml.Fault)
  | badValue (key : String)
  deriving DecidableEq, Repr

def ConfigFault.message : ConfigFault → String
  | .document fault => fault.message
  | .badValue key => "invalid value for key: " ++ key

namespace ConfigDocument
open Toml (Value)

def field {α : Type} (entries : List (String × Value)) (key : String) (default : α)
    (read : Value → Option α) : Except ConfigFault α :=
  match entries.lookup key with
  | none => .ok default
  | some value =>
    match read value with
    | some found => .ok found
    | none => .error (.badValue key)

def text? : Value → Option String
  | .string text => some text
  | _ => none

def texts? : Value → Option (List String)
  | .array items => items.mapM text?
  | _ => none

def count? : Value → Option Nat
  | .integer value => if 0 ≤ value then some value.toNat else none
  | _ => none

def word? : Value → Option UInt32
  | .integer value => if 0 ≤ value ∧ value ≤ 0xFFFFFFFF then some (UInt32.ofNat value.toNat) else none
  | _ => none

def scoringFields (entries : List (String × Value)) : Except ConfigFault Scoring := do
  let base : Scoring := {}
  let firstError ← field entries "first_error" base.firstError word?
  let perAdditionalError ← field entries "per_additional_error" base.perAdditionalError word?
  let maxDeduction ← field entries "max_deduction" base.maxDeduction word?
  return { firstError, perAdditionalError, maxDeduction }

def scoringNames : List String := ["first_error", "per_additional_error", "max_deduction"]

/-- The prices may be a table, or a list in their order, of which the end may be missing and what
goes beyond is passed over. A date has none of the keys, so it says nothing about the prices. -/
def scoring : Value → Except ConfigFault Scoring
  | .table _ entries => scoringFields entries
  | .array items => scoringFields (scoringNames.zip items)
  | .moment _ => .ok {}
  | _ => .error (.badValue "scoring")

def config (entries : List (String × Value)) : Except ConfigFault Config := do
  let base : Config := {}
  let headerExtensions ← field entries "header_extensions" base.headerExtensions texts?
  let sourceExtensions ← field entries "source_extensions" base.sourceExtensions texts?
  let scopeContextChars ← field entries "scope_context_chars" base.scopeContextChars count?
  let disabledChecks ← field entries "disabled_checks" base.disabledChecks texts?
  let scoring ← match entries.lookup "scoring" with
    | none => .ok base.scoring
    | some value => scoring value
  return { headerExtensions, sourceExtensions, scopeContextChars, disabledChecks, scoring }

end ConfigDocument

def Config.parse (text : String) : Except ConfigFault Config :=
  match Toml.parse text with
  | .error fault => .error (.document fault)
  | .ok entries => ConfigDocument.config entries

end HouseStyle
