import Rectilinear.Config.Basic
import Rectilinear.Toml.Document

/-!
# Configurations in TOML

The document has a table for the log and one for the engine.  What is missing has its default, and
what is unknown is refused.
-/

namespace Rectilinear

namespace Toml

namespace Entries

def fields? (names : List String) (entries : Entries) : Option (List (Option Value)) :=
  if ∀ entry ∈ entries, entry.1 ∈ names then
    some (names.map fun name => entries.lookup name)
  else
    none

end Entries

namespace Value

/-- The values of named fields.  An array gives them in the order of their names, and its further
items are ignored. -/
def fields? (names : List String) : Value → Option (List (Option Value))
  | table _ entries => Entries.fields? names entries
  | array items => some ((List.range names.length).map fun i => items[i]?)
  | tables complete last =>
      let items := (complete ++ [last]).map (table .header)
      some ((List.range names.length).map fun i => items[i]?)
  | _ => none

def string? : Value → Option String
  | string text => some text
  | _ => none

def boolean? : Value → Option Bool
  | boolean b => some b
  | _ => none

end Value

end Toml

open Toml (Value)

def Toml.Value.orDefault {α : Type} (decode : Value → Option α) (default : α) :
    Option Value → Option α
  | none => some default
  | some value => decode value

def Settings.ofValue? (value : Value) : Option Settings := do
  match ← value.fields? ["coalesce_bands", "pairwise_fast_path"] with
  | [coalesceBands, pairwiseFastPath] =>
      return {
        coalesceBands := ← Value.orDefault Value.boolean? true coalesceBands
        pairwiseFastPath := ← Value.orDefault Value.boolean? true pairwiseFastPath }
  | _ => none

namespace Config

def withLog? (config : Config) (value : Value) : Option Config := do
  match ← value.fields? ["level", "format"] with
  | [level, format] =>
      return {
        config with
        level := ← Value.orDefault Value.string? config.level level
        format := ← Value.orDefault Value.string? config.format format }
  | _ => none

def ofEntries? (entries : Toml.Entries) : Option Config := do
  match ← entries.fields? ["logging", "engine"] with
  | [log, engine] => do
      let config ← Value.orDefault (withLog? {}) {} log
      let engine ← Value.orDefault Settings.ofValue? {} engine
      return { config with engine }
  | _ => none

end Config

end Rectilinear
