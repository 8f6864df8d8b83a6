import Rectilinear.Event

/-!
# Log filters

A filter is a list of directives.  Each gives a level to the targets that start with a text; of
those that apply to a target, the one with the longest text decides, and among equals the last.
Directives are separated by commas.
-/

namespace Rectilinear

namespace Log

structure Directive where
  target : String
  /-- Nothing is shown if there is no level. -/
  level : Option Level
  deriving DecidableEq, Repr

def limit? (text : String) : Option (Option Level) :=
  if text.toLower = "off" then some none
  else (Level.ofName? text.toLower).map some

namespace Directive

/-- A directive is a level for all targets, a target that is shown in full, or a target with a
level. -/
def ofText? (text : String) : Option Directive :=
  match text.splitOn "=" with
  | [word] =>
      match limit? word with
      | some level => some ⟨"", level⟩
      | none => if word = "" then none else some ⟨word, some .trace⟩
  | [target, word] => (limit? word).map fun level => ⟨target, level⟩
  | _ => none

def Applies (directive : Directive) (target : String) : Prop :=
  directive.target.toList <+: target.toList

instance (directive : Directive) (target : String) : Decidable (directive.Applies target) :=
  inferInstanceAs (Decidable (_ <+: _))

end Directive

abbrev Filter :=
  List Directive

namespace Filter

def ofText? (text : String) : Option Filter :=
  (text.splitOn ",").mapM Directive.ofText?

def ofLevel (level : Level) : Filter :=
  [⟨"", some .warn⟩, ⟨"novade_region", some level⟩]

/-- The directive that decides about a target. -/
def deciding? (filter : Filter) (target : String) : Option Directive :=
  filter.foldl
    (fun best directive =>
      if directive.Applies target ∧
          ∀ d ∈ best, d.target.length ≤ directive.target.length then
        some directive
      else
        best)
    none

def Shows (filter : Filter) (event : Event) : Prop :=
  match (filter.deciding? event.target).bind Directive.level with
  | some level => event.level ≤ level
  | none => False

instance (filter : Filter) (event : Event) : Decidable (filter.Shows event) := by
  unfold Shows
  split <;> infer_instance

end Filter

end Log

end Rectilinear
