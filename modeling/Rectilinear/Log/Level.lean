/-!
# Log levels

A level shows everything up to its own verbosity.  It has one name in settings and filters, and
another one in what is written.
-/

namespace Rectilinear

namespace Log

inductive Level where
  | error
  | warn
  | info
  | debug
  | trace
  deriving DecidableEq, Repr

namespace Level

def verbosity : Level → Nat
  | error => 1
  | warn => 2
  | info => 3
  | debug => 4
  | trace => 5

instance : LE Level :=
  ⟨fun l m => l.verbosity ≤ m.verbosity⟩

instance (l m : Level) : Decidable (l ≤ m) :=
  inferInstanceAs (Decidable (l.verbosity ≤ m.verbosity))

def name : Level → String
  | error => "error"
  | warn => "warn"
  | info => "info"
  | debug => "debug"
  | trace => "trace"

def label : Level → String
  | error => "ERROR"
  | warn => "WARN"
  | info => "INFO"
  | debug => "DEBUG"
  | trace => "TRACE"

def all : List Level :=
  [trace, debug, info, warn, error]

def ofName? (name : String) : Option Level :=
  all.find? fun level => level.name == name

theorem ofName?_name (level : Level) : ofName? level.name = some level := by
  cases level <;> decide

end Level

end Log

end Rectilinear
