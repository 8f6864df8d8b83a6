/-!
# Log formats

Events are written as lines of text or as records.  A setting names the format, and is refused if it
names none.
-/

namespace Rectilinear

namespace Log

inductive Format where
  | text
  | json
  deriving DecidableEq, Repr

namespace Format

def name : Format → String
  | text => "text"
  | json => "json"

def ofName? (name : String) : Option Format :=
  [text, json].find? fun format => format.name == name

theorem ofName?_name (format : Format) : ofName? format.name = some format := by
  cases format <;> decide

end Format

def invalidLevel (text : String) : String :=
  "Invalid log level: " ++ text

def invalidFormat (text : String) : String :=
  "Invalid log format: " ++ text

end Log

end Rectilinear
