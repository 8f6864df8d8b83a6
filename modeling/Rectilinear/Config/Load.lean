import Rectilinear.Config.Decode
import Rectilinear.Event
import Rectilinear.Text.Blank

/-!
# Loading configurations

A configuration is loaded from a TOML text, of which a blank one is the default configuration, or
from a file.  If no file can be read at its path, it has no content.  Loading tells by an event that
it succeeded.
-/

namespace Rectilinear

namespace Config

def ofText (text : String) : Except ConfigError Config := do
  let config ←
    if Text.IsBlank text then
      .ok {}
    else
      match (Toml.Entries.ofText? text).bind ofEntries? with
      | some config => .ok config
      | none => .error .malformed
  match config.validate with
  | (config, none) => .ok config
  | (_, some e) => .error e

structure Loading where
  outcome : Except ConfigError Config
  events : List Event

def load (path : String) (content : Option ByteArray) : Loading :=
  match content.bind String.fromUTF8? with
  | none => ⟨.error (.unreadable path), []⟩
  | some text =>
      match ofText text with
      | .ok config => ⟨.ok config, [.configLoaded path]⟩
      | .error e => ⟨.error e, []⟩

end Config

end Rectilinear
