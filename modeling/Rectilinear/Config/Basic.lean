import Rectilinear.Log.Format
import Rectilinear.Log.Level
import Rectilinear.Settings
import Rectilinear.Text.Lowercase
import Rectilinear.Text.Quoted

/-!
# Configurations

A configuration holds the level and the format of the log, as text until it is validated, and the
settings of the engine.
-/

namespace Rectilinear

structure Config where
  level : String := "info"
  format : String := "text"
  engine : Settings := {}
  deriving DecidableEq, Repr

inductive ConfigError where
  /-- There is no readable file at a path. -/
  | unreadable (path : String)
  /-- The text is no TOML, or not that of a configuration. -/
  | malformed
  /-- The level or the format is unknown. -/
  | invalid (reason : String)
  deriving DecidableEq, Repr

/-- The text of an error.  What is wrong with a malformed text is left to the host. -/
def ConfigError.message? : ConfigError → Option String
  | unreadable path => some ("Failed to read configuration file from " ++ Text.quote path)
  | malformed => none
  | invalid reason => some ("Configuration validation failed: " ++ reason)

namespace Config

instance : Inhabited Config :=
  ⟨{}⟩

/-- Lowercases the level and the format, in this order, up to the first that is unknown; the
configuration that results, and the error about the unknown one. -/
def validate (config : Config) : Config × Option ConfigError :=
  let level := Text.lowercase config.level
  let format := Text.lowercase config.format
  if (Log.Level.ofName? level).isNone then
    (config, some (.invalid (Log.invalidLevel config.level)))
  else if (Log.Format.ofName? format).isNone then
    ({ config with level }, some (.invalid (Log.invalidFormat config.format)))
  else
    ({ config with level, format }, none)

end Config

end Rectilinear
