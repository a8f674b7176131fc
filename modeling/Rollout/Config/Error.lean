import Rollout.Path
import Rollout.IoError

/-!
# Errors of settings

Why no settings could be had. A file that cannot be read has causes behind
it; the other errors stand alone.
-/

namespace Rollout

inductive ConfigError where
  /-- The file is there and cannot be read as text. -/
  | unreadable (path : Path) (source : IoError)
  /-- The text is no document with these settings. -/
  | undecodable (path : Path)
  /-- An environment entry holds a value that its setting cannot take. -/
  | override (name value : String)
  /-- A setting has a value that no deploy can use. -/
  | invalid (text : String)
  deriving DecidableEq, Repr

namespace ConfigError

def message : ConfigError → String
  | unreadable path _ => "failed to read config file: " ++ path.display
  | undecodable path => "config parse error: " ++ path.display
  | override name value => "env var invalid: " ++ name ++ "=" ++ value
  | invalid text => "config validation error: " ++ text

/-- The texts of the causes, outermost first. -/
def causes : ConfigError → List String
  | unreadable _ source => source.texts
  | _ => []

end ConfigError

end Rollout
