import Rollout.Text.Blank
import Rollout.Event
import Rollout.Port
import Rollout.Config.Decode
import Rollout.Config.Error
import Rollout.Toml.Document

/-!
# Loading settings

Settings come from a file, which may be missing, and from environment
entries over it. A blank entry counts as not given.
-/

namespace Rollout

/-- What is found at the path of a settings file. -/
inductive FileState where
  | missing
  | unreadable (error : IoError)
  | readable (octets : Text.Bytes)
  deriving DecidableEq

/-- The environment entries that settings look at, as the process has them. -/
structure Overrides where
  host : Option Text.Bytes := none
  port : Option Text.Bytes := none
  dir : Option Text.Bytes := none
  deriving DecidableEq

namespace Overrides

def hostName : String := "DEPLOY_HOOK_HOST"
def portName : String := "DEPLOY_HOOK_PORT"
def dirName : String := "DEPLOY_HOOK_WORKDIR"

/-- The text of an entry; one that is not UTF-8 or blank counts as not given. -/
def given? (entry : Option Text.Bytes) : Option String :=
  (entry.bind Text.decode?).filter fun text => !Text.blank text

end Overrides

namespace Config

/-- Where settings are looked for unless a path is given. -/
def defaultPath : Path := .ofString "config.toml"

/-- The event of a missing file. -/
def missing (path : Path) : Event where
  level := .debug
  message := "config file " ++ path.display ++ " not found, using defaults"

/-- The settings of a file. -/
def ofFile (path : Path) : FileState → Except ConfigError Config
  | .missing => .ok {}
  | .unreadable error => .error (.unreadable path error)
  | .readable octets =>
    match Text.decode? octets with
    | none => .error (.unreadable path .invalidText)
    | some text =>
      match Toml.read? text >>= Config.ofEntries? .ignored with
      | some config => .ok config
      | none => .error (.undecodable path)

/-- The settings with those of environment entries put over them. -/
def override (overrides : Overrides) (config : Config) : Except ConfigError Config := do
  let host := ((Overrides.given? overrides.host).map Text.trim).getD config.server.host
  let port ← match Overrides.given? overrides.port with
    | none => .ok config.server.port
    | some text =>
      -- The port is read without its blanks and, where it is none, reported with them.
      match Port.ofText? (Text.trim text) with
      | some port => .ok port
      | none => .error (.override Overrides.portName text)
  let dir := ((Overrides.given? overrides.dir).map fun text =>
    Path.ofString (Text.trim text)).getD config.deploy.dir
  return { config with
    server := { host, port }
    deploy := { config.deploy with dir } }

/-- Refuses settings that no deploy can use. -/
def check (config : Config) : Except ConfigError Config :=
  if Text.blank config.deploy.git then .error (.invalid "deploy.git must not be empty")
  else if Text.blank config.deploy.remote then
    .error (.invalid "deploy.remote must not be empty")
  else .ok config

/-- Loads the settings of a file that is in this state. -/
def load (path : Path) (file : FileState) (overrides : Overrides) :
    Log × Except ConfigError Config :=
  -- Settings are checked after the entries were put over them.
  (if file = .missing then [missing path] else [],
    (ofFile path file >>= override overrides) >>= check)

end Config

end Rollout
