import Rollout.Config
import Rollout.Value

/-!
# Settings as values

Every setting under its name, as a document would hold it.
-/

namespace Rollout

def ServerConfig.toValue (config : ServerConfig) : Value :=
  .table [("host", .text config.host), ("port", .integer config.port.toNat)]

def DeployConfig.toValue (config : DeployConfig) : Value :=
  .table [
    ("workdir", .text config.dir.display),
    ("git", .text config.git),
    ("remote", .text config.remote),
    ("script", .list (config.script.map .text)),
    ("restart", .list (config.restart.map .text)),
    ("env", .table (config.env.toList.map fun (key, value) => (key, .text value)))]

def Config.toValue (config : Config) : Value :=
  .table [("http_server", config.server.toValue), ("deploy", config.deploy.toValue)]

end Rollout
