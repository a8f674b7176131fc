import Rollout.Path
import Rollout.Vars

/-!
# Settings

Where the server listens and how a deploy runs, with the defaults of every
setting.
-/

namespace Rollout

/-- A port number: no reader of one may exceed sixteen bits. -/
abbrev Port := UInt16

namespace ServerConfig

def defaultHost : String := "0.0.0.0"

def defaultPort : Port := 4747

end ServerConfig

/-- Where the server listens. -/
structure ServerConfig where
  host : String := ServerConfig.defaultHost
  port : Port := ServerConfig.defaultPort
  deriving DecidableEq

namespace DeployConfig

def defaultDir : Path := .ofString "/home/dmp/dmp-graph"

def defaultGit : String := "git"

def defaultRemote : String := "origin"

def defaultScript : List String := ["bash", "deploy/deploy.bash"]

def defaultRestart : List String := ["service", "neo4j", "restart"]

end DeployConfig

/-- Where and how a deploy runs. -/
structure DeployConfig where
  dir : Path := DeployConfig.defaultDir
  /-- The program used for fetching and checking out. -/
  git : String := DeployConfig.defaultGit
  remote : String := DeployConfig.defaultRemote
  script : List String := DeployConfig.defaultScript
  restart : List String := DeployConfig.defaultRestart
  /-- Environment entries of every command of a deploy. -/
  env : Vars := .empty
  deriving DecidableEq

structure Config where
  server : ServerConfig := {}
  deploy : DeployConfig := {}
  deriving DecidableEq

end Rollout
