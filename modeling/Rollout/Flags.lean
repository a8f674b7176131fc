import Rollout.Config.Load

/-!
# Flags

What a command line may say: where the settings file is, which settings it
overrides, and whether the program tells more than usual.
-/

namespace Rollout

structure Flags where
  debug : Bool := false
  config : Path := Config.defaultPath
  host : Option String := none
  port : Option Port := none
  dir : Option Path := none
  deriving DecidableEq

/-- The settings with those of the flags put over them. -/
def Flags.apply (flags : Flags) (config : Config) : Config where
  server := {
    host := flags.host.getD config.server.host
    port := flags.port.getD config.server.port }
  deploy := { config.deploy with dir := flags.dir.getD config.deploy.dir }

/-- Loads the settings that flags point to and puts the flags over them. -/
def Flags.settings (flags : Flags) (file : FileState) (overrides : Overrides) :
    Log × Except ConfigError Config :=
  let (log, loaded) := Config.load flags.config file overrides
  (log, loaded.map flags.apply)

/-- The flags that a command line may name. -/
inductive Flag where
  | debug
  | config
  | host
  | port
  | dir
  | help
  | version
  deriving DecidableEq, Repr

namespace Flag

/-- The name of a flag after two dashes. -/
def name : Flag → String
  | debug => "debug"
  | config => "config"
  | host => "host"
  | port => "port"
  | dir => "workdir"
  | help => "help"
  | version => "version"

def all : List Flag := [debug, config, host, port, dir, help, version]

def ofName? (name : String) : Option Flag :=
  all.find? fun flag => flag.name == name

/-- The flag that one letter after a single dash stands for. -/
def ofLetter? : Char → Option Flag
  | 'd' => some debug
  | 'h' => some help
  | 'V' => some version
  | _ => none

/-- A flag that has to be given a value. -/
def takesValue : Flag → Bool
  | config | host | port | dir => true
  | debug | help | version => false

/-- How messages show a flag. -/
def shown : Flag → String
  | debug => "--debug"
  | config => "--config <CONFIG>"
  | host => "--host <HOST>"
  | port => "--port <PORT>"
  | dir => "--workdir <WORKDIR>"
  | help => "--help"
  | version => "--version"

end Flag

end Rollout
