import Rollout.Command
import Rollout.Config
import Rollout.Runner

/-!
# Plans

The commands of a deploy: fetch, fetch the tags, check out, then the deploy
script and the restart, each where the settings name one.
-/

namespace Rollout

/-- What is checked out where a request names nothing. -/
def defaultTag : String := "HEAD"

def resolveTag (tag : Option String) : String :=
  tag.getD defaultTag

/-- The fixed part of a deploy. -/
structure Plan where
  git : String
  remote : String
  script : Option Command
  restart : Option Command
  deriving DecidableEq

namespace Plan

def ofConfig (config : DeployConfig) : Plan where
  git := config.git
  remote := config.remote
  script := Command.ofWords? config.script
  restart := Command.ofWords? config.restart

/-- The commands that deploy `tag`, in order. -/
def commands (plan : Plan) (tag : String) : List Command :=
  [(Command.new plan.git).withArgs ["fetch", plan.remote],
    (Command.new plan.git).withArgs ["fetch", "--tags", plan.remote],
    (Command.new plan.git).withArgs ["checkout", tag]] ++
  plan.script.toList ++ plan.restart.toList

end Plan

/-- The runner that a deploy's settings ask for. -/
def Runner.ofConfig (config : DeployConfig) : Runner where
  dir := config.dir
  env := config.env

end Rollout
