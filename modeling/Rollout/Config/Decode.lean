import Rollout.Config
import Rollout.Value

/-!
# Reading settings from values

A section is written as a table, where each setting goes by its name, or as
a list, where each goes by its place. Settings that are not given keep their
defaults, and names that are no setting are passed over. A setting that is
given with a value of the wrong kind makes the whole section unreadable.
-/

namespace Rollout

/-- What becomes of items past the last setting of a list. -/
inductive Surplus where
  | ignored
  | refused
  deriving DecidableEq, Repr

namespace Decode

/-- Reads a path. -/
def path (value : Value) : Option Path :=
  value.text?.map Path.ofString

/-- Reads a list of words. -/
def words (value : Value) : Option (List String) :=
  value.items? >>= fun items => items.mapM Value.text?

/-- Reads a port: an integer of sixteen bits. -/
def port (value : Value) : Option Port :=
  value.integer? >>= fun n => if 0 ≤ n ∧ n < 65536 then some (UInt16.ofNat n.toNat) else none

/-- Reads environment entries. -/
def vars (value : Value) : Option Vars := do
  let entries ← value.entries?
  let pairs ← entries.mapM fun (entry : String × Value) => entry.2.text?.map (entry.1, ·)
  return Vars.ofList pairs

/-- The setting `name` of a table, or its default where it is not given. -/
def named {α : Type} (read : Value → Option α) (name : String) (fallback : α)
    (entries : List (String × Value)) : Option α :=
  match entries.lookup name with
  | some value => read value
  | none => some fallback

/-- The setting at the front of a list, or its default at the end of it,
with what comes after. -/
def next {α : Type} (read : Value → Option α) (fallback : α) :
    List Value → Option (α × List Value)
  | [] => some (fallback, [])
  | value :: rest => (read value).map (·, rest)

/-- Whether the end of a list is as it should be. -/
def atEnd (surplus : Surplus) (rest : List Value) : Bool :=
  rest.isEmpty || surplus == .ignored

end Decode

open Decode

namespace ServerConfig

def ofEntries? (entries : List (String × Value)) : Option ServerConfig := do
  let host ← named Value.text? "host" defaultHost entries
  let port ← named Decode.port "port" defaultPort entries
  return { host, port }

def ofItems? (surplus : Surplus) (items : List Value) : Option ServerConfig := do
  let (host, items) ← next Value.text? defaultHost items
  let (port, items) ← next Decode.port defaultPort items
  if atEnd surplus items then some { host, port } else none

def ofValue? (surplus : Surplus) (value : Value) : Option ServerConfig :=
  -- A list goes by place, a table by name.
  match value.items? with
  | some items => ofItems? surplus items
  | none => value.entries? >>= ofEntries?

end ServerConfig

namespace DeployConfig

def ofEntries? (entries : List (String × Value)) : Option DeployConfig := do
  let dir ← named path "workdir" defaultDir entries
  let git ← named Value.text? "git" defaultGit entries
  let remote ← named Value.text? "remote" defaultRemote entries
  let script ← named words "script" defaultScript entries
  let restart ← named words "restart" defaultRestart entries
  let env ← named vars "env" .empty entries
  return { dir, git, remote, script, restart, env }

def ofItems? (surplus : Surplus) (items : List Value) : Option DeployConfig := do
  let (dir, items) ← next path defaultDir items
  let (git, items) ← next Value.text? defaultGit items
  let (remote, items) ← next Value.text? defaultRemote items
  let (script, items) ← next words defaultScript items
  let (restart, items) ← next words defaultRestart items
  let (env, items) ← next vars .empty items
  if atEnd surplus items then some { dir, git, remote, script, restart, env } else none

def ofValue? (surplus : Surplus) (value : Value) : Option DeployConfig :=
  match value.items? with
  | some items => ofItems? surplus items
  | none => value.entries? >>= ofEntries?

end DeployConfig

namespace Config

def ofEntries? (surplus : Surplus) (entries : List (String × Value)) : Option Config := do
  let server ← named (ServerConfig.ofValue? surplus) "http_server" {} entries
  let deploy ← named (DeployConfig.ofValue? surplus) "deploy" {} entries
  return { server, deploy }

end Config

end Rollout
