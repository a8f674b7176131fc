import Rollout.Posix.Shell.Builtin.Jobs
import Rollout.Posix.Shell.Redirection

/-!
# Running scripts

The lines of a script one after another, and what a shell does at its end, all
given how a command runs.
-/

namespace Rollout.Posix.Shell

open Rollout.Text (Bytes encode)

/-- How a command is run. -/
structure Manner where
  /-- The status of what runs is looked at, so that failing is no error. -/
  tested : Bool := false
  /-- The shell ends after what it runs. -/
  last : Bool := false

/-- Runs a node of a script. -/
abbrev Evaluator := Manner → Node → Act Flow

section

variable (run : Evaluator)

/-- Runs the lines of a script one after another; each line is read when the
ones before it are done, and more text comes from an open file if one is
given. The status is that of the last command, if any. With `shows`, lines may
be shown as they are read; with `isFirst`, they are those of the file that the
shell started with. -/
def runLines (manner : Manner) (shows isFirst : Bool) :
    Nat → Option Handle → Nat → Source → Act (Flow × Nat)
  | 0, _, status, _ => return (.next, status)
  | fuel + 1, feed, status, source => do
    let scope ← Act.scope
    let showing := shows && scope.isSet 'v'
    let source := { source with
      aliases := scope.aliases, documents := scope.documents, isSpent := false }
    let found := source.step
    let isSpent := match found with
      | .error fault => fault.isSpent
      | .ok (_, after) => after.isSpent
    match if isSpent then feed else none with
    | some handle =>
      -- More text may belong to what was read.
      match ← Act.doing (Work.read handle feedSize) with
      | .ok (b :: more) =>
        let more := (b :: more).filter (· != 0)
        runLines manner shows isFirst fuel feed status { source with text := source.text ++ more }
      | _ => runLines manner shows isFirst fuel none status source
    | none =>
      match found with
      | .error fault =>
        if showing then
          let lines := (source.text.splitOn 10).take (fault.line + 1 - source.line)
          Act.say ([(10 : UInt8)].intercalate lines ++ [10])
        Act.change fun scope => { scope with line := fault.line }
        Act.fail (encode ("Syntax error: " ++ fault.text))
      | .ok (.finish, after) =>
        if showing then Act.say (source.text.take (source.text.length - after.text.length))
        return (.next, status)
      | .ok (.commands node isLast, after) =>
        if showing then Act.say (source.text.take (source.text.length - after.text.length))
        Act.change fun scope => { scope with
          documents := after.documents, reached := after.line
          fileLine := if isFirst then after.line else scope.fileLine }
        match node with
        | .nothing => runLines manner shows isFirst fuel feed status after
        | node =>
          let flow ← run { manner with last := manner.last && isLast } node
          let status := (← Act.scope).status
          if flow = .next then runLines manner shows isFirst fuel feed status after
          else return (flow, status)
where
  /-- How much text is read at once. -/
  feedSize : Nat := 8192

/-- Runs the lines of a script, and goes back to the line of the one around it. -/
def runWithin (manner : Manner) (shows isFirst : Bool) (fuel : Nat) (feed : Option Handle)
    (source : Source) : Act (Flow × Nat) := do
  let before := (← Act.scope).reached
  Act.ending (runLines run manner shows isFirst fuel feed 0 source)
    (Act.change fun scope => { scope with reached := before })

/-- Runs a text as a script. -/
def runText (manner : Manner) (shows : Bool) (text : Bytes) : Act (Flow × Nat) :=
  runWithin run manner shows false (text.length + 2) none { text }

/-- Runs an open file as a script, which may be that the shell started with.
Zero octets are passed over. -/
def runFile (manner : Manner) (isFirst : Bool) (handle : Handle) : Act (Flow × Nat) := do
  if ((← Act.kernel).streamOf? handle).isSome then
    runWithin run manner true isFirst Work.patience (some handle) { text := [] }
  else
    match ← Act.doing (Work.readAll handle) with
    | .ok octets =>
      let text := octets.filter (· != 0)
      runWithin run manner true isFirst (text.length + 2) none { text }
    | .error _ => return (.next, 0)

/-- Ends a shell: what it does at its end, and how it ended. -/
def conclude (result : Except Stop Unit) (scope : Scope) : Work Birth Exit := do
  let statusOf (result : Except Stop Unit) (scope : Scope) : Nat :=
    match result with
    | .error .exit => scope.saved.getD scope.status
    | _ => scope.status
  match result with
  | .error (.killed signal) => return .signal signal
  | result =>
    let status := statusOf result scope
    match scope.traps.lookup 0 with
    | none => return .code status
    | some action =>
      -- The action at the end runs once; unless it fails, the status stays.
      let act : Act Unit := do
        let _ ← runText run {} false action
        Act.setStatus status
      let traps := scope.traps.filter (·.1 != 0)
      match ← act.perform { scope with traps, status, saved := some status } with
      | (.error (.killed signal), _) => return .signal signal
      | (result, scope) => return .code (statusOf result scope)

end

end Rollout.Posix.Shell
