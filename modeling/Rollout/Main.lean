import Rollout.Flags.Parse
import Rollout.Hook
import Rollout.Posix.Network
import Rollout.Posix.System

/-!
# The command line

Rehearses deploys. The command line, the environment and the settings file
are those of the process; requests come as lines of standard input, a method
and a target each, and deploys run on the small system, so that nothing else
is touched.
-/

namespace Rollout

namespace Event

/-- The line that an event is shown as. -/
def line (event : Event) : String :=
  event.fields.foldl (fun line (name, value) => line ++ " " ++ name ++ "=" ++ (match value with
    | .number n => toString n
    | .text text => text)) (event.level.name ++ " " ++ event.message)

end Event

namespace Rehearsal

def tell (log : Log) : IO Unit :=
  log.forM fun event => IO.eprintln event.line

/-- What is at the path of the settings file. -/
def fileState (path : Path) : IO FileState := do
  try
    return .readable (← IO.FS.readBinFile path.display).toList
  catch
    | .noFileOrDirectory .. => return .missing
    | error => return .unreadable (.message (toString error))

def overrides : IO Overrides := do
  let entry (name : String) : IO (Option Text.Bytes) := do
    return (← IO.getEnv name).map Text.encode
  return {
    host := ← entry Overrides.hostName
    port := ← entry Overrides.portName
    dir := ← entry Overrides.dirName }

/-- The request of a line. -/
def request (line : String) : Except Http.Request.Fault Http.Request :=
  let method := line.toList.takeWhile (· != ' ')
  Http.Request.make (String.ofList method)
    (String.ofList (line.toList.drop (method.length + 1))) [] ""

/-- Answers the lines of standard input until there are no more. -/
partial def answerLines (service : Http.Service) (world : Posix.World) : IO Unit := do
  let line ← (← IO.getStdin).getLine
  if line.isEmpty then return
  let line := String.ofList (line.toList.filter fun c => c != '\n' && c != '\r')
  if line.isEmpty then answerLines service world
  else
    match request line with
    | .error fault =>
      IO.eprintln fault.message
      answerLines service world
    | .ok request =>
      let report := service.handle (Posix.system []) request world
      tell report.log
      match report.value with
      | .ok response =>
        IO.println (toString response.status)
        response.headers.forM fun (name, value) => IO.println (name ++ ": " ++ value)
        IO.println ("\n" ++ response.body)
      | .error refusal => IO.eprintln refusal.message
      answerLines service report.world

/-- Does what a command line asks for, and gives the exit code. -/
def run (words : List Text.Bytes) : IO UInt32 := do
  match Flags.parse words with
  | .error stop =>
    if stop.exitCode = 0 then IO.print (stop.message words)
    else IO.eprintln (stop.message words)
    return stop.exitCode.toUInt32
  | .ok flags =>
    let (log, result) := Hook.launch flags {
      file := ← fileState flags.config
      overrides := ← overrides
      network := Posix.network
      startedAt := Posix.clock }
    tell log
    match result with
    | .error failure =>
      IO.eprintln failure.message
      failure.causes.forM fun cause => IO.eprintln ("caused by: " ++ cause)
      return 1
    | .ok server =>
      tell [server.listener.listening server.endpoint.debug]
      answerLines server.service (.ofTree (Posix.FileTree.fresh []))
      tell [Http.Traffic.stopping, Http.Traffic.stopped]
      return 0

end Rehearsal

end Rollout

def main (args : List String) : IO UInt32 :=
  Rollout.Rehearsal.run (("deploy-hook" :: args).map Rollout.Text.encode)
