import Rollout.Posix.Schedule
import Rollout.Posix.Shell.Builtin.Printing
import Rollout.Posix.Shell.Condition
import Rollout.Posix.Shell.Launching

/-!
# Running commands

One step of running a script says how each command runs, given how the
commands within it run; running a script is that step, as deep as the script
needs.
-/

namespace Rollout.Posix.Shell

open Rollout.Text (Bytes encode)

/-- Most rounds of one loop. -/
def roundLimit : Nat := 10000000

/-- How deep commands may stand within each other. -/
def depthLimit : Nat := 1000000

/-- The time that a command of the shell takes, in microseconds. -/
def commandTime : Nat := 3

/-- Signals that come from a terminal. -/
def terminalSignals : List Nat := [2, 3]

/-- How many functions may call one another. -/
def callLimit : Nat := 1000

namespace Builtin

def test (name : String) : Builtin := fun args => do
  let words ←
    if name = "[" then
      -- Only the first octet of the last word counts.
      if (args.getLast?.bind List.head?) = some 0x5D then pure args.dropLast
      else Act.fail (encode "missing ]")
    else pure args
  match Condition.holds (← Act.scope) (← Act.kernel) words with
  | .ok truth => return if truth then 0 else 1
  | .error text => Act.fail text

def exit : Builtin := fun args => do
  match args with
  | [] => throw .exit
  | word :: _ =>
    let status ← Act.number word
    Act.change fun scope => { scope with saved := some status }
    throw .exit

/-- The commands of the shell that need no other command. -/
def plain : List (Bytes × Builtin) :=
  let named : List (String × Builtin) := [
    (":", fun _ => return 0), ("[", test "["), ("alias", aliases), ("bg", front), ("cd", cd),
    ("chdir", cd), ("command", command), ("echo", echo), ("exit", exit),
    ("export", declare true), ("false", fun _ => return 1), ("fg", front), ("getopts", getopts),
    ("hash", hash), ("jobs", jobs), ("kill", kill), ("local", takeOver), ("printf", printf),
    ("pwd", pwd), ("read", read), ("readonly", declare false), ("set", set), ("shift", shift),
    ("test", test "test"), ("times", times), ("trap", trap), ("true", fun _ => return 0),
    ("type", type), ("ulimit", ulimit), ("umask", umask), ("unalias", unalias),
    ("unset", unset)]
  named.map fun (name, builtin) => (encode name, builtin)

/-- Leaves loops, or goes on with their next round. -/
def loops (flow : Nat → Flow) (args : List Bytes) : Act (Nat × Flow) := do
  let wanted ← match args with
    | [] => pure 1
    | word :: _ => do
      let n ← Act.number word
      if n = 0 then Act.badNumber word else pure n
  let count := min wanted (← Act.scope).loops
  return (0, if count = 0 then .next else flow (count - 1))

/-- Goes back from a function or a script. -/
def giveBack (args : List Bytes) : Act (Nat × Flow) := do
  match args with
  | [] => return ((← Act.scope).status, .back false)
  | word :: _ => return (← Act.number word, .back true)

end Builtin

/-- What is done after the body of a loop ran: the loop goes on, or it ends
with a flow for what stands around it. -/
def Flow.afterRound : Flow → Option Flow
  | next => none
  | again 0 => none
  | again (n + 1) => some (.again n)
  | leave 0 => some .next
  | leave (n + 1) => some (.leave n)
  | back given => some (.back given)

/-- The words of a command as far as they are expanded. -/
structure Wording where
  /-- The words from that of the command on. -/
  args : List Bytes
  /-- Words in front of them that say how the command is found. -/
  before : List Bytes := []
  rest : List Word
  withFunctions : Bool := true
  /-- The standard search path is used. -/
  standard : Bool := false
  /-- What is known of the first command of the shell among the words: whether
  it is special. -/
  special : Option Bool := none
  /-- Arguments may assign. -/
  assigning : Bool := false
  /-- The shell is replaced by what the arguments say. -/
  replaces : Bool := false

/-- What is listed as trace of a command. -/
def traceText (assigned : List (Bytes × Bytes)) (words : List Bytes) : Bytes :=
  let assigned := assigned.map fun (name, value) => name ++ 0x3D :: value
  [(0x20 : UInt8)].intercalate (assigned ++ words) ++ [10]

section

variable (run : Evaluator)

/-- Runs an action on all signals that came and that the shell has one for. -/
def attend (flow : Flow) : Nat → Act Flow
  | 0 => return flow
  | fuel + 1 => do
    let scope ← Act.scope
    if scope.traps.isEmpty || !(flow = .next) then return flow
    else
      match (← Act.kernel).takePending scope.own with
      | none => return flow
      | some (signal, kernel) =>
        Act.setKernel kernel
        let action := (scope.traps.lookup signal).getD []
        if action.isEmpty then attend flow fuel
        else
          let status := scope.saved.getD scope.status
          Act.change fun scope => { scope with saved := some status }
          let (flow, _) ← runText run {} false action
          if !(flow = .back true) then Act.setStatus status
          Act.change fun now => { now with saved := scope.saved }
          attend flow fuel

/-- The place in the list of jobs that a new one gets. -/
def freeIndex (listed : List Listed) : Nat :=
  let isTaken (index : Nat) : Bool := listed.any fun job =>
    job.index = index && !(job.isWaited && job.exit?.isSome)
  ((List.range (listed.length + 1)).find? fun n => !isTaken (n + 1)).getD listed.length + 1

/-- Waits until jobs of the shell are over, or a signal comes that it acts on;
that signal. -/
def awaitJobs (isMeant : Nat → Bool) (isAll : Bool) : Nat → Act (Option Nat)
  | 0 => return none
  | turns + 1 => do
    let _ ← Act.reap fun number => !isAll && isMeant number
    let scope ← Act.scope
    if scope.listed.all fun job => !isMeant job.number || job.exit?.isSome then
      Act.change fun scope => { scope with
        listed := scope.listed.map fun job => { job with
          isWaited := job.isWaited || isMeant job.number } }
      return none
    else
      match ((← Act.kernel).life? scope.own).bind (·.pending.max?) with
      | some signal => return some signal
      | none =>
        Act.doing (Work.await .child true)
        awaitJobs isMeant isAll turns

/-- Waits for the jobs that words name, or for all jobs of the shell. -/
def wait (args : List Bytes) : Act Nat := do
  let (_, args) ← Builtin.options "" args
  match args with
  | [] => do return (← awaitJobs (fun _ => true) true Work.patience).elim 0 (128 + ·)
  | words => waitFor 127 words
where
  waitFor (status : Nat) : List Bytes → Act Nat
    | [] => return status
    | word :: rest => do
      let listed := (← Act.scope).listed
      let found ← match word with
        | 0x25 :: _ => (fun job => some job.number) <$> Act.job false (some word)
        | word => (fun number =>
            if listed.any (·.number = number) then some number else none) <$> Act.number word
      match found with
      | none => waitFor status rest
      | some number =>
        match ← awaitJobs (· = number) false Work.patience with
        | some signal => return 128 + signal
        | none =>
          let job := (← Act.scope).listed.find? (·.number = number)
          waitFor ((job.bind Listed.exit?).getD (.code 0)).shown rest

/-- Reads a script in this shell. -/
def source (args : List Bytes) : Act (Nat × Flow) := do
  let (_, args) ← Builtin.options "" args
  match args with
  | [] => return (0, .next)
  | name :: _ =>
    let scope ← Act.scope
    let tree := (← Act.kernel).tree
    let isPlain (path : Bytes) : Bool := match tree.find scope.place path with
      | .ok (_, .file ..) => true
      | .ok (_, .program _) => true
      | _ => false
    let path ←
      if name.contains Path.slash then pure name
      else
        match (scope.searchPath.map (below · name)).find? isPlain with
        | some path => pure path
        | none => Act.fail (name ++ encode ": not found")
    let (own, handle) ← openScript path
    Act.change fun scope => { scope with command := some path }
    let (flow, status) ← Act.ending (runFile run {} false handle) (Act.rewire (·.close own))
    return (status, match flow with
      | .back _ => .next
      | flow => flow)

/-- Replaces the shell by a program. -/
def exec (args : List Bytes) : Act (Nat × Flow) := do
  match args with
  | [] => return (0, .next)
  | name :: _ =>
    let scope ← Act.scope
    let paths := if name.contains Path.slash then [name]
      else scope.searchPath.map (below · name)
    match ← prepared paths args with
    | .ok (start, process) => become run start process
    | .error error =>
      Act.warn (name ++ encode (": " ++ executeText error))
      Act.setStatus (executeStatus error)
      throw .done

/-- Carries out a command of the shell. -/
def carryOut (manner : Manner) (name : Bytes) (args : List Bytes) : Act (Nat × Flow) := do
  if let some builtin := Builtin.plain.lookup name then return (← builtin args, .next)
  match Text.lossy name with
  | "eval" =>
    if args.isEmpty then return (0, .next)
    else
      let (flow, status) ←
        runText run { tested := manner.tested } false ([(0x20 : UInt8)].intercalate args)
      return (status, flow)
  | "." => source run args
  | "exec" => exec run args
  | "wait" => return (← wait args, .next)
  | "break" => Builtin.loops .leave args
  | "continue" => Builtin.loops .again args
  | "return" => Builtin.giveBack args
  | _ => return (127, .next)

/-- Runs a command of the shell under its name; what it wrote is put out at
its end. -/
def builtin (manner : Manner) (name : Bytes) (args : List Bytes) : Act Flow := do
  let before := (← Act.scope).command
  let act : Act Flow := do
    Act.change fun scope => { scope with command := some name }
    let (status, flow) ← carryOut run manner name args
    match ← Act.flush with
    | none => Act.setStatus status
    | some _ =>
      Act.warn (name ++ encode ": I/O error")
      Act.setStatus (status ||| 1)
    return flow
  Act.ending act do
    let _ ← Act.flush
    Act.change fun scope => { scope with command := before }

/-- Runs a function with its own parameters. -/
def call (manner : Manner) (body : Node) (args : List Bytes) : Act Flow := do
  let before ← Act.scope
  if callLimit ≤ before.calls then
    Act.fail (encode s!"Maximum function recursion depth ({callLimit}) reached")
  Act.change fun scope => { scope with
    params := args, loops := 0, optionIndex := 1, optionOffset := none, calls := scope.calls + 1 }
  let flow ← Act.ending (run { tested := manner.tested } body) do
    Act.change fun scope => { scope with
      params := before.params, loops := before.loops, calls := before.calls
      optionIndex := before.optionIndex, optionOffset := before.optionOffset }
  return match flow with
    | .back _ => .next
    | flow => flow

/-- Expands words up to the first that is not empty; the others are left. -/
def fill : List Word → Act (List Bytes × List Word)
  | [] => return ([], [])
  | word :: rest => do
    match ← expandWord word with
    | [] => fill rest
    | args => return (args, rest)

/-- Passes over the options of a word that asks for the command behind it;
nothing if it does not. -/
def passOptions : Nat → List Bytes → Bool → List Bytes → List Word →
    Act (Option (List Bytes × Bool) × List Bytes × List Word)
  | 0, seen, _, args, rest => return (none, seen ++ args, rest)
  | fuel + 1, seen, standard, args, rest => do
    let (args, rest) ← if args.isEmpty then fill rest else pure (args, rest)
    match args with
    | [] => return (none, seen, rest)
    | [0x2D, 0x2D] :: others =>
      let (others, rest) ← if others.isEmpty then fill rest else pure (others, rest)
      if others.isEmpty then return (none, seen ++ args, rest)
      else return (some (others, standard), seen ++ [[0x2D, 0x2D]], rest)
    | (0x2D :: letter :: letters) :: others =>
      if (letter :: letters).all (· = 0x70) then
        passOptions fuel (seen ++ [0x2D :: letter :: letters]) true others rest
      else return (none, seen ++ args, rest)
    | args => return (some (args, standard), seen, rest)

/-- Looks at the commands of the shell in front of words. -/
def lookAhead : Nat → Wording → Act Wording
  | 0, wording => return wording
  | fuel + 1, wording => do
    let name := wording.args.headD []
    let isFunction := wording.withFunctions &&
      ((← Act.scope).functions.lookup name).isSome
    if isFunction || name.contains Path.slash || !isBuiltin name then
      return { wording with assigning := false, replaces := false }
    else
      let wording := { wording with
        assigning := assigns name
        special := some (wording.special.getD (isSpecialName name))
        replaces := name = encode "exec" }
      if name != encode "command" then return wording
      else
        match ← passOptions lengthLimit [] wording.standard (wording.args.drop 1)
          wording.rest with
        | (none, args, rest) => return { wording with args := name :: args, rest }
        | (some (args, standard), seen, rest) =>
          lookAhead fuel { wording with
            args, rest, standard, before := wording.before ++ name :: seen, withFunctions := false }
where
  lengthLimit : Nat := 1000000000

/-- What is shown in front of a command, expanded. -/
def expandLead (text : Bytes) : Act Bytes := do
  let scope ← Act.scope
  let source : Source := { text, documents := scope.documents }
  match source.document with
  | .error fault =>
    Act.say ({ scope with line := fault.line }.message (encode ("Syntax error: " ++ fault.text)))
    return text
  | .ok (word, documents) =>
    Act.change fun scope => { scope with documents }
    -- Where it cannot be expanded, it is shown as it is.
    Act.guarded (expandDocument word) (return text)

/-- Shows a command before it runs. -/
def trace (channels : Channels) (assigned : List (Bytes × Bytes)) (words : List Bytes) :
    Act Unit := do
  let scope ← Act.scope
  if scope.isSet 'x' then
    -- What is shown in front is not traced itself.
    Act.change fun scope => { scope with options := scope.options.filter (· != 'x') }
    let front ← expandLead ((scope.named? "PS4").getD [])
    Act.change fun now => { now with options := scope.options }
    match channels.lookup 2 with
    | some handle =>
      let _ ← Act.doing
        (Work.write handle (scope.limits.value .fileSize) (front ++ traceText assigned words))
    | none => return

/-- Runs what the words of a command stand for. -/
def perform (manner : Manner) (wording : Wording) : Act Flow := do
  match wording.args with
  | [] =>
    Act.change fun scope => { scope with status := scope.substituted }
    return .next
  | name :: args =>
    let scope ← Act.scope
    let directories := if wording.standard then standardPath else scope.searchPath
    match ← find wording.withFunctions directories name with
    | .function body => call run manner body args
    | .builtin =>
      let act := builtin run manner name args
      -- Errors of special commands end the shell.
      if wording.special = some true then act else Act.guarded act (return .next)
    | .missing error =>
      Act.warn (name ++ encode (": " ++ executeText error))
      Act.setStatus 127
      return .next
    | .program paths =>
      launch run manner paths wording.args
      return .next

/-- Runs a simple command. -/
def simple (manner : Manner) (line : Nat) (assignments : List (Bytes × Word)) (words : List Word)
    (redirects : List Redirect) : Act Flow := do
  Act.change fun scope => { scope with line, substituted := 0 }
  Act.doing (Work.spend commandTime)
  let (args, rest) ← fill words
  let wording ← if args.isEmpty then pure { args, rest }
    else lookAhead 1000000000 { args, rest }
  let more ← wording.rest.mapM fun word =>
    match if wording.assigning then assignment? word else none with
    | some (name, value) => return [name ++ 0x3D :: (← expandValue value)]
    | none => expandWord word
  let wording := { wording with args := wording.args ++ more.flatten, rest := [] }
  let before ← Act.scope
  -- Variables that are given to a command go with it, but for special ones.
  let isLocal := !wording.args.isEmpty && wording.special != some true
  if isLocal then Act.change fun scope => { scope with frames := [] :: scope.frames }
  let reroutings ← reroutings redirects
  let (kept, isDone) ← rerouteAll true [] reroutings
  let act : Act Flow := do
    if !isDone then
      Act.setStatus 2
      if wording.special = some true then throw .fault
      return .next
    else
      let exported := wording.replaces && 1 < wording.args.length
      let assigned ← assignments.mapM fun (name, word) => do
        let value ← expandValue word
        if isLocal then Act.makeLocal name (some value) true
        else Act.assign name (some value) exported
        return (name, value)
      trace before.channels assigned (wording.before ++ wording.args)
      perform run manner wording
  let flow ← Act.ending act do
    if wording.replaces then forget kept else restore kept
  Act.unwind before.frames.length
  return flow

/-- Starts the stages of a pipe, each in a shell of its own; the input of the
first is given, if it has one of its own. -/
def stages (scope : Scope) (tested : Bool) :
    List Node → Option Handle → Act (List Nat)
  | [], _ => return []
  | node :: rest, input => do
    let channels := match input with
      | some handle => scope.channels.put 0 handle
      | none => scope.channels
    if rest.isEmpty then return [← Act.bearShell { scope with channels } [] tested node]
    else
      Act.needRoom (if input.isSome then 1 else 0)
      let (next, output) ← Act.doing (Work.update fun kernel =>
        let (next, output, kernel) := kernel.openPipe (some Stream.pipeRoom)
        ((next, output), kernel))
      let number ← Act.bearShell { scope with channels := channels.put 1 output } [] tested node
      return number :: (← stages scope tested rest (some next))

/-- Runs a body as long as a condition holds, or, if `isUntil`, fails. -/
def rounds (isUntil : Bool) (manner : Manner) (condition body : Node) : Nat → Nat → Act (Flow × Nat)
  | 0, status => return (.next, status)
  | fuel + 1, status => do
    let flow ← run { tested := true } condition
    match flow.afterRound with
    | some after =>
      let now := (← Act.scope).status
      return (after, match flow with
        | .back _ => now
        | _ => status)
    | none =>
      if flow != .next then rounds isUntil manner condition body fuel status
      else if ((← Act.scope).status = 0) = isUntil then return (.next, status)
      else
        let flow ← run { tested := manner.tested } body
        let status := (← Act.scope).status
        match flow.afterRound with
        | some after => return (after, status)
        | none => rounds isUntil manner condition body fuel status

/-- Runs a body for each of some values of a variable. -/
def forEach (manner : Manner) (name : Bytes) (body : Node) (status : Nat) :
    List Bytes → Act (Flow × Nat)
  | [] => return (.next, status)
  | value :: rest => do
    Act.assign name (some value)
    let flow ← run { tested := manner.tested } body
    let status := (← Act.scope).status
    match flow.afterRound with
    | some after => return (after, status)
    | none => forEach manner name body status rest

/-- Runs something within one more loop. -/
def looping (act : Act (Flow × Nat)) : Act Flow := do
  Act.change fun scope => { scope with loops := scope.loops + 1 }
  let (flow, status) ← act
  Act.change fun scope => { scope with loops := scope.loops - 1, status }
  return flow

/-- Whether one of some patterns fits. -/
def anyFits (subject : Bytes) : List Word → Act Bool
  | [] => return false
  | pattern :: rest => do
    let glyphs ← expandPattern pattern
    if fits glyphs subject then return true else anyFits subject rest

/-- Runs the first arm with a pattern that fits. -/
def firstArm (manner : Manner) (subject : Bytes) : List (List Word × Node) → Act Flow
  | [] => do
    Act.setStatus 0
    return .next
  | (patterns, body) :: rest => do
    if ← anyFits subject patterns then
      match body with
      | .nothing =>
        Act.setStatus 0
        return .next
      | body => run manner body
    else firstArm manner subject rest

/-- Starts a part of a script that runs beside. -/
def beside (body : Node) (redirects : List Redirect) : Act Unit := do
  let reroutings ← reroutings redirects
  let scope ← Act.scope
  -- A job has no input, and signals from a terminal do not end it.
  let handle ← Act.doing (Work.update (·.openFile { target := .device .void, reads := true }))
  let inner := scope.within (scope.channels.put 0 handle)
  let inner := { inner with deaf := inner.deaf ++ terminalSignals }
  let numbers ← match body, reroutings with
    | .pipe nodes, [] => stages inner false nodes none
    | body, reroutings => do pure [← Act.bearShell inner reroutings false body]
  Act.change fun scope => { scope with
    lastJob := numbers.getLast?, status := 0
    listed := ⟨freeIndex scope.listed, numbers.map (·, none), false⟩ ::
      scope.listed.filter (·.index != freeIndex scope.listed) }

/-- Runs a node in a shell of its own, or in this one if that ends with it. -/
def subshell (manner : Manner) (body : Node) (redirects : List Redirect) : Act Unit := do
  let reroutings ← reroutings redirects
  let scope ← Act.scope
  if manner.last && scope.traps.all (·.2.isEmpty) then
    Act.change fun scope => { scope with reached := scope.fileLine }
    rerouteForGood reroutings
    let _ ← run { tested := manner.tested, last := true } body
    throw .done
  else
    let number ← Act.bearShell (scope.within scope.channels) reroutings manner.tested body
    Act.setStatus (← Act.await [number]).shown

/-- Runs one node, given how the nodes within it run; and whether its failing
may end the shell. -/
def stepOf (manner : Manner) (node : Node) : Act (Flow × Bool) := do
  let inner : Manner := { tested := manner.tested }
  let tested : Manner := { tested := true }
  match node with
  | .nothing => return (.next, false)
  | .simple line assignments words redirects =>
    return (← simple run manner line assignments words redirects, true)
  | .pipe nodes =>
    let scope ← Act.scope
    let numbers ← stages (scope.within scope.channels) manner.tested nodes none
    Act.setStatus (← Act.await numbers).shown
    return (.next, true)
  | .negated body =>
    let flow ← run tested body
    if flow = .next then
      Act.change fun scope => { scope with status := if scope.status = 0 then 1 else 0 }
    return (flow, false)
  | .both first second =>
    let flow ← run tested first
    if flow != .next || (← Act.scope).status != 0 then return (flow, false)
    else return (← run manner second, false)
  | .either first second =>
    let flow ← run tested first
    if flow != .next || (← Act.scope).status = 0 then return (flow, false)
    else return (← run manner second, false)
  | .sequence first second =>
    let flow ← run inner first
    if flow != .next then return (flow, false) else return (← run manner second, false)
  | .background line body redirects =>
    Act.change fun scope => { scope with line }
    beside body redirects
    return (.next, true)
  | .subshell line body redirects =>
    Act.change fun scope => { scope with line }
    subshell run manner body redirects
    return (.next, true)
  | .redirected line body redirects =>
    Act.change fun scope => { scope with line }
    let reroutings ← reroutings redirects
    let (kept, isDone) ← rerouteAll true [] reroutings
    Act.ending (do
      if isDone then return (← run inner body, false)
      else
        Act.setStatus 2
        return (.next, true)) (restore kept)
  | .branch condition body other =>
    let flow ← run tested condition
    if flow != .next then return (flow, false)
    else if (← Act.scope).status = 0 then return (← run manner body, false)
    else
      match other with
      | .nothing =>
        Act.setStatus 0
        return (.next, false)
      | other => return (← run manner other, false)
  | .loop isUntil condition body =>
    return (← looping (rounds run isUntil manner condition body roundLimit 0), false)
  | .each line name words body =>
    Act.change fun scope => { scope with line }
    let values ← words.mapM (expandWord)
    return (← looping (forEach run manner name body 0 values.flatten), false)
  | .select line subject arms =>
    Act.change fun scope => { scope with line }
    let subject ← expandText subject
    return (← firstArm run manner subject arms, false)
  | .define _ name body =>
    Act.change fun scope => { scope with
      functions := (name, body) :: scope.functions.filter (·.1 != name)
      remembered := scope.remembered.filter (·.1 != name)
      status := 0 }
    return (.next, false)

/-- Runs one node, given how the nodes within it run. -/
def step : Evaluator := fun manner node => do
  if (← Act.scope).isSet 'n' then return .next
  else
    let (flow, checks) ← stepOf run manner node
    let flow ← attend run flow (signalLimit + 1)
    let scope ← Act.scope
    if checks && !manner.tested && scope.isSet 'e' && scope.status != 0 then throw .done
    return flow

end

/-- Runs a node; commands that stand too deep end the shell. -/
def evaluate : Nat → Evaluator
  | 0 => fun _ _ => throw .done
  | depth + 1 => step (evaluate depth)

/-- Runs a process that a shell started. -/
def begin : Begin Birth
  | .shell scope reroutings tested body => do
    let run := evaluate depthLimit
    let act : Act Unit := do
      Act.heed
      rerouteForGood reroutings
      let _ ← run { tested, last := true } body
    let (result, after) ← act.perform scope
    conclude run result after
  | .program start process => runProgram (evaluate depthLimit) start process

end Rollout.Posix.Shell
