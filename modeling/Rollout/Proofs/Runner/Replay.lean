import Rollout.Proofs.Runner.RunLaws

/-!
# A sequence on recorded endings

Commands with how each of them ended, and a system that answers with the
endings alone. A sequence goes on it as it went where they were recorded, and
no ending is left over.
-/

namespace Rollout

/-- Commands that were run, each with how it ended. -/
abbrev Record := List (Command × Ending)

namespace Record

def commands (record : Record) : List Command :=
  record.map (·.1)

def endings (record : Record) : List Ending :=
  record.map (·.2)

/-- The texts of all commands, in order. -/
def text (record : Record) : String :=
  String.join (record.endings.map Ending.text)

def results (record : Record) : List (Command × Except Refusal (Except ProcessError Finished)) :=
  record.map fun (command, ending) => (command, .ok (Runner.resultOf command ending))

/-- Every command exited with code zero. -/
def Successful (record : Record) : Prop :=
  ∀ pair ∈ record, pair.2.succeeded = true

/-- Of `commands`, those that a sequence runs: all of them, and they exited with
code zero, or those up to the first that did not. -/
def Complete (commands : List Command) (record : Record) : Prop :=
  record.commands = commands ∧ record.Successful ∨
  ∃ before command ending, record = before ++ [(command, ending)] ∧ record.commands <+: commands ∧
    Successful before ∧ ending.succeeded = false

variable {record : Record} {command : Command} {ending : Ending}

@[simp] theorem commands_append_singleton :
    commands (record ++ [(command, ending)]) = record.commands ++ [command] := by
  simp [commands]

@[simp] theorem length_commands : record.commands.length = record.length := by
  simp [commands]

theorem text_append_singleton :
    text (record ++ [(command, ending)]) = record.text ++ ending.text := by
  simp [text, endings]

theorem results_append_singleton : results (record ++ [(command, ending)]) =
    record.results ++ [(command, .ok (Runner.resultOf command ending))] := by
  simp [results]

theorem Successful.append (h : record.Successful) (hending : ending.succeeded = true) :
    Successful (record ++ [(command, ending)]) := by
  intro pair hm
  rcases List.mem_append.1 hm with hm | hm
  · exact h pair hm
  · rw [List.mem_singleton.1 hm]
    exact hending

end Record

namespace Runner

/-- The commands that a sequence runs, each with how it ends. -/
def recordOf {World : Type} (system : System World) (runner : Runner) :
    List Command → World → Record
  | [], _ => []
  | command :: rest, world =>
    let answer := ask system runner command world
    if answer.2.succeeded then (command, answer.2) :: recordOf system runner rest answer.1
    else [(command, answer.2)]

variable {World : Type} {system : System World} {runner : Runner} {command : Command}
  {commands rest : List Command} {world : World}

theorem commands_recordOf : (recordOf system runner commands world).commands =
    executed system runner commands world := by
  induction commands generalizing world with
  | nil => rfl
  | cons command rest ih =>
    cases hs : (ask system runner command world).2.succeeded with
    | true => simpa [recordOf, executed, hs, Record.commands] using ih
    | false => simp [recordOf, executed, hs, Record.commands]

theorem recordOf_cons_of_succeeded (h : (ask system runner command world).2.succeeded = true) :
    recordOf system runner (command :: rest) world =
      (command, (ask system runner command world).2) ::
        recordOf system runner rest (ask system runner command world).1 := by
  simp [recordOf, h]

theorem recordOf_cons_of_stop (h : (ask system runner command world).2.succeeded = false) :
    recordOf system runner (command :: rest) world =
      [(command, (ask system runner command world).2)] := by
  simp [recordOf, h]

end Runner

/-- A system that answers as told, in order, whatever it is asked. -/
def System.replaying : System (List Ending) :=
  -- Nothing can be started once the answers are used up.
  fun endings _ => (endings.tail, endings.headD (.notStarted .notFound))

namespace Runner

variable {runner : Runner} {record : Record} {command : Command} {ending : Ending}
  {rest : List Command} {others : List Ending}

@[simp] theorem ask_replaying :
    ask .replaying runner command (ending :: others) = (others, ending) := rfl

variable (runner record others) in
theorem endings_replaying :
    endings .replaying runner record.commands (record.endings ++ others) = record.endings := by
  induction record with
  | nil => rfl
  | cons pair record ih => simpa [Record.commands, Record.endings] using ih

variable (runner record others) in
theorem worldAfter_replaying :
    worldAfter .replaying runner record.commands (record.endings ++ others) = others := by
  induction record with
  | nil => rfl
  | cons pair record ih => simpa [Record.commands, Record.endings] using ih

variable (runner others) in
theorem succeeds_replaying (h : record.Successful) :
    Succeeds .replaying runner record.commands (record.endings ++ others) := by
  intro ending hm
  rw [endings_replaying] at hm
  obtain ⟨pair, hpair, rfl⟩ := List.mem_map.1 hm
  exact h pair hpair

theorem stopsAt_replaying (h : record.Successful) (hending : ending.succeeded = false) :
    StopsAt .replaying runner (record.commands ++ command :: rest) (record.endings ++ [ending])
      record.length command ending := by
  have htake : (record.commands ++ command :: rest).take record.length = record.commands :=
    List.take_left' Record.length_commands
  constructor
  case here => simp [← Record.length_commands]
  case ends => rw [htake, worldAfter_replaying, ask_replaying]
  case fails => exact hending
  case first =>
    rw [htake]
    exact succeeds_replaying runner [ending] h

/-- Commands that all exited with code zero. -/
theorem runAll_replaying_of_successful
    (captured : ∀ command ∈ record.commands, command.redirects = false) (h : record.Successful) :
    (runAll .replaying runner record.commands record.endings).world = [] ∧
    (runAll .replaying runner record.commands record.endings).value =
      .ok (.succeeded record.text) := by
  have hs := succeeds_replaying runner [] h
  have hworld := worldAfter_replaying runner record []
  have hendings := endings_replaying runner record []
  rw [List.append_nil] at hs hworld hendings
  rw [runAll_of_succeeds captured hs, hworld, hendings]
  exact ⟨rfl, rfl⟩

/-- Commands of which the last did not exit with code zero; those in `rest` are
not run. -/
theorem runAll_replaying_of_stop
    (captured : ∀ other ∈ record.commands ++ command :: rest, other.redirects = false)
    (h : record.Successful) (hending : ending.succeeded = false) :
    (runAll .replaying runner (record.commands ++ command :: rest)
      (record.endings ++ [ending])).world = [] ∧
    (runAll .replaying runner (record.commands ++ command :: rest)
      (record.endings ++ [ending])).value = .ok (stopOutcome record.length command ending) := by
  have htake : (record.commands ++ command :: rest).take (record.length + 1) =
      record.commands ++ [command] := by
    rw [← Record.length_commands, List.take_length_add_append]
    rfl
  rw [runAll_of_stopsAt captured (stopsAt_replaying h hending), htake, worldAfter_append,
    worldAfter_replaying]
  exact ⟨rfl, rfl⟩

end Runner

end Rollout
