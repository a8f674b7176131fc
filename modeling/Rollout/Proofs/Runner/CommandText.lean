import Rollout.Http.Response
import Rollout.Proofs.Command
import Rollout.Proofs.Runner.Coherence
import Rollout.Proofs.Runner.Logging
import Rollout.Proofs.Runner.Refusal
import Rollout.Proofs.Text.Splitting

/-!
# The text of a command names it

Outcomes, refusals and logs tell of a command by its text. Split at its spaces, the
text gives the words back exactly if none of them has a space of its own
(`splitAt_text_eq_words_iff`). For such commands a log tells word by word what the
system was asked to run.
-/

namespace Rollout

/-- No word has a space; words may be empty. -/
def Text.Spaceless (words : List String) : Prop :=
  ∀ word ∈ words, ' ' ∉ word.toList

open Text (Spaceless splitAt)

instance (words : List String) : Decidable (Spaceless words) := by
  unfold Spaceless
  infer_instance

/-- The words that the system is asked to run. -/
def Request.words (request : Request) : List String :=
  request.program :: request.args

/-- The text of the command that an event is about. -/
def Event.command? (event : Event) : Option String :=
  match event.fields.lookup "command" with
  | some (.text text) => some text
  | _ => none

/-- The texts of the commands that a log says were started. -/
def Log.startedCommands (log : Log) : List String :=
  (log.filter (·.message == "starting command")).filterMap Event.command?

/-- The text of the command that a sequence stopped at. -/
def Outcome.command? : Outcome → Option String
  | succeeded _ => none
  | failed _ command _ _ => some command
  | errored _ command _ => some command

-- ---------------------------------------------------------------------------
-- The text
-- ---------------------------------------------------------------------------

namespace Command

variable {command other : Command} {words : List String}

/-- Writing goes on behind what was written, and so does splitting. -/
theorem splitAt_foldl (start : String) (args : List String) :
    splitAt ' ' (args.foldl (fun text arg => text ++ " " ++ arg) start) =
      splitAt ' ' start ++ args.flatMap (splitAt ' ') := by
  induction args generalizing start with
  | nil => simp
  | cons arg rest ih =>
    have hstart : splitAt ' ' (start ++ " " ++ arg) = splitAt ' ' start ++ splitAt ' ' arg :=
      Text.splitAt_append ' ' start arg
    rw [List.foldl_cons, ih, hstart, List.flatMap_cons, List.append_assoc]

theorem splitAt_text (command : Command) :
    splitAt ' ' command.text = command.words.flatMap (splitAt ' ') :=
  splitAt_foldl command.program command.args

theorem splitAt_text_eq_words_iff :
    splitAt ' ' command.text = command.words ↔ Spaceless command.words := by
  rw [splitAt_text]
  exact Text.flatMap_splitAt_eq_self_iff

theorem text_eq_iff : command.text = other.text ↔
    command.words.flatMap (splitAt ' ') = other.words.flatMap (splitAt ' ') := by
  rw [← splitAt_text, ← splitAt_text]
  constructor
  · intro h
    rw [h]
  · intro h
    rw [← Text.intercalate_splitAt ' ' command.text, h, Text.intercalate_splitAt]

theorem text_eq_iff_of_spaceless (h : Spaceless command.words) (hother : Spaceless other.words) :
    command.text = other.text ↔ command.program = other.program ∧ command.args = other.args := by
  rw [text_eq_iff, Text.flatMap_splitAt_eq_self_iff.2 h, Text.flatMap_splitAt_eq_self_iff.2 hother,
    words, words, List.cons.injEq]

theorem text_build (start : Command) (edits : List Edit) :
    (build start edits).text = (build start (edits.filter (·.slot = .args))).text := by
  have hargs : (build start edits).args = (build start (edits.filter (·.slot = .args))).args := by
    rw [args_build, args_build, Edit.filterMap_filter_slot Edit.args?_eq_none]
  rw [text, text, hargs, program_build, program_build]

theorem exists_ofWords (hne : words ≠ []) :
    ∃ command, ofWords? words = some command ∧ command.words = words := by
  cases words with
  | nil => exact absurd rfl hne
  | cons program args => exact ⟨{ program, args }, rfl, rfl⟩

end Command

-- ---------------------------------------------------------------------------
-- Outcomes and logs
-- ---------------------------------------------------------------------------

namespace Runner

variable {World : Type} {system : System World} {runner : Runner} {command : Command}
  {commands : List Command} {world : World} {ending : Ending} {record : Record} {event : Event}
  {outcome : Outcome} {k : Nat}

theorem command?_story (h : event ∈ runner.story command ending) :
    event.command? = some command.text := by
  cases ending with
  | ended status stdout stderr =>
    simp only [story, List.mem_cons, List.not_mem_nil, or_false] at h
    rcases h with rfl | rfl <;> rfl
  | _ =>
    obtain rfl := List.mem_singleton.1 h
    rfl

theorem command?_closing (h : event ∈ outcome.closing) :
    event.command? = outcome.command? := by
  cases outcome with
  | succeeded output => cases h
  | _ =>
    obtain rfl := List.mem_singleton.1 h
    rfl

theorem startedCommands_log (record : Record) (outcome : Outcome) :
    Log.startedCommands (record.story runner ++ outcome.closing) =
      record.commands.map Command.text := by
  induction record with
  | nil => cases outcome <;> rfl
  | cons pair rest ih =>
    obtain ⟨command, ending⟩ := pair
    have hone : Log.startedCommands (runner.story command ending) = [command.text] := by
      cases ending <;> rfl
    simp only [Log.startedCommands, Record.story, Record.commands, List.flatMap_cons,
      List.append_assoc, List.filter_append, List.filterMap_append, List.map_cons] at ih hone ⊢
    rw [hone, ih]
    rfl

theorem command?_outcomeEvent {text : String}
    (h : (Http.outcomeEvent outcome).command? = some text) : outcome.command? = some text := by
  cases outcome with
  | failed => exact h
  | _ => cases h

theorem failedStep_of_closing (h : event ∈ outcome.closing) :
    ∃ step, outcome.failedStep = some step := by
  cases outcome with
  | succeeded output => cases h
  | failed step => exact ⟨step, rfl⟩
  | errored step => exact ⟨step, rfl⟩

theorem command?_of_failedStep (coherent : outcome.Coherent commands)
    (h : outcome.failedStep = some k) :
    ∃ command, commands[k]? = some command ∧ outcome.command? = some command.text := by
  obtain ⟨command, here, ⟨code, output, rfl⟩ | ⟨error, rfl⟩⟩ := coherent.step k h
  · exact ⟨command, here, rfl⟩
  · exact ⟨command, here, rfl⟩

theorem mem_of_executed (h : command ∈ executed system runner commands world) :
    command ∈ commands := by
  have hprefix := executed_prefix system runner commands world
  exact hprefix.subset h

theorem command?_of_mem_log (captured : ∀ command ∈ commands, command.redirects = false)
    (h : event ∈ (runAll system runner commands world).log) :
    ∃ command ∈ commands, event.command? = some command.text := by
  obtain ⟨outcome, hvalue, hlog⟩ := runAll_log system runner world captured
  rw [hlog] at h
  rcases List.mem_append.1 h with hstory | hclosing
  · obtain ⟨⟨command, ending⟩, hpair, hstory⟩ := List.mem_flatMap.1 hstory
    have hm : command ∈ executed system runner commands world := by
      rw [← commands_recordOf]
      exact List.mem_map_of_mem hpair
    exact ⟨command, mem_of_executed hm, command?_story hstory⟩
  · obtain ⟨step, hstep⟩ := failedStep_of_closing hclosing
    obtain ⟨command, here, htext⟩ :=
      command?_of_failedStep (coherent_of_value captured hvalue) hstep
    exact ⟨command, List.mem_of_getElem? here, (command?_closing hclosing).trans htext⟩

theorem startedCommands_runAll (captured : ∀ command ∈ commands, command.redirects = false) :
    (runAll system runner commands world).log.startedCommands =
      (executed system runner commands world).map Command.text := by
  obtain ⟨outcome, -, hlog⟩ := runAll_log system runner world captured
  rw [hlog, startedCommands_log, commands_recordOf]

/-- The text of a command identifies it as far as its words have no spaces. It splits
into the words that the command was made of, empty ones among them, so that two
commands with one text have the same program and arguments. Of all edits only those
that add arguments change it. So it can be told which command of a sequence is meant
by a refusal (the first that asks for a target), by an outcome (the one at its step)
and by every event of the log, and the commands that a log calls started are, word by
word and in order, what the system was asked to run. -/
theorem text_identifies {World : Type} (system : System World) (runner : Runner) (world : World) :
    (∀ words, words ≠ [] → ∃ command, Command.ofWords? words = some command ∧
      command.words = words ∧ (splitAt ' ' command.text = words ↔ Spaceless words)) ∧
    (∀ command other : Command, Spaceless command.words → Spaceless other.words →
      (command.text = other.text ↔
        command.program = other.program ∧ command.args = other.args)) ∧
    (∀ start edits, (Command.build start edits).text =
      (Command.build start (edits.filter (·.slot = .args))).text) ∧
    ∀ commands, (∀ command ∈ commands, Spaceless command.words) →
      let report := runAll system runner commands world
      let asked := (runAll system.recording runner commands (world, [])).world.2
      (∀ refusal, report.value = .error refusal →
        ∃ command, commands.find? Command.redirects = some command ∧
          splitAt ' ' refusal.command = command.words) ∧
      (∀ outcome step, report.value = .ok outcome → outcome.failedStep = some step →
        ∃ command text, commands[step]? = some command ∧ outcome.command? = some text ∧
          splitAt ' ' text = command.words ∧
          ∀ said, (Http.outcomeEvent outcome).command? = some said → said = text) ∧
      (∀ event ∈ report.log, ∃ command ∈ commands, ∃ text, event.command? = some text ∧
        splitAt ' ' text = command.words) ∧
      report.log.startedCommands.map (splitAt ' ') = asked.map Request.words := by
  refine ⟨fun words hne => ?_, fun command other => Command.text_eq_iff_of_spaceless,
    Command.text_build, fun commands spaceless => ?_⟩
  · obtain ⟨command, hbuilt, rfl⟩ := Command.exists_ofWords hne
    exact ⟨command, hbuilt, rfl, Command.splitAt_text_eq_words_iff⟩
  · have named {command : Command} (hm : command ∈ commands) :
        splitAt ' ' command.text = command.words :=
      Command.splitAt_text_eq_words_iff.2 (spaceless command hm)
    cases hfind : commands.find? Command.redirects with
    | some command =>
      have hm := List.mem_of_find?_eq_some hfind
      simp only [runAll_of_find hfind]
      refine ⟨?_, ?_, ?_, rfl⟩
      · rintro _ ⟨⟩
        exact ⟨command, rfl, named hm⟩
      · rintro outcome step ⟨⟩
      · rintro event ⟨⟩
    | none =>
      have captured := find?_redirects_eq_none_iff.1 hfind
      refine ⟨fun refusal h => ?_, fun outcome step h hstep => ?_, fun event h => ?_, ?_⟩
      · obtain ⟨outcome, hok⟩ := runAll_ok system runner world captured
        cases hok.symm.trans h
      · obtain ⟨command, here, htext⟩ :=
          command?_of_failedStep (coherent_of_value captured h) hstep
        refine ⟨command, _, here, htext, named (List.mem_of_getElem? here), fun said hsaid => ?_⟩
        exact Option.some.inj ((command?_outcomeEvent hsaid).symm.trans htext)
      · obtain ⟨command, hm, htext⟩ := command?_of_mem_log captured h
        exact ⟨command, hm, _, htext, named hm⟩
      · rw [startedCommands_runAll captured, runAll_asked captured, List.nil_append,
          List.map_map, List.map_map]
        refine List.map_congr_left fun command hm => ?_
        exact named (mem_of_executed hm)

/-- The second of two commands fails; its empty words can be read off its text, as can
those that a command begins with. -/
theorem text_identifies_empty_words :
    let commands := [Command.new "fetch", { program := "build", args := ["", "", "all", ""] }]
    let report := runAll (failingAt "build") {} commands 0
    (∀ command ∈ commands, Spaceless command.words) ∧
    report.value = .ok (.failed 1 "build   all " 3 "out\n\nerr") ∧
    splitAt ' ' "build   all " = ["build", "", "", "all", ""] ∧
    report.log.startedCommands.map (splitAt ' ') =
      [["fetch"], ["build", "", "", "all", ""]] ∧
    Spaceless ["", "", "all"] ∧
    ∃ command, Command.ofWords? ["", "", "all"] = some command ∧
      splitAt ' ' command.text = ["", "", "all"] := by
  intro commands report
  have spaceless : ∀ command ∈ commands, Spaceless command.words := by decide
  have hvalue : report.value = .ok (.failed 1 "build   all " 3 "out\n\nerr") := rfl
  have spaceless_words : Spaceless ["", "", "all"] := by decide
  obtain ⟨split, -, -, told⟩ := text_identifies (failingAt "build") {} 0
  obtain ⟨-, stopped, -, started⟩ := told commands spaceless
  obtain ⟨built, hbuilt, -, hsplit⟩ := split ["", "", "all"] (by decide)
  obtain ⟨command, text, here, htext, hwords, -⟩ := stopped _ 1 hvalue rfl
  cases here
  cases htext
  exact ⟨spaceless, hvalue, hwords, started, spaceless_words, built, hbuilt,
    hsplit.2 spaceless_words⟩

end Runner

end Rollout
