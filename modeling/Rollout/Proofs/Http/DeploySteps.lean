import Rollout.Http.Deploy
import Rollout.Proofs.Runner.Replay

/-!
# A deploy step by step

What a deploy that runs in steps does with children, and how far it has come
given the commands that were run for it and how each of them ended. Neither
depends on anything else that goes on: `advance_follows` holds in whatever
world the step is taken.
-/

namespace Rollout

/-- What is done with children: one is started for a command, or it ends. -/
inductive Mark where
  | starts (command : Command)
  | ends (command : Command) (ending : Ending)

namespace Mark

def started? : Mark → Option Command
  | starts command => some command
  | ends .. => none

def ended? : Mark → Option (Command × Ending)
  | starts _ => none
  | ends command ending => some (command, ending)

/-- The commands that were started, in order. -/
def started (marks : List Mark) : List Command :=
  marks.filterMap started?

/-- The commands that have ended, in order. -/
def record (marks : List Mark) : Record :=
  marks.filterMap ended?

@[simp] theorem record_nil : record [] = [] := rfl

@[simp] theorem record_starts (command : Command) : record [starts command] = [] := rfl

@[simp] theorem record_ends (command : Command) (ending : Ending) :
    record [ends command ending] = [(command, ending)] := rfl

@[simp] theorem started_append (before after : List Mark) :
    started (before ++ after) = started before ++ started after :=
  List.filterMap_append

@[simp] theorem record_append (before after : List Mark) :
    record (before ++ after) = record before ++ record after :=
  List.filterMap_append

end Mark

namespace Record

/-- The marks of commands that were run one after another. -/
def marks (record : Record) : List Mark :=
  record.flatMap fun (command, ending) => [.starts command, .ends command ending]

variable {record : Record}

theorem marks_append_singleton {command : Command} {ending : Ending} :
    marks (record ++ [(command, ending)]) =
      record.marks ++ [.starts command, .ends command ending] := by
  simp [marks]

@[simp] theorem started_marks : Mark.started record.marks = record.commands := by
  induction record with
  | nil => rfl
  | cons pair rest ih => exact congrArg (pair.1 :: ·) ih

@[simp] theorem record_marks : Mark.record record.marks = record := by
  induction record with
  | nil => rfl
  | cons pair rest ih => exact congrArg (pair :: ·) ih

end Record

namespace Http

/-- A deploy of `commands` is at `progress` when those in `record` were run for
it. -/
inductive Progress.Follows (commands : List Command) : Record → Progress → Prop
  | queued : Follows commands [] (.queued commands)
  | running {record : Record} {rest : List Command} (split : commands = record.commands ++ rest)
      (successful : record.Successful) :
      Follows commands record (.running record.length record.text rest)
  | waiting {record : Record} {command : Command} {rest : List Command}
      (split : commands = record.commands ++ command :: rest) (successful : record.Successful) :
      Follows commands record (.waiting record.length record.text command rest)
  | succeeded {record : Record} (all : commands = record.commands)
      (successful : record.Successful) :
      Follows commands record (.ended (.ok (.succeeded record.text)))
  | stopped {record : Record} {command : Command} {ending : Ending} {rest : List Command}
      (split : commands = record.commands ++ command :: rest) (successful : record.Successful)
      (fails : ending.succeeded = false) :
      Follows commands (record ++ [(command, ending)])
        (.ended (.ok (Runner.stopOutcome record.length command ending)))

/-- The command that a child runs for. -/
def Progress.child? : Progress → Option Command
  | .waiting _ _ command _ => some command
  | _ => none

theorem Progress.value?_eq_some_iff {progress : Progress} {value : Except Refusal Outcome} :
    progress.value? = some value ↔ progress = .ended value := by
  cases progress <;> simp [value?]

namespace Deploy

/-- What the next step of a deploy does with children. -/
def marks {World : Type} (system : System World) (service : Service) (deploy : Deploy)
    (world : World) : List Mark :=
  match deploy.progress with
  | .running _ _ (command :: _) => if command.redirects then [] else [.starts command]
  | .waiting _ _ command _ =>
    if command.redirects then []
    else [.ends command (service.runner.ask system command world).2]
  | _ => []

/-- A deploy that is where its own commands have brought it, and whose marks
are theirs. -/
structure Follows (service : Service) (deploy : Deploy) (record : Record) (marks : List Mark) :
    Prop where
  progress : deploy.progress.Follows (service.plan.commands deploy.tag) record
  history : deploy.history = record.results
  marks_eq : marks = record.marks ++ deploy.progress.child?.toList.map Mark.starts

variable {World : Type} {system : System World} {service : Service} {deploy : Deploy}
  {commands rest : List Command} {command : Command} {step : Nat} {output : String}
  {value : Except Refusal Outcome} {record : Record} {marks : List Mark} {world : World}

-- ---------------------------------------------------------------------------
-- What a step comes to
-- ---------------------------------------------------------------------------

theorem advance_queued (h : deploy.progress = .queued commands)
    (captured : ∀ command ∈ commands, command.redirects = false) :
    deploy.advance system service world =
      ⟨world, [service.started], { deploy with progress := .running 0 "" commands }⟩ := by
  simp only [advance, h, Progress.checked, Runner.find?_redirects_eq_none_iff.2 captured]

theorem advance_running_nil (h : deploy.progress = .running step output []) :
    deploy.advance system service world =
      ⟨world, [], { deploy with progress := .ended (.ok (.succeeded output)) }⟩ := by
  simp only [advance, h]

theorem advance_running_cons (h : deploy.progress = .running step output (command :: rest))
    (captured : command.redirects = false) :
    deploy.advance system service world =
      ⟨world, [service.runner.starting command],
        { deploy with progress := .waiting step output command rest }⟩ := by
  simp only [advance, h, captured, Bool.false_eq_true, ↓reduceIte]

theorem advance_waiting_of_succeeded (h : deploy.progress = .waiting step output command rest)
    (captured : command.redirects = false)
    (hs : (service.runner.ask system command world).2.succeeded = true) :
    deploy.advance system service world =
      let answer := service.runner.ask system command world
      ⟨answer.1, (service.runner.eventsOf command answer.2).drop 1,
        { deploy with
          progress := .running (step + 1) (output ++ answer.2.text) rest
          history := deploy.history ++ [(command, .ok (Runner.resultOf command answer.2))] }⟩ := by
  simp [advance, h, Runner.run_of_captured captured, Runner.resultOf_of_succeeded hs,
    Progress.after, Finished.success]

theorem advance_waiting_of_stop (h : deploy.progress = .waiting step output command rest)
    (captured : command.redirects = false)
    (hf : (service.runner.ask system command world).2.succeeded = false) :
    deploy.advance system service world =
      let answer := service.runner.ask system command world
      ⟨answer.1,
        (service.runner.eventsOf command answer.2).drop 1 ++
          [Runner.stopEvent step command answer.2],
        { deploy with
          progress := .ended (.ok (Runner.stopOutcome step command answer.2))
          history := deploy.history ++ [(command, .ok (Runner.resultOf command answer.2))] }⟩ := by
  simp only [advance, h, Runner.run_of_captured captured]
  cases hending : (service.runner.ask system command world).2 with
  | ended status stdout stderr =>
    have hcode : (status.exitCode == 0) = false := by simpa [hending, Ending.succeeded] using hf
    simp [Runner.resultOf, Progress.after, Finished.success, hcode, Runner.compose_of_failure,
      Runner.stopOutcome, Runner.stopEvent]
  | _ => rfl

theorem advance_ended (h : deploy.progress = .ended value) :
    deploy.advance system service world = ⟨world, [], deploy⟩ := by
  simp only [advance, h]

theorem marks_running_cons (h : deploy.progress = .running step output (command :: rest))
    (captured : command.redirects = false) :
    deploy.marks system service world = [.starts command] := by
  simp only [Deploy.marks, h, captured, Bool.false_eq_true, ↓reduceIte]

theorem marks_waiting (h : deploy.progress = .waiting step output command rest)
    (captured : command.redirects = false) :
    deploy.marks system service world =
      [.ends command (service.runner.ask system command world).2] := by
  simp only [Deploy.marks, h, captured, Bool.false_eq_true, ↓reduceIte]

@[simp] theorem advance_tag : (deploy.advance system service world).value.tag = deploy.tag := by
  unfold advance
  repeat' split
  all_goals rfl

-- ---------------------------------------------------------------------------
-- A deploy is where its own commands have brought it
-- ---------------------------------------------------------------------------

theorem Follows.started (h : deploy.Follows service record marks) :
    Mark.started marks = record.commands ++ deploy.progress.child?.toList := by
  rw [h.marks_eq, Mark.started_append, Record.started_marks]
  cases deploy.progress.child? <;> rfl

theorem Follows.record_eq (h : deploy.Follows service record marks) :
    Mark.record marks = record := by
  rw [h.marks_eq, Mark.record_append, Record.record_marks]
  cases deploy.progress.child? <;> exact List.append_nil record

theorem start_follows (tag : String) : (start service tag).Follows service [] [] :=
  ⟨.queued, rfl, rfl⟩

/-- A step of a deploy, in whatever world it is taken: the deploy is where the
commands that were run for it so far have brought it, with the one that ends in
this step if one does. -/
theorem advance_follows
    (captured : ∀ command ∈ service.plan.commands deploy.tag, command.redirects = false)
    (h : deploy.Follows service record marks) :
    (deploy.advance system service world).value.Follows service
      (record ++ Mark.record (deploy.marks system service world))
      (marks ++ deploy.marks system service world) := by
  obtain ⟨hprogress, hhistory, rfl⟩ := h
  generalize hp : deploy.progress = progress at hprogress
  cases hprogress with
  | queued =>
    simp only [advance_queued hp captured, Deploy.marks, hp, Mark.record_nil, List.append_nil]
    exact ⟨.running rfl (by simp [Record.Successful]), hhistory, rfl⟩
  | @running _ rest split successful =>
    cases rest with
    | nil =>
      simp only [advance_running_nil hp, Deploy.marks, hp, Mark.record_nil, List.append_nil]
      exact ⟨.succeeded (by simpa using split) successful, hhistory, by simp [Progress.child?]⟩
    | cons command rest =>
      have hc := captured command (by simp [split])
      simp only [advance_running_cons hp hc, marks_running_cons hp hc, Mark.record_starts,
        List.append_nil]
      exact ⟨.waiting split successful, hhistory, by simp [Progress.child?]⟩
  | @waiting _ command rest split successful =>
    have hc := captured command (by simp [split])
    generalize hending : (service.runner.ask system command world).2 = ending
    have hresults : deploy.history ++ [(command, .ok (Runner.resultOf command ending))] =
        Record.results (record ++ [(command, ending)]) := by
      rw [hhistory, Record.results_append_singleton]
    have hmarks : record.marks ++ [Mark.starts command] ++ [Mark.ends command ending] =
        Record.marks (record ++ [(command, ending)]) := by
      simp [Record.marks_append_singleton]
    cases hs : ending.succeeded with
    | true =>
      simp only [advance_waiting_of_succeeded hp hc (hending ▸ hs), marks_waiting hp hc, hending,
        Mark.record_ends]
      refine ⟨?_, hresults, ?_⟩
      · have hstep : record.length + 1 = (record ++ [(command, ending)]).length := by simp
        rw [hstep, ← Record.text_append_singleton]
        exact .running (by simp [split]) (successful.append hs)
      · simpa [Progress.child?] using hmarks
    | false =>
      simp only [advance_waiting_of_stop hp hc (hending ▸ hs), marks_waiting hp hc, hending,
        Mark.record_ends]
      exact ⟨.stopped split successful hs, hresults, by simpa [Progress.child?] using hmarks⟩
  | succeeded all successful =>
    simp only [advance_ended hp, Deploy.marks, hp, Mark.record_nil, List.append_nil]
    exact ⟨hp ▸ .succeeded all successful, hhistory, by rw [hp]⟩
  | stopped split successful fails =>
    simp only [advance_ended hp, Deploy.marks, hp, Mark.record_nil, List.append_nil]
    exact ⟨hp ▸ .stopped split successful fails, hhistory, by rw [hp]⟩

end Deploy

-- ---------------------------------------------------------------------------
-- What its own commands tell of a deploy
-- ---------------------------------------------------------------------------

namespace Progress.Follows

variable {commands : List Command} {record : Record} {progress : Progress}
  {value : Except Refusal Outcome}

/-- The commands that were started, one that a child still runs for among them. -/
theorem started_prefix (h : progress.Follows commands record) :
    record.commands ++ progress.child?.toList <+: commands := by
  cases h with
  | queued => exact List.nil_prefix
  | running split _ | waiting split _ | stopped split _ _ =>
    exact ⟨_, by simpa [child?] using split.symm⟩
  | succeeded all _ => exact ⟨[], by simpa [child?] using all.symm⟩

theorem position_and_text {step : Nat} {output : String} {command : Command}
    {rest : List Command} (h : progress.Follows commands record)
    (hp : progress = .running step output rest ∨ progress = .waiting step output command rest) :
    step = record.length ∧ output = record.text := by
  rcases hp with rfl | rfl
  · cases h
    exact ⟨rfl, rfl⟩
  · cases h
    exact ⟨rfl, rfl⟩

/-- No command is started behind one that did not exit with code zero. -/
theorem successful_before (h : progress.Follows commands record) :
    Record.Successful
      (record.take ((record.commands ++ progress.child?.toList).length - 1)) := by
  intro pair hm
  rw [List.length_append, Record.length_commands] at hm
  cases h with
  | queued => simp at hm
  | running _ successful | waiting _ successful | succeeded _ successful =>
    exact successful pair (List.mem_of_mem_take hm)
  | stopped _ successful _ =>
    rw [List.length_append] at hm
    exact successful pair (by simpa [child?] using hm)

/-- A deploy has ended with what a sequence gives that is run by itself and
meets the endings of this deploy's own commands. -/
theorem replays (runner : Runner) (h : (Progress.ended value).Follows commands record)
    (captured : ∀ command ∈ commands, command.redirects = false) :
    (runner.runAll .replaying commands record.endings).world = [] ∧
    (runner.runAll .replaying commands record.endings).value = value := by
  cases h with
  | succeeded all successful =>
    rw [all] at captured ⊢
    exact Runner.runAll_replaying_of_successful captured successful
  | stopped split successful fails =>
    rw [split] at captured ⊢
    simpa [Record.endings] using Runner.runAll_replaying_of_stop captured successful fails

/-- No command of the deploy was refused. -/
theorem ended_ok (h : (Progress.ended value).Follows commands record) :
    ∃ outcome, value = .ok outcome := by
  cases h with
  | succeeded _ _ | stopped _ _ _ => exact ⟨_, rfl⟩

theorem complete (h : (Progress.ended value).Follows commands record) :
    record.Complete commands := by
  cases h with
  | succeeded all successful => exact .inl ⟨all.symm, successful⟩
  | stopped split successful fails =>
    exact .inr ⟨_, _, _, rfl, ⟨_, by simpa using split.symm⟩, successful, fails⟩

end Progress.Follows

end Http

end Rollout
