import Rollout.Proofs.Http.DeploySteps

/-!
# What is left of a deploy

What a deploy will still do from any point on, as if it did so in one go. A
step takes its own part off the front of that (`advance_rest`), so a deploy
that alone changes its world leaves the same world and log and comes to the
same outcome in whatever steps it is taken. Every step brings it nearer to its
end.
-/

namespace Rollout

namespace Runner

variable {World : Type} {system : System World} {runner : Runner} {command : Command}
  {commands rest : List Command} {world : World}

/-- A command that is run is logged before anything else of it. -/
theorem eventsOf_eq_cons (runner : Runner) (command : Command) (ending : Ending) :
    runner.eventsOf command ending =
      runner.starting command :: (runner.eventsOf command ending).drop 1 := by
  cases ending <;> rfl

theorem runFrom_eq_cons {step : Nat} {output : String} (captured : command.redirects = false) :
    runFrom system runner step output (command :: rest) world =
      let report := runFrom system runner step output (command :: rest) world
      ⟨report.world, runner.starting command :: report.log.drop 1, report.value⟩ := by
  cases hs : (ask system runner command world).2.succeeded with
  | true =>
    rw [runFrom_cons_of_succeeded captured hs, eventsOf_eq_cons]
    rfl
  | false =>
    rw [runFrom_cons_of_stop captured hs, eventsOf_eq_cons]
    rfl

end Runner

namespace Http

namespace Progress

/-- The commands that have not ended. -/
def left : Progress → List Command
  | queued commands => commands
  | running _ _ rest => rest
  | waiting _ _ command rest => command :: rest
  | ended _ => []

/-- The most steps to the end. -/
def stepsLeft : Progress → Nat
  | queued commands => 2 * commands.length + 2
  | running _ _ rest => 2 * rest.length + 1
  | waiting _ _ _ rest => 2 * rest.length + 2
  | ended _ => 0

/-- What is left of a deploy, in one go. -/
def rest {World : Type} (system : System World) (service : Service) :
    Progress → World → Report World (Except Refusal Outcome)
  | queued commands, world =>
    let report := service.runner.runAll system commands world
    { report with log := service.started :: report.log }
  | running step output rest, world => service.runner.runFrom system step output rest world
  | waiting step output command rest, world =>
    let report := service.runner.runFrom system step output (command :: rest) world
    -- That the command starts is logged already.
    { report with log := report.log.drop 1 }
  | ended value, world => ⟨world, [], value⟩

theorem Follows.left_subset {commands : List Command} {record : Record} {progress : Progress}
    (h : progress.Follows commands record) : progress.left ⊆ commands := by
  cases h with
  | queued => exact fun _ hm => hm
  | running split _ | waiting split _ =>
    rw [split]
    exact List.subset_append_right _ _
  | succeeded | stopped => exact List.nil_subset _

theorem Follows.stepsLeft_le {commands : List Command} {record : Record} {progress : Progress}
    (h : progress.Follows commands record) : progress.stepsLeft ≤ 2 * commands.length + 2 := by
  cases h with
  | queued => exact Nat.le_refl _
  | running split _ | waiting split _ =>
    have hlength := congrArg List.length split
    simp only [List.length_append, List.length_cons] at hlength
    simp only [stepsLeft]
    omega
  | succeeded | stopped => exact Nat.zero_le _

theorem ended_of_stepsLeft {progress : Progress} (h : progress.stepsLeft = 0) :
    ∃ value, progress = .ended value := by
  cases progress with
  | ended value => exact ⟨value, rfl⟩
  | queued | running | waiting => simp [stepsLeft] at h

theorem stepsLeft_after {step : Nat} {output : String} {command : Command}
    {rest : List Command} {value : Except Refusal (Except ProcessError Finished)} :
    (after step output command rest value).2.stepsLeft ≤ 2 * rest.length + 1 := by
  unfold after
  split
  · exact Nat.zero_le _
  · exact Nat.zero_le _
  · split
    · exact Nat.le_refl _
    · exact Nat.zero_le _

end Progress

namespace Deploy

variable {World : Type} {system : System World} {service : Service} {deploy : Deploy}
  {world : World}

variable (system service deploy world) in
theorem stepsLeft_advance : (deploy.advance system service world).value.progress.stepsLeft ≤
    deploy.progress.stepsLeft - 1 := by
  unfold advance
  split
  next hp =>
    simp only [hp, Progress.checked]
    split
    · exact Nat.zero_le _
    · exact Nat.le_refl _
  next => exact Nat.zero_le _
  next hp =>
    split
    · exact Nat.zero_le _
    · simp only [hp, Progress.stepsLeft, List.length_cons]
      omega
  next hp =>
    simp only [hp, Progress.stepsLeft]
    exact Progress.stepsLeft_after
  next hp => simp only [hp, Progress.stepsLeft, Nat.le_refl, Nat.zero_sub]

variable (system service world) in
/-- A step of a deploy: what it logs and what ends in it, put before what is
left after it, is what was left before it. No command is added to those that
are left. -/
theorem advance_rest
    (captured : ∀ command ∈ deploy.progress.left, command.redirects = false) :
    let report := deploy.advance system service world
    let rest := report.value.progress.rest system service report.world
    deploy.progress.rest system service world = ⟨rest.world, report.log ++ rest.log, rest.value⟩ ∧
    service.runner.recordOf system deploy.progress.left world =
      Mark.record (deploy.marks system service world) ++
        service.runner.recordOf system report.value.progress.left report.world ∧
    report.value.progress.left ⊆ deploy.progress.left := by
  cases hp : deploy.progress with
  | queued commands =>
    simp only [hp, Progress.left] at captured
    simp [advance_queued hp captured, Deploy.marks, hp, Progress.rest, Progress.left,
      Runner.runAll_of_captured captured]
  | running step output rest =>
    cases rest with
    | nil =>
      simp [advance_running_nil hp, Deploy.marks, hp, Progress.rest, Progress.left,
        Runner.runFrom, Runner.recordOf]
    | cons command rest =>
      have hc : command.redirects = false := captured command (by simp [hp, Progress.left])
      rw [advance_running_cons hp hc, marks_running_cons hp hc]
      refine ⟨?_, rfl, fun _ hm => hm⟩
      exact Runner.runFrom_eq_cons hc
  | waiting step output command rest =>
    have hc : command.redirects = false := captured command (by simp [hp, Progress.left])
    cases hs : (service.runner.ask system command world).2.succeeded with
    | true =>
      rw [advance_waiting_of_succeeded hp hc hs, marks_waiting hp hc]
      refine ⟨?_, Runner.recordOf_cons_of_succeeded hs, List.subset_cons_self _ _⟩
      simp only [Progress.rest, Runner.runFrom_cons_of_succeeded hc hs]
      rw [Runner.eventsOf_eq_cons]
      rfl
    | false =>
      rw [advance_waiting_of_stop hp hc hs, marks_waiting hp hc]
      refine ⟨?_, Runner.recordOf_cons_of_stop hs, List.nil_subset _⟩
      simp only [Progress.rest, Runner.runFrom_cons_of_stop hc hs]
      rw [Runner.eventsOf_eq_cons]
      simp
  | ended value =>
    simp [advance_ended hp, Deploy.marks, hp, Progress.rest, Progress.left]

/-- A deploy that has come to `world` with what is logged and done so far, and
that goes on to what the deploy of `tag` in `origin` comes to in one go. -/
structure Continues (system : System World) (service : Service) (tag : String) (origin : World)
    (deploy : Deploy) (record : Record) (done : List Mark) (log : Log) (world : World) : Prop where
  tag_eq : deploy.tag = tag
  follows : deploy.Follows service record done
  whole : service.deploy system tag origin =
    let rest := deploy.progress.rest system service world
    ⟨rest.world, log ++ rest.log, rest.value⟩
  record_eq : service.runner.recordOf system (service.plan.commands tag) origin =
    record ++ service.runner.recordOf system deploy.progress.left world

namespace Continues

variable {tag : String} {origin : World} {record : Record} {done : List Mark} {log : Log}
  {value : Except Refusal Outcome}

theorem start (tag : String) (origin : World) :
    (Deploy.start service tag).Continues system service tag origin [] [] [] origin :=
  ⟨rfl, start_follows tag, rfl, rfl⟩

theorem left_captured
    (captured : ∀ command ∈ service.plan.commands tag, command.redirects = false)
    (h : deploy.Continues system service tag origin record done log world) :
    ∀ command ∈ deploy.progress.left, command.redirects = false := by
  intro command hm
  exact captured command (h.tag_eq ▸ h.follows.progress.left_subset hm)

theorem advance (captured : ∀ command ∈ service.plan.commands tag, command.redirects = false)
    (h : deploy.Continues system service tag origin record done log world) :
    let report := deploy.advance system service world
    let marks := deploy.marks system service world
    report.value.Continues system service tag origin (record ++ Mark.record marks) (done ++ marks)
      (log ++ report.log) report.world := by
  intro report marks
  obtain ⟨hrest, hrecord, -⟩ := advance_rest system service world (h.left_captured captured)
  obtain ⟨rfl, follows, whole, record_eq⟩ := h
  refine ⟨advance_tag, advance_follows captured follows, ?_, ?_⟩
  · rw [whole, hrest]
    simp [report]
  · rw [record_eq, hrecord]
    simp [report, marks]

/-- A deploy that has ended has come to what the deploy in one go comes to. -/
theorem of_ended (h : deploy.Continues system service tag origin record done log world)
    (hp : deploy.progress = .ended value) :
    ∃ outcome, value = .ok outcome ∧
      service.deploy system tag origin = ⟨world, log, .ok outcome⟩ ∧
      done = (service.runner.recordOf system (service.plan.commands tag) origin).marks := by
  obtain ⟨-, follows, whole, record_eq⟩ := h
  obtain ⟨outcome, rfl⟩ := (hp ▸ follows.progress).ended_ok
  refine ⟨outcome, rfl, ?_, ?_⟩
  · rw [whole, hp]
    simp [Progress.rest]
  · rw [record_eq, follows.marks_eq, hp]
    simp [Progress.left, Progress.child?, Runner.recordOf]

end Continues

end Deploy

end Http

end Rollout
