import Rollout.Proofs.Runner.Sequence

/-!
# Systems that keep what they are asked

A system that keeps every request it is asked, and otherwise answers like the
system it is made from. A sequence goes on both in the same way, and what is
kept grows by the requests of the commands in their order.
-/

namespace Rollout

/-- The system with a list of all requests, in order, beside its world. -/
def System.recording {World : Type} (system : System World) : System (World × List Request) :=
  fun state request =>
    let answer := system state.1 request
    ((answer.1, state.2 ++ [request]), answer.2)

namespace Runner

variable {World : Type} {system : System World} {runner : Runner} {commands : List Command}
  {world : World} {asked : List Request}

theorem ask_recording (command : Command) :
    ask system.recording runner command (world, asked) =
      (((ask system runner command world).1, asked ++ [runner.request command]),
        (ask system runner command world).2) := rfl

theorem run_recording (command : Command) :
    run system.recording runner command (world, asked) =
      let report := run system runner command world
      ⟨(report.world, if command.redirects then asked else asked ++ [runner.request command]),
        report.log, report.value⟩ := by
  unfold run
  split
  · rfl
  · simp only [System.recording]

theorem worldAfter_recording : worldAfter system.recording runner commands (world, asked) =
    (worldAfter system runner commands world, asked ++ commands.map runner.request) := by
  induction commands generalizing world asked with
  | nil => simp
  | cons command rest ih => simp [ask_recording, ih]

theorem executed_recording : executed system.recording runner commands (world, asked) =
    executed system runner commands world := by
  induction commands generalizing world asked with
  | nil => rfl
  | cons command rest ih => simp [executed, ask_recording, ih]

end Runner

end Rollout
