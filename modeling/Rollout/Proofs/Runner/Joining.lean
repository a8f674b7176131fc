import Rollout.Proofs.Runner.FirstFailure
import Rollout.Proofs.Runner.Refusal

/-!
# Sequences joined

What a sequence of two parts comes to, by what each part comes to alone. The
second part begins where the first ended: in the world it left, behind the text
it left, and at the position of its length. If the first part stops, it is as if
the second were not there.
-/

namespace Rollout

/-- A position that an event tells, raised by `count`; other fields stay. -/
def Field.raise (count : Nat) : String × Field → String × Field
  | (name, .number n) => (name, .number (if name = "step" then count + n else n))
  | (name, .text shown) => (name, .text shown)

def Event.raise (count : Nat) (event : Event) : Event :=
  { event with fields := event.fields.map (Field.raise count) }

/-- Each position in a log raised by `count`. -/
def Log.raise (count : Nat) (log : Log) : Log :=
  log.map (Event.raise count)

/-- Each position in an outcome raised by `count`. -/
def Outcome.raise (count : Nat) : Outcome → Outcome
  | succeeded output => succeeded output
  | failed step command code output => failed (count + step) command code output
  | errored step command error => errored (count + step) command error

/-- The outcome of commands that come behind others which left `text`. -/
def Outcome.after (text : String) : Outcome → Outcome
  | succeeded output => succeeded (text ++ output)
  | failed step command code output => failed step command code output
  | errored step command error => errored step command error

/-- The report of commands as it is behind `count` others which left `text`. -/
def Report.behind {World : Type} (count : Nat) (text : String)
    (report : Report World (Except Refusal Outcome)) : Report World (Except Refusal Outcome) where
  world := report.world
  log := Log.raise count report.log
  value := report.value.map fun outcome => (outcome.after text).raise count

namespace Runner

variable {World : Type} {system : System World} {runner : Runner} {command : Command}
  {commands xs ys : List Command} {world : World} {count step : Nat} {text output : String}

-- ---------------------------------------------------------------------------
-- Events behind others
-- ---------------------------------------------------------------------------

theorem raise_append (count : Nat) (log others : Log) :
    Log.raise count (log ++ others) = Log.raise count log ++ Log.raise count others :=
  List.map_append

theorem raise_singleton (count : Nat) (event : Event) :
    Log.raise count [event] = [event.raise count] := rfl

theorem raise_failing (count step : Nat) (command : Command) (code : Int) :
    (failing step command code).raise count = failing (count + step) command code := by
  simp [Event.raise, Field.raise, failing]

theorem raise_erring (count step : Nat) (command : Command) (error : ProcessError) :
    (erring step command error).raise count = erring (count + step) command error := by
  simp [Event.raise, Field.raise, erring]

/-- What a command logs by itself tells no position. -/
theorem raise_run (system : System World) (runner : Runner) (command : Command) (world : World)
    (count : Nat) : Log.raise count (run system runner command world).log =
      (run system runner command world).log := by
  unfold run
  split
  · rfl
  · cases hresult : resultOf command (system world (runner.request command)).2 <;>
      simp [hresult, Log.raise, Event.raise, Field.raise, starting, exited]

-- ---------------------------------------------------------------------------
-- The loop
-- ---------------------------------------------------------------------------

variable (system runner commands world) in
/-- Where a loop begins shows in the positions it tells and in the text of a
success, and nowhere else. -/
theorem runFrom_behind (count step : Nat) (text output : String) :
    runFrom system runner (count + step) (text ++ output) commands world =
      (runFrom system runner step output commands world).behind count text := by
  induction commands generalizing step output world with
  | nil => rfl
  | cons command rest ih =>
    have hlog := raise_run system runner command world count
    simp only [runFrom]
    cases hvalue : (run system runner command world).value with
    | error refusal => simp [Report.behind, hlog, Except.map]
    | ok result =>
      cases result with
      | error error =>
        simp [Report.behind, hlog, Except.map, raise_append, raise_singleton, raise_erring,
          Outcome.after, Outcome.raise]
      | ok finished =>
        cases hsuccess : finished.success with
        | false =>
          simp [hsuccess, Report.behind, hlog, Except.map, raise_append, raise_singleton,
            raise_failing, Outcome.after, Outcome.raise]
        | true =>
          have hrest := ih (run system runner command world).world (step + 1)
            (output ++ finished.output)
          rw [← Nat.add_assoc, ← String.append_assoc] at hrest
          simp [hsuccess, hrest, Report.behind, hlog, raise_append]

variable (system runner ys) in
/-- The loop goes on with the second part if the first succeeded. -/
theorem runFrom_append_of_succeeded (step : Nat) (output : String) (xs : List Command)
    (world : World)
    (h : (runFrom system runner step output xs world).value = .ok (.succeeded text)) :
    runFrom system runner step output (xs ++ ys) world =
      let first := runFrom system runner step output xs world
      let second := runFrom system runner (step + xs.length) text ys first.world
      ⟨second.world, first.log ++ second.log, second.value⟩ := by
  induction xs generalizing step output world with
  | nil =>
    obtain rfl : output = text := by simpa [runFrom] using h
    rfl
  | cons command rest ih =>
    simp only [runFrom] at h
    simp only [List.cons_append, runFrom]
    cases hvalue : (run system runner command world).value with
    | error refusal => simp [hvalue] at h
    | ok result =>
      cases result with
      | error error => simp [hvalue] at h
      | ok finished =>
        cases hsuccess : finished.success with
        | false => simp [hvalue, hsuccess] at h
        | true =>
          simp only [hvalue, hsuccess, ↓reduceIte] at h
          have hlength : step + (rest.length + 1) = step + 1 + rest.length := by omega
          simp [hsuccess, ih _ _ _ h, hlength]

variable (system runner ys) in
/-- A loop that stops in the first part does not reach the second. -/
theorem runFrom_append_of_stopped (step : Nat) (output : String) (xs : List Command)
    (world : World) {outcome : Outcome} (stopped : outcome.success = false)
    (h : (runFrom system runner step output xs world).value = .ok outcome) :
    runFrom system runner step output (xs ++ ys) world =
      runFrom system runner step output xs world := by
  induction xs generalizing step output world with
  | nil =>
    obtain rfl : .succeeded output = outcome := by simpa [runFrom] using h
    cases stopped
  | cons command rest ih =>
    simp only [runFrom] at h
    simp only [List.cons_append, runFrom]
    cases hvalue : (run system runner command world).value with
    | error refusal => rfl
    | ok result =>
      cases result with
      | error error => rfl
      | ok finished =>
        cases hsuccess : finished.success with
        | false => simp [hsuccess]
        | true =>
          simp only [hvalue, hsuccess, ↓reduceIte] at h
          simp [hsuccess, ih _ _ _ h]

-- ---------------------------------------------------------------------------
-- Whole sequences
-- ---------------------------------------------------------------------------

/-- What a sequence of two parts comes to. If no command asks for a target, the
first part alone decides where it does not succeed; where it does, the second
part follows in the world it left, with its positions raised by the number of
commands before it and with their text before its own. A sequence is refused
exactly if one of its parts is refused by itself, in whatever world, and then
nothing was asked of the system. -/
theorem runAll_append (system : System World) (runner : Runner) (xs ys : List Command)
    (world : World) :
    let first := runAll system runner xs world
    let whole := runAll system runner (xs ++ ys) world
    ((∀ command ∈ xs ++ ys, command.redirects = false) →
      ∃ outcome, first.value = .ok outcome ∧
        (outcome.success = false → whole = first) ∧
        ∀ output, outcome = .succeeded output →
          let second := runAll system runner ys first.world
          ∃ last, second.value = .ok last ∧
            whole.world = second.world ∧
            whole.log = first.log ++ Log.raise xs.length second.log ∧
            whole.value = .ok ((last.after output).raise xs.length)) ∧
    (∀ other, (∃ refusal, whole.value = .error refusal) ↔
      (∃ refusal, first.value = .error refusal) ∨
        ∃ refusal, (runAll system runner ys other).value = .error refusal) ∧
    ∀ refusal, whole.value = .error refusal →
      whole.world = world ∧ whole.log = [] ∧
        ∀ asked, (runAll system.recording runner (xs ++ ys) (world, asked)).world =
          (world, asked) := by
  intro first whole
  refine ⟨fun captured => ?_, fun other => ?_, fun refusal h => ?_⟩
  · obtain ⟨captured_xs, captured_ys⟩ := List.forall_mem_append.1 captured
    have hfirst : first = runFrom system runner 0 "" xs world := runAll_of_captured captured_xs
    have hwhole : whole = runFrom system runner 0 "" (xs ++ ys) world :=
      runAll_of_captured captured
    obtain ⟨outcome, hvalue⟩ : ∃ outcome, first.value = .ok outcome :=
      runAll_ok system runner world captured_xs
    refine ⟨outcome, hvalue, fun stopped => ?_, ?_⟩
    · rw [hfirst] at hvalue
      rw [hwhole, hfirst]
      exact runFrom_append_of_stopped system runner ys 0 "" xs world stopped hvalue
    · rintro output rfl
      intro second
      have hsecond : second = runFrom system runner 0 "" ys first.world :=
        runAll_of_captured captured_ys
      obtain ⟨last, hlast⟩ := runAll_ok system runner first.world captured_ys
      -- The second part as it is behind the first is the second part alone, moved.
      have hbehind : runFrom system runner xs.length output ys first.world =
          second.behind xs.length output := by
        have h := runFrom_behind system runner ys first.world xs.length 0 output ""
        rwa [Nat.add_zero, String.append_empty, ← hsecond] at h
      rw [hfirst] at hvalue
      have happend := runFrom_append_of_succeeded system runner ys 0 "" xs world hvalue
      rw [← hwhole, ← hfirst, Nat.zero_add] at happend
      simp only [hbehind] at happend
      refine ⟨last, hlast, by rw [happend]; rfl, by rw [happend]; rfl, ?_⟩
      rw [happend]
      simp only [Report.behind, second, hlast, Except.map]
  · simp only [first, whole, runAll_refuses_iff_find, List.find?_append]
    cases xs.find? Command.redirects <;> simp
  · obtain ⟨command, hfind, rfl⟩ := runAll_refuses_iff_find.1 h
    exact ⟨by simp only [whole, runAll_of_find hfind], by simp only [whole, runAll_of_find hfind],
      fun asked => by rw [runAll_of_find hfind]⟩

/-- A command that fails at the front of the second part fails behind the first
part at the raised position. -/
theorem runAll_append_behind_fetch :
    let xs := [Command.new "fetch"]
    let ys := [Command.new "build", Command.new "restart"]
    (∀ command ∈ xs ++ ys, command.redirects = false) ∧
    (runAll (failingAt "build") {} xs 0).value = .ok (.succeeded "done") ∧
    (runAll (failingAt "build") {} ys 1).value = .ok (.failed 0 "build" 3 "out\n\nerr") ∧
    (runAll (failingAt "build") {} (xs ++ ys) 0).value =
      .ok (.failed 1 "build" 3 "out\n\nerr") := by
  intro xs ys
  have captured : ∀ command ∈ xs ++ ys, command.redirects = false := by decide
  have hxs : (runAll (failingAt "build") {} xs 0).value = .ok (.succeeded "done") := rfl
  have hys : (runAll (failingAt "build") {} ys 1).value =
    .ok (.failed 0 "build" 3 "out\n\nerr") := rfl
  obtain ⟨parts, -, -⟩ := runAll_append (failingAt "build") {} xs ys 0
  obtain ⟨outcome, hfirst, -, hbehind⟩ := parts captured
  obtain ⟨last, hlast, -, -, hwhole⟩ :=
    hbehind "done" (Except.ok.inj (hfirst.symm.trans hxs))
  obtain rfl : last = .failed 0 "build" 3 "out\n\nerr" :=
    Except.ok.inj (hlast.symm.trans hys)
  exact ⟨captured, hxs, hys, hwhole⟩

end Runner

end Rollout
