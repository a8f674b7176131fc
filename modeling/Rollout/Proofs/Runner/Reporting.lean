import Rollout.Proofs.Runner.RunLaws
import Rollout.Proofs.Text.Lossy

/-!
# What a command reports

The text of a command that came to its end, from the octets of its two streams.
Each stream is read by itself, and standard error is left out in one case only:
the command exited with code zero and the stream reads as white space.
-/

namespace Rollout.Runner

variable {World : Type} {system : System World} {runner : Runner} {command : Command}
  {world : World} {status : WaitStatus} {stdout stderr : Text.Bytes} {out err : String}

theorem compose_of_blank (h : ∀ c ∈ err.toList, Text.isBlank c = true) :
    compose out err true = out := by
  have hblank : Text.blank err = true := List.all_eq_true.2 h
  simp [compose, hblank]

theorem compose_of_visible {c : Char} (hmem : c ∈ err.toList) (h : Text.isBlank c = false) :
    compose out err true = out ++ separator ++ err ++ separator := by
  have hblank : Text.blank err = false := List.all_eq_false.2 ⟨c, hmem, by simp [h]⟩
  simp [compose, hblank]

theorem loud_ne_out : out ++ separator ++ err ++ separator ≠ out := by
  intro heq
  have hlength := congrArg String.length heq
  have hseparator : separator.length = 2 := rfl
  simp only [String.length_append, hseparator] at hlength
  omega

theorem compose_prefix (success : Bool) : out.toList <+: (compose out err success).toList := by
  unfold compose
  split
  · simp
  · split
    · exact List.prefix_rfl
    · simp

/-- Octets that are no text hold something to be seen. -/
theorem visible_of_no_text (h : ∀ text, Text.encode text ≠ stderr) :
    ∃ c ∈ (Text.lossy stderr).toList, Text.isBlank c = false := by
  rcases (Text.reads_lossy stderr).marked with hencode | hmem
  · exact absurd hencode (h _)
  · exact ⟨_, hmem, by decide⟩

theorem run_of_ended (captured : command.redirects = false)
    (ended : (ask system runner command world).2 = .ended status stdout stderr) :
    (run system runner command world).value = .ok (.ok
      ⟨compose (Text.lossy stdout) (Text.lossy stderr) (status.exitCode == 0), status.exitCode⟩) := by
  rw [run_of_captured captured, ended, resultOf]

/-- The text that is reported of a command that came to its end. Octets of
characters are kept, and one replacement character stands for each maximal part
that is none. Both streams are shown unless the code is zero and standard error
reads as white space; standard output then stands alone. -/
theorem run_reports (system : System World) (runner : Runner) (command : Command) (world : World)
    (captured : command.redirects = false)
    (ended : (ask system runner command world).2 = .ended status stdout stderr) :
    let out := Text.lossy stdout
    let err := Text.lossy stderr
    (∀ bytes cs, Text.Reads bytes cs ↔ cs = (Text.lossy bytes).toList) ∧
    (∀ bytes text, Text.encode text = bytes → Text.encode (Text.lossy bytes) = bytes) ∧
    ∃ text, (run system runner command world).value = .ok (.ok ⟨text, status.exitCode⟩) ∧
      (status.exitCode ≠ 0 → text = out ++ "\n\n" ++ err) ∧
      (status.exitCode = 0 →
        (text = out ↔ ∀ c ∈ err.toList, Text.isBlank c = true) ∧
        (text ≠ out → text = out ++ "\n\n" ++ err ++ "\n\n")) ∧
      out.toList <+: text.toList ∧
      ((∃ c ∈ err.toList, Text.isBlank c = false) ∨ (∀ text, Text.encode text ≠ stderr) →
        (out ++ "\n\n" ++ err).toList <+: text.toList) := by
  intro out err
  refine ⟨fun bytes cs => Text.reads_iff, ?_, _, run_of_ended captured ended, ?_, ?_,
    compose_prefix _, ?_⟩
  · rintro _ text rfl
    rw [Text.lossy_encode]
  · intro hcode
    rw [beq_eq_false_iff_ne.2 hcode]
    exact compose_of_failure out err
  · intro hcode
    rw [beq_iff_eq.2 hcode]
    by_cases hblank : ∀ c ∈ err.toList, Text.isBlank c = true
    · rw [compose_of_blank hblank]
      exact ⟨iff_of_true rfl hblank, fun hne => absurd rfl hne⟩
    · obtain ⟨c, hmem, hc⟩ : ∃ c ∈ err.toList, Text.isBlank c = false := by simpa using hblank
      rw [compose_of_visible hmem hc]
      exact ⟨iff_of_false loud_ne_out hblank, fun _ => rfl⟩
  · intro hseen
    obtain ⟨c, hmem, hc⟩ := hseen.elim id visible_of_no_text
    cases status.exitCode == 0 with
    | false => exact compose_of_failure out err ▸ List.prefix_rfl
    | true =>
      rw [compose_of_visible hmem hc]
      exact ⟨separator.toList, String.toList_append.symm⟩

/-- A system on which every program ends with code zero, its first stream cut
off inside a character and its second one blank but for a wrong octet. -/
def garbling : System Unit := fun _ _ =>
  ((), .ended (.exited 0) [0x6F, 0xE2, 0x82, 0x21] [0x20, 0xC0])

/-- The two octets of the cut character read as one replacement character, and
so does the wrong octet, which keeps standard error from being left out. -/
theorem run_reports_garbled :
    (Command.new "tool").redirects = false ∧
    (ask garbling {} (.new "tool") ()).2 =
      .ended (.exited 0) [0x6F, 0xE2, 0x82, 0x21] [0x20, 0xC0] ∧
    (run garbling {} (.new "tool") ()).value = .ok (.ok ⟨"o\uFFFD!\n\n \uFFFD\n\n", 0⟩) := by
  have captured : (Command.new "tool").redirects = false := rfl
  have ended : (ask garbling {} (.new "tool") ()).2 =
      .ended (.exited 0) [0x6F, 0xE2, 0x82, 0x21] [0x20, 0xC0] := rfl
  obtain ⟨-, -, text, hvalue, -, hzero, -, -⟩ := run_reports garbling {} _ () captured ended
  have hcode : (WaitStatus.exited 0).exitCode = 0 := by decide
  have hout : Text.lossy [0x6F, 0xE2, 0x82, 0x21] = "o\uFFFD!" := by decide
  have herr : Text.lossy [0x20, 0xC0] = " \uFFFD" := by decide
  obtain ⟨hblank, hloud⟩ := hzero hcode
  have hne : text ≠ "o\uFFFD!" := by
    rw [← hout, Ne, hblank, herr]
    intro hall
    exact absurd (hall Text.replacement (by decide)) (by decide)
  rw [hvalue, hloud (hout ▸ hne), hout, herr, hcode]
  exact ⟨captured, ended, rfl⟩

end Rollout.Runner
