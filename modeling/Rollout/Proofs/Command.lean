import Mathlib.Data.List.Basic
import Rollout.Command
import Rollout.Proofs.Vars

/-!
# Commands as they are built

An edit of a command is for one slot of it. What a built command shows in a slot
comes from the edits for this slot alone (`build_shows`): arguments are added up,
and elsewhere the last edit counts. So edits for different slots may come between
each other in any way (`build_by_slot`).
-/

namespace Rollout

theorem Path.same_refl (path : Path) : path.same path = true := by
  simp [same]

namespace Command

-- ---------------------------------------------------------------------------
-- Slots
-- ---------------------------------------------------------------------------

namespace Edit

/-- The part of a command that an edit is for. Each name of an environment entry
is a slot of its own. -/
inductive Slot where
  | args
  | dir
  | env (key : String)
  | stdout
  | stderr
  deriving DecidableEq

def slot : Edit → Slot
  | .arg _ | .args _ => .args
  | .dir _ => .dir
  | .env key _ => .env key
  | .stdout _ => .stdout
  | .stderr _ => .stderr

/-- What an edit is to its slot: the arguments that it adds here, and what it
sets in those below. -/
def args? : Edit → Option (List String)
  | .arg word => some [word]
  | .args words => some words
  | _ => none

def dir? : Edit → Option Path
  | .dir path => some path
  | _ => none

def value? (key : String) : Edit → Option String
  | .env name value => if name = key then some value else none
  | _ => none

def stdout? : Edit → Option Target
  | .stdout target => some target
  | _ => none

def stderr? : Edit → Option Target
  | .stderr target => some target
  | _ => none

variable {edit : Edit} {edits others : List Edit}

theorem args?_eq_none (h : edit.slot ≠ .args) : edit.args? = none := by
  cases edit with
  | arg | args => exact absurd rfl h
  | _ => rfl

theorem dir?_eq_none (h : edit.slot ≠ .dir) : edit.dir? = none := by
  cases edit with
  | dir => exact absurd rfl h
  | _ => rfl

theorem value?_eq_none {key : String} (h : edit.slot ≠ .env key) : edit.value? key = none := by
  cases edit with
  | env name value =>
    have hne : name ≠ key := fun heq => h (congrArg Slot.env heq)
    simp [value?, hne]
  | _ => rfl

theorem stdout?_eq_none (h : edit.slot ≠ .stdout) : edit.stdout? = none := by
  cases edit with
  | stdout => exact absurd rfl h
  | _ => rfl

theorem stderr?_eq_none (h : edit.slot ≠ .stderr) : edit.stderr? = none := by
  cases edit with
  | stderr => exact absurd rfl h
  | _ => rfl

theorem filterMap_filter_slot {β : Type} {take : Edit → Option β} {slot : Slot}
    (own : ∀ {edit : Edit}, edit.slot ≠ slot → take edit = none) (edits : List Edit) :
    (edits.filter (·.slot = slot)).filterMap take = edits.filterMap take := by
  rw [List.filterMap_filter]
  refine List.filterMap_congr fun edit _ => ?_
  by_cases hslot : edit.slot = slot
  · simp [hslot]
  · simp [hslot, own hslot]

/-- The same edits for each slot, in the same order. -/
def SlotWise (edits others : List Edit) : Prop :=
  ∀ slot, edits.filter (·.slot = slot) = others.filter (·.slot = slot)

/-- What is taken from the edits for one slot, those for others do not change. -/
theorem SlotWise.filterMap_eq {β : Type} {take : Edit → Option β} {slot : Slot}
    (same : SlotWise edits others)
    (own : ∀ {edit : Edit}, edit.slot ≠ slot → take edit = none) :
    edits.filterMap take = others.filterMap take := by
  rw [← filterMap_filter_slot own edits, ← filterMap_filter_slot own others, same slot]

theorem slotWise_swap {first second : Edit} (h : first.slot ≠ second.slot)
    (front back : List Edit) :
    SlotWise (front ++ first :: second :: back) (front ++ second :: first :: back) := by
  intro slot
  simp only [List.filter_append, List.filter_cons]
  by_cases hfirst : first.slot = slot
  · have hsecond : second.slot ≠ slot := fun heq => h (hfirst.trans heq.symm)
    simp [hfirst, hsecond]
  · simp [hfirst]

end Edit

open Edit (SlotWise)

-- ---------------------------------------------------------------------------
-- One edit
-- ---------------------------------------------------------------------------

variable {start command other : Command} {edits others : List Edit}

theorem program_apply (command : Command) (edit : Edit) :
    (command.apply edit).program = command.program := by
  cases edit <;> rfl

theorem args_apply (command : Command) (edit : Edit) :
    (command.apply edit).args = command.args ++ edit.args?.getD [] := by
  cases edit with
  | arg | args => rfl
  | _ => exact (List.append_nil _).symm

theorem dir_apply (command : Command) (edit : Edit) :
    (command.apply edit).dir = edit.dir?.or command.dir := by
  cases edit <;> rfl

theorem value_apply (key : String) (command : Command) (edit : Edit) :
    (command.apply edit).env.get? key = (edit.value? key).or (command.env.get? key) := by
  cases edit with
  | env name value =>
    rw [apply, withEnv, Vars.get?_insert, Edit.value?]
    by_cases h : name = key
    · simp [h]
    · simp [h, Ne.symm h]
  | _ => rfl

theorem stdout_apply (command : Command) (edit : Edit) :
    (command.apply edit).stdout = edit.stdout?.or command.stdout := by
  cases edit <;> rfl

theorem stderr_apply (command : Command) (edit : Edit) :
    (command.apply edit).stderr = edit.stderr?.or command.stderr := by
  cases edit <;> rfl

-- ---------------------------------------------------------------------------
-- All edits
-- ---------------------------------------------------------------------------

theorem program_build (start : Command) (edits : List Edit) :
    (build start edits).program = start.program := by
  induction edits generalizing start with
  | nil => rfl
  | cons edit rest ih => exact (ih (start.apply edit)).trans (program_apply start edit)

theorem args_build (start : Command) (edits : List Edit) :
    (build start edits).args = start.args ++ (edits.filterMap Edit.args?).flatten := by
  induction edits generalizing start with
  | nil => exact (List.append_nil _).symm
  | cons edit rest ih =>
    have hrest : (build start (edit :: rest)).args = _ := ih (start.apply edit)
    rw [hrest, args_apply, List.filterMap_cons]
    cases edit.args? <;> simp

/-- Where each edit either sets what is shown or leaves it, the last one that
sets it counts. -/
theorem last_build {β : Type} (get : Command → Option β) (set : Edit → Option β)
    (h : ∀ command edit, get (apply command edit) = (set edit).or (get command))
    (start : Command) (edits : List Edit) :
    get (build start edits) = (edits.filterMap set).getLast?.or (get start) := by
  induction edits generalizing start with
  | nil => rfl
  | cons edit rest ih =>
    have hrest : get (build start (edit :: rest)) = _ := ih (start.apply edit)
    rw [hrest, h, List.filterMap_cons]
    cases hset : set edit with
    | none => rfl
    | some value =>
      rw [List.getLast?_cons]
      cases (rest.filterMap set).getLast? <;> rfl

/-- A command that was just begun. -/
inductive Started : Command → Prop where
  | new (program : String) : Started (new program)
  | ofWords {words : List String} {start : Command} (h : ofWords? words = some start) :
      Started start

theorem Started.eq (started : Started start) :
    start = { program := start.program, args := start.args } := by
  cases started with
  | new program => rfl
  | @ofWords words _ h =>
    cases words with
    | nil => cases h
    | cons program args =>
      cases h
      rfl

/-- What a command shows that was begun as `start` and edited. -/
structure Shows (start : Command) (edits : List Edit) (command : Command) : Prop where
  program : command.program = start.program
  args : command.args = start.args ++ (edits.filterMap Edit.args?).flatten
  dir : command.dir = (edits.filterMap Edit.dir?).getLast?
  env : ∀ key, command.env.get? key = (edits.filterMap (Edit.value? key)).getLast?
  stdout : command.stdout = (edits.filterMap Edit.stdout?).getLast?
  stderr : command.stderr = (edits.filterMap Edit.stderr?).getLast?

theorem build_shows (started : Started start) (edits : List Edit) :
    Shows start edits (build start edits) where
  program := program_build start edits
  args := args_build start edits
  dir := by
    rw [last_build (·.dir) Edit.dir? dir_apply, started.eq, Option.or_none]
  env key := by
    rw [last_build (·.env.get? key) (Edit.value? key) (value_apply key), started.eq,
      Vars.get?_empty, Option.or_none]
  stdout := by
    rw [last_build (·.stdout) Edit.stdout? stdout_apply, started.eq, Option.or_none]
  stderr := by
    rw [last_build (·.stderr) Edit.stderr? stderr_apply, started.eq, Option.or_none]

/-- What is shown is all there is to a command. -/
theorem Shows.unique (shown : Shows start edits command) (shown_other : Shows start edits other) :
    command = other := by
  have henv : command.env = other.env :=
    Vars.ext_get? fun key => (shown.env key).trans (shown_other.env key).symm
  cases command
  cases other
  simp only [mk.injEq]
  exact ⟨shown.program.trans shown_other.program.symm, shown.args.trans shown_other.args.symm,
    shown.dir.trans shown_other.dir.symm, henv, shown.stdout.trans shown_other.stdout.symm,
    shown.stderr.trans shown_other.stderr.symm⟩

theorem Shows.of_slotWise (shown : Shows start edits command) (same : SlotWise edits others) :
    Shows start others command where
  program := shown.program
  args := by rw [shown.args, same.filterMap_eq Edit.args?_eq_none]
  dir := by rw [shown.dir, same.filterMap_eq Edit.dir?_eq_none]
  env key := by rw [shown.env, same.filterMap_eq Edit.value?_eq_none]
  stdout := by rw [shown.stdout, same.filterMap_eq Edit.stdout?_eq_none]
  stderr := by rw [shown.stderr, same.filterMap_eq Edit.stderr?_eq_none]

-- ---------------------------------------------------------------------------
-- Equality
-- ---------------------------------------------------------------------------

theorem sameDir_refl (dir : Option Path) : sameDir dir dir = true := by
  cases dir with
  | none => rfl
  | some path => exact path.same_refl

/-- Edits that come to the same in every slot; directories count as the same by
their components. -/
structure EndsAlike (edits others : List Edit) : Prop where
  args : (edits.filterMap Edit.args?).flatten = (others.filterMap Edit.args?).flatten
  dir : sameDir (edits.filterMap Edit.dir?).getLast? (others.filterMap Edit.dir?).getLast? = true
  env : ∀ key, (edits.filterMap (Edit.value? key)).getLast? =
    (others.filterMap (Edit.value? key)).getLast?
  stdout : (edits.filterMap Edit.stdout?).getLast? = (others.filterMap Edit.stdout?).getLast?
  stderr : (edits.filterMap Edit.stderr?).getLast? = (others.filterMap Edit.stderr?).getLast?

theorem same_iff_endsAlike (shown : Shows start edits command)
    (shown_other : Shows start others other) :
    command.same other = true ↔ EndsAlike edits others := by
  have henv : command.env = other.env ↔ ∀ key, command.env.get? key = other.env.get? key := by
    constructor
    · intro h key
      rw [h]
    · exact Vars.ext_get?
  simp only [same, Bool.and_eq_true, beq_iff_eq, henv, shown.program, shown_other.program,
    shown.args, shown_other.args, shown.dir, shown_other.dir, shown.env, shown_other.env,
    shown.stdout, shown_other.stdout, shown.stderr, shown_other.stderr, List.append_cancel_left_eq]
  constructor
  · rintro ⟨⟨⟨⟨⟨-, args⟩, dir⟩, env⟩, stdout⟩, stderr⟩
    exact ⟨args, dir, env, stdout, stderr⟩
  · rintro ⟨args, dir, env, stdout, stderr⟩
    exact ⟨⟨⟨⟨⟨trivial, args⟩, dir⟩, env⟩, stdout⟩, stderr⟩

-- ---------------------------------------------------------------------------
-- Targets
-- ---------------------------------------------------------------------------

theorem redirects_iff_of_shows (shown : Shows start edits command) :
    command.redirects = true ↔
      ∃ edit ∈ edits, edit.slot = .stdout ∨ edit.slot = .stderr := by
  have hset {take : Edit → Option Target} :
      (edits.filterMap take).getLast?.isSome = true ↔
        ∃ edit ∈ edits, (take edit).isSome = true := by
    rw [List.getLast?_isSome, ne_eq, List.filterMap_eq_nil_iff]
    simp [Option.isSome_iff_ne_none]
  have hslots (edit : Edit) : edit.slot = .stdout ∨ edit.slot = .stderr ↔
      edit.stdout?.isSome = true ∨ edit.stderr?.isSome = true := by
    cases edit <;> simp [Edit.slot, Edit.stdout?, Edit.stderr?]
  rw [redirects, Bool.or_eq_true, shown.stdout, shown.stderr, hset, hset]
  simp only [hslots, and_or_left, exists_or]

/-- What becomes of a command under edits. Every slot shows what the edits for it
come to, whatever stands between them: arguments are added up in order, and the
last directory, the last target of a stream and the last value of each name
count. Commands built from one start are equal exactly if the edits come to the
same in each slot, and edits that are the same slot by slot, or in which
neighbours for different slots were exchanged, give one command. It asks for a
target exactly if some edit did, and no later edit takes that back. -/
theorem build_by_slot (started : Started start) (edits : List Edit) :
    Shows start edits (build start edits) ∧
    (∀ others, (build start edits).same (build start others) = true ↔ EndsAlike edits others) ∧
    (∀ others, SlotWise edits others →
      build start edits = build start others ∧
        (build start edits).same (build start others) = true ∧
        (build start edits).text = (build start others).text) ∧
    (∀ front first second back, first.slot ≠ second.slot →
      build start (front ++ first :: second :: back) =
        build start (front ++ second :: first :: back)) ∧
    ((build start edits).redirects = true ↔
      ∃ edit ∈ edits, edit.slot = .stdout ∨ edit.slot = .stderr) ∧
    ∀ more, (build start edits).redirects = true →
      (build start (edits ++ more)).redirects = true := by
  have shown (edits : List Edit) : Shows start edits (build start edits) :=
    build_shows started edits
  have equal {edits others : List Edit} (same : SlotWise edits others) :
      build start edits = build start others :=
    ((shown edits).of_slotWise same).unique (shown others)
  refine ⟨shown edits, fun others => same_iff_endsAlike (shown edits) (shown others), ?_, ?_,
    redirects_iff_of_shows (shown edits), ?_⟩
  · intro others same
    have heq := equal same
    refine ⟨heq, ?_, by rw [heq]⟩
    rw [heq, same_iff_endsAlike (shown others) (shown others)]
    exact ⟨rfl, sameDir_refl _, fun _ => rfl, rfl, rfl⟩
  · intro front first second back h
    exact equal (Edit.slotWise_swap h front back)
  · intro more
    rw [redirects_iff_of_shows (shown edits), redirects_iff_of_shows (shown (edits ++ more))]
    rintro ⟨edit, hmem, htarget⟩
    exact ⟨edit, List.mem_append_left more hmem, htarget⟩

/-- Begun from two words, with a variable that is put twice and with a target. -/
theorem build_by_slot_fetch :
    let start : Command := { program := "git", args := ["fetch"] }
    let edits : List Edit := [.env "LANG" "C", .arg "--tags", .stdout .discard,
      .env "LANG" "en", .args ["origin"]]
    Started start ∧
    (build start edits).args = ["fetch", "--tags", "origin"] ∧
    (build start edits).env.get? "LANG" = some "en" ∧
    (build start edits).redirects = true ∧
    build start [.arg "--tags", .env "LANG" "en"] =
      build start [.env "LANG" "en", .arg "--tags"] := by
  intro start edits
  have started : Started start := @Started.ofWords ["git", "fetch"] start rfl
  obtain ⟨shown, -, -, -, redirects, -⟩ := build_by_slot started edits
  obtain ⟨-, -, -, swap, -, -⟩ := build_by_slot started []
  refine ⟨started, shown.args, shown.env "LANG", redirects.2 ?_, ?_⟩
  · exact ⟨.stdout .discard, by simp [edits], .inl rfl⟩
  · exact swap [] (.arg "--tags") (.env "LANG" "en") [] (by decide)

end Command

end Rollout
