import Rollout.Flags
import Rollout.Proofs.Config.Sections
import Rollout.Proofs.Numeral
import Rollout.Proofs.Text.Lossy
import Rollout.Proofs.Text.Trimming

/-!
# Flags over entries over the file over defaults

Where each setting comes from, and which fault counts where there are several.
`settings_eq_error_iff` and `settings_eq_ok_iff` read off the result of loading
what the file, the environment and the flags have to be; the flags have no part
in the first, apart from the path that they name.
-/

namespace Rollout

-- ---------------------------------------------------------------------------
-- Where settings come from
-- ---------------------------------------------------------------------------

/-- What a file holds. A file that is not there holds nothing. -/
inductive FileState.Holds : FileState → List (String × Value) → Prop where
  | missing : Holds .missing []
  | readable {octets : Text.Bytes} {text : String} {entries : List (String × Value)}
      (decoded : Text.decode? octets = some text) (read : Toml.read? text = some entries) :
      Holds (.readable octets) entries

/-- The settings of a file, which keep their defaults where it gives nothing. -/
def FileState.Provides (file : FileState) (config : Config) : Prop :=
  ∃ entries, file.Holds entries ∧ config.Holds entries

namespace Overrides

/-- An entry is there, is UTF-8 and is not blank. -/
def Given (entry : Option Text.Bytes) (text : String) : Prop :=
  entry = some (Text.encode text) ∧ ¬ Text.Blank text

/-- Between white space, the text is the numeral of a port. -/
def SpellsPort (text : String) : Prop :=
  ∃ core, Text.Trims text core ∧ ∃ n ≤ 65535, Numeral.Unsigned core n

/-- If the port's entry is given, it spells a port. -/
def PortSound (overrides : Overrides) : Prop :=
  ∀ text, Given overrides.port text → SpellsPort text

end Overrides

open Overrides (Given SpellsPort)

/-- Why there are no settings. Each fault counts only where none above it is
there. -/
inductive Config.Fails (path : Path) (file : FileState) (overrides : Overrides) :
    ConfigError → Prop where
  | unreadable {error : IoError} (found : file = .unreadable error) :
      Fails path file overrides (.unreadable path error)
  | notText {octets : Text.Bytes} (found : file = .readable octets)
      (bad : ∀ text, octets ≠ Text.encode text) :
      Fails path file overrides (.unreadable path .invalidText)
  | undecodable {text : String} (found : file = .readable (Text.encode text))
      (bad : ∀ base, ¬ file.Provides base) :
      Fails path file overrides (.undecodable path)
  | port {base : Config} {text : String} (provided : file.Provides base)
      (given : Given overrides.port text) (bad : ¬ SpellsPort text) :
      Fails path file overrides (.override "DEPLOY_HOOK_PORT" text)
  | git {base : Config} (provided : file.Provides base) (port : overrides.PortSound)
      (bad : Text.Blank base.deploy.git) :
      Fails path file overrides (.invalid "deploy.git must not be empty")
  | remote {base : Config} (provided : file.Provides base) (port : overrides.PortSound)
      (git : ¬ Text.Blank base.deploy.git) (bad : Text.Blank base.deploy.remote) :
      Fails path file overrides (.invalid "deploy.remote must not be empty")

/-- A setting that a flag, an entry and the file may give: it is the flag's as
it stands, else what the entry spells between white space, else the file's. -/
inductive Chosen {α : Type} (Spells : String → α → Prop) (flag : Option α)
    (entry : Option Text.Bytes) (file : α) : α → Prop where
  | flag {setting : α} (given : flag = some setting) : Chosen Spells flag entry file setting
  | entry {setting : α} {text core : String} (absent : flag = none) (given : Given entry text)
      (trims : Text.Trims text core) (spells : Spells core setting) :
      Chosen Spells flag entry file setting
  | file (absent : flag = none) (none_given : ∀ text, ¬ Given entry text) :
      Chosen Spells flag entry file file

/-- What the settings of a file come to under entries and flags. -/
structure Config.Settles (flags : Flags) (overrides : Overrides) (base config : Config) :
    Prop where
  host : Chosen (fun core host => host = core) flags.host overrides.host base.server.host
    config.server.host
  port : Chosen (fun core port => Numeral.Unsigned core port.toNat) flags.port overrides.port
    base.server.port config.server.port
  dir : Chosen (fun core dir => dir.octets = Text.encode core) flags.dir overrides.dir
    base.deploy.dir config.deploy.dir
  git : config.deploy.git = base.deploy.git
  remote : config.deploy.remote = base.deploy.remote
  script : config.deploy.script = base.deploy.script
  restart : config.deploy.restart = base.deploy.restart
  env : config.deploy.env = base.deploy.env
  /-- A flag does not stand in for an entry that is no port. -/
  port_sound : overrides.PortSound
  git_given : ¬ Text.Blank config.deploy.git
  remote_given : ¬ Text.Blank config.deploy.remote

-- ---------------------------------------------------------------------------
-- Entries
-- ---------------------------------------------------------------------------

theorem Overrides.given?_eq_some_iff {entry : Option Text.Bytes} {text : String} :
    given? entry = some text ↔ Given entry text := by
  simp only [given?, Given, Option.filter_eq_some_iff, Option.bind_eq_some_iff,
    Bool.not_eq_true', Text.decode?_eq_some_iff, Text.blank_eq_false_iff]
  constructor
  · rintro ⟨⟨_, hentry, rfl⟩, visible⟩
    exact ⟨hentry, visible⟩
  · rintro ⟨hentry, visible⟩
    exact ⟨⟨_, hentry, rfl⟩, visible⟩

theorem Overrides.given?_eq_none_iff {entry : Option Text.Bytes} :
    given? entry = none ↔ ∀ text, ¬ Given entry text := by
  simp only [Option.eq_none_iff_forall_ne_some, ne_eq, given?_eq_some_iff]

theorem Overrides.spellsPort_iff {text : String} :
    SpellsPort text ↔ ∃ port, Port.ofText? (Text.trim text) = some port := by
  constructor
  · rintro ⟨core, trims, n, small, spells⟩
    obtain ⟨port, rfl⟩ := Port.exists_toNat_eq small
    exact ⟨port, Port.ofText?_eq_some_iff.2 (trims.eq_trim ▸ spells)⟩
  · rintro ⟨port, hread⟩
    exact ⟨_, Text.trims_trim text, _, Port.toNat_le port, Port.ofText?_eq_some_iff.1 hread⟩

theorem Overrides.portSound_or (overrides : Overrides) : overrides.PortSound ∨
    ∃ text, Given overrides.port text ∧ ¬ SpellsPort text := by
  by_cases h : ∃ text, Given overrides.port text ∧ ¬ SpellsPort text
  · exact .inr h
  · exact .inl fun text given => by_contra fun bad => h ⟨text, given, bad⟩

/-- A setting is chosen in one way where its entry, if given, can be read. -/
theorem chosen_iff {α : Type} {Spells : String → α → Prop} {flag : Option α}
    {entry : Option Text.Bytes} {file setting : α} (read : String → Option α)
    (reads : ∀ core setting, read core = some setting ↔ Spells core setting)
    (sound : ∀ text, Given entry text → ∃ taken, read (Text.trim text) = some taken) :
    Chosen Spells flag entry file setting ↔
      setting = flag.getD (((Overrides.given? entry).bind fun text =>
        read (Text.trim text)).getD file) := by
  constructor
  · rintro (hflag | ⟨habsent, hgiven, trims, spells⟩ | ⟨habsent, hnone⟩)
    · simp [hflag]
    · have htaken := (reads _ _).2 (trims.eq_trim ▸ spells)
      simp [habsent, Overrides.given?_eq_some_iff.2 hgiven, htaken]
    · simp [habsent, Overrides.given?_eq_none_iff.2 hnone]
  · rintro rfl
    cases hflag : flag with
    | some setting => exact .flag rfl
    | none =>
      cases hentry : Overrides.given? entry with
      | none => exact .file rfl (Overrides.given?_eq_none_iff.1 hentry)
      | some text =>
        have hgiven := Overrides.given?_eq_some_iff.1 hentry
        obtain ⟨taken, htaken⟩ := sound text hgiven
        exact .entry rfl hgiven (Text.trims_trim text) ((reads _ _).1 (by simp [htaken]))

namespace Config

variable {path : Path} {file : FileState} {flags : Flags} {overrides : Overrides}
  {base config : Config} {error : ConfigError}

/-- The settings of a file under entries whose port is sound. -/
def overlaid (overrides : Overrides) (base : Config) : Config where
  server := {
    host := ((Overrides.given? overrides.host).bind fun text =>
      some (Text.trim text)).getD base.server.host
    port := ((Overrides.given? overrides.port).bind fun text =>
      Port.ofText? (Text.trim text)).getD base.server.port }
  deploy := { base.deploy with
    dir := ((Overrides.given? overrides.dir).bind fun text =>
      some (Path.ofString (Text.trim text))).getD base.deploy.dir }

theorem override_of_sound (h : overrides.PortSound) :
    override overrides base = .ok (overlaid overrides base) := by
  cases hport : Overrides.given? overrides.port with
  | none =>
    simp only [override, overlaid, hport, Option.map_eq_bind, Function.comp_def, bind, Except.bind,
      pure, Except.pure, Option.bind_none, Option.getD_none]
  | some text =>
    have spells := h text (Overrides.given?_eq_some_iff.1 hport)
    obtain ⟨port, hread⟩ := Overrides.spellsPort_iff.1 spells
    simp only [override, overlaid, hport, hread, Option.map_eq_bind, Function.comp_def, bind,
      Except.bind, pure, Except.pure, Option.bind_some, Option.getD_some]

theorem override_of_bad {text : String} (given : Given overrides.port text)
    (bad : ¬ SpellsPort text) :
    override overrides base = .error (.override "DEPLOY_HOOK_PORT" text) := by
  have hnone : Port.ofText? (Text.trim text) = none :=
    Option.eq_none_iff_forall_ne_some.2 fun port hread =>
      bad (Overrides.spellsPort_iff.2 ⟨port, hread⟩)
  simp [override, Overrides.given?_eq_some_iff.2 given, hnone, bind, Except.bind]
  rfl

-- ---------------------------------------------------------------------------
-- Files and checks
-- ---------------------------------------------------------------------------

theorem provides_missing_iff : FileState.missing.Provides base ↔ base = {} := by
  constructor
  · rintro ⟨_, ⟨⟩, hbase⟩
    exact holds_nil.1 hbase
  · rintro rfl
    exact ⟨[], .missing, holds_nil.2 rfl⟩

theorem not_provides_unreadable {source : IoError} :
    ¬ (FileState.unreadable source).Provides base := by
  rintro ⟨_, ⟨⟩, -⟩

theorem provides_readable_iff {octets : Text.Bytes} {text : String}
    (h : Text.decode? octets = some text) : (FileState.readable octets).Provides base ↔
      (Toml.read? text >>= ofEntries? .ignored) = some base := by
  simp only [Option.bind_eq_bind, Option.bind_eq_some_iff, ofEntries?_eq_some_iff]
  constructor
  · rintro ⟨entries, hholds, hbase⟩
    cases hholds with
    | readable decoded read =>
      cases h.symm.trans decoded
      exact ⟨entries, read, hbase⟩
  · rintro ⟨entries, read, hbase⟩
    exact ⟨entries, .readable h read, hbase⟩

theorem not_provides_notText {octets : Text.Bytes} (h : Text.decode? octets = none) :
    ¬ (FileState.readable octets).Provides base := by
  rintro ⟨entries, hholds, -⟩
  cases hholds with
  | readable decoded => simp [h] at decoded

theorem ofFile_eq_ok_iff : ofFile path file = .ok base ↔ file.Provides base := by
  cases file with
  | missing => simp [ofFile, provides_missing_iff, eq_comm]
  | unreadable source => simp [ofFile, not_provides_unreadable]
  | readable octets =>
    cases hdecode : Text.decode? octets with
    | none => simp [ofFile, hdecode, not_provides_notText hdecode]
    | some text =>
      simp only [provides_readable_iff hdecode, ofFile, hdecode]
      cases Toml.read? text >>= ofEntries? .ignored <;> simp

theorem ofFile_eq_error_iff : ofFile path file = .error error ↔
    (∃ source, file = .unreadable source ∧ error = .unreadable path source) ∨
    (∃ octets, file = .readable octets ∧ Text.decode? octets = none ∧
      error = .unreadable path .invalidText) ∨
    ∃ octets text, file = .readable octets ∧ Text.decode? octets = some text ∧
      (∀ base, ¬ file.Provides base) ∧ error = .undecodable path := by
  cases file with
  | missing => simp [ofFile]
  | unreadable source => simp [ofFile, eq_comm]
  | readable octets =>
    cases hdecode : Text.decode? octets with
    | none => simp [ofFile, hdecode, eq_comm]
    | some text =>
      simp only [provides_readable_iff hdecode, ofFile, hdecode]
      cases Toml.read? text >>= ofEntries? .ignored <;> simp [hdecode, eq_comm]

theorem check_eq_ok_iff : check base = .ok config ↔ config = base ∧
    Text.blank base.deploy.git = false ∧ Text.blank base.deploy.remote = false := by
  unfold check
  split
  next hgit => simp [hgit]
  next hgit =>
    split
    next hremote => simp [hremote]
    next hremote =>
      simp only [Bool.not_eq_true] at hgit hremote
      simp [hgit, hremote, eq_comm]

theorem check_eq_error_iff : check base = .error error ↔
    (Text.blank base.deploy.git = true ∧ error = .invalid "deploy.git must not be empty") ∨
    Text.blank base.deploy.git = false ∧ Text.blank base.deploy.remote = true ∧
      error = .invalid "deploy.remote must not be empty" := by
  unfold check
  split
  next hgit => simpa [hgit] using eq_comm
  next hgit =>
    simp only [Bool.not_eq_true] at hgit
    split
    next hremote => simpa [hgit, hremote] using eq_comm
    next hremote => simp [hgit, hremote]

-- ---------------------------------------------------------------------------
-- Loading
-- ---------------------------------------------------------------------------

theorem bind_eq_ok_iff {ε α β : Type} {x : Except ε α} {f : α → Except ε β} {b : β} :
    x >>= f = .ok b ↔ ∃ a, x = .ok a ∧ f a = .ok b := by
  cases x <;> simp [bind, Except.bind]

theorem bind_eq_error_iff {ε α β : Type} {x : Except ε α} {f : α → Except ε β} {e : ε} :
    x >>= f = .error e ↔ x = .error e ∨ ∃ a, x = .ok a ∧ f a = .error e := by
  cases x <;> simp [bind, Except.bind]

theorem override_eq_ok_iff : override overrides base = .ok config ↔
    overrides.PortSound ∧ config = overlaid overrides base := by
  rcases overrides.portSound_or with sound | ⟨text, given, bad⟩
  · simp [override_of_sound sound, sound, eq_comm]
  · have unsound : ¬ overrides.PortSound := fun sound => bad (sound text given)
    simp [override_of_bad given bad, unsound]

theorem override_eq_error_iff : override overrides base = .error error ↔
    ∃ text, Given overrides.port text ∧ ¬ SpellsPort text ∧
      error = .override "DEPLOY_HOOK_PORT" text := by
  constructor
  · intro h
    rcases overrides.portSound_or with sound | ⟨text, given, bad⟩
    · simp [override_of_sound sound] at h
    · rw [override_of_bad given bad] at h
      exact ⟨text, given, bad, (Except.error.inj h).symm⟩
  · rintro ⟨text, given, bad, rfl⟩
    exact override_of_bad given bad

/-- Loading fails with the file, with the port's entry, or with the check of
what the file provides; no entry gets in the way of that check. -/
theorem load_eq_error_iff : (load path file overrides).2 = .error error ↔
    Fails path file overrides error := by
  simp only [load, bind_eq_error_iff, bind_eq_ok_iff, ofFile_eq_error_iff, ofFile_eq_ok_iff,
    override_eq_error_iff, override_eq_ok_iff, check_eq_error_iff, Text.decode?_eq_none_iff,
    Text.decode?_eq_some_iff, Text.blank_iff, Text.blank_eq_false_iff]
  constructor
  · rintro (((⟨source, rfl, rfl⟩ | ⟨octets, rfl, bad, rfl⟩ | ⟨_, text, rfl, rfl, bad, rfl⟩) |
      ⟨base, provided, text, given, bad, rfl⟩) | ⟨_, ⟨base, provided, sound, rfl⟩, checked⟩)
    · exact .unreadable rfl
    · exact .notText rfl bad
    · exact .undecodable rfl bad
    · exact .port provided given bad
    · rcases checked with ⟨bad, rfl⟩ | ⟨git, bad, rfl⟩
      · exact .git provided sound bad
      · exact .remote provided sound git bad
  · intro fails
    cases fails with
    | unreadable found => exact .inl (.inl (.inl ⟨_, found, rfl⟩))
    | notText found bad => exact .inl (.inl (.inr (.inl ⟨_, found, bad, rfl⟩)))
    | undecodable found bad => exact .inl (.inl (.inr (.inr ⟨_, _, found, rfl, bad, rfl⟩)))
    | port provided given bad => exact .inl (.inr ⟨_, provided, _, given, bad, rfl⟩)
    | git provided sound bad =>
      exact .inr ⟨_, ⟨_, provided, sound, rfl⟩, .inl ⟨bad, rfl⟩⟩
    | remote provided sound git bad =>
      exact .inr ⟨_, ⟨_, provided, sound, rfl⟩, .inr ⟨git, bad, rfl⟩⟩

theorem load_eq_ok_iff : (load path file overrides).2 = .ok config ↔
    ∃ base, file.Provides base ∧ overrides.PortSound ∧ config = overlaid overrides base ∧
      ¬ Text.Blank base.deploy.git ∧ ¬ Text.Blank base.deploy.remote := by
  simp only [load, bind_eq_ok_iff, ofFile_eq_ok_iff, override_eq_ok_iff, check_eq_ok_iff,
    Text.blank_eq_false_iff]
  constructor
  · rintro ⟨_, ⟨base, provided, sound, rfl⟩, rfl, git, remote⟩
    exact ⟨base, provided, sound, rfl, git, remote⟩
  · rintro ⟨base, provided, sound, rfl, git, remote⟩
    exact ⟨_, ⟨base, provided, sound, rfl⟩, rfl, git, remote⟩

-- Of the three entries only that of the port may be given and still not be read.

theorem chosen_host_iff {host : String} : Chosen (fun core host => host = core) flags.host
    overrides.host base.server.host host ↔
      host = (flags.apply (overlaid overrides base)).server.host :=
  chosen_iff some (fun _ _ => Option.some_inj.trans eq_comm) fun _ _ => ⟨_, rfl⟩

theorem chosen_port_iff {port : Port} (sound : overrides.PortSound) :
    Chosen (fun core port => Numeral.Unsigned core port.toNat) flags.port overrides.port
      base.server.port port ↔
        port = (flags.apply (overlaid overrides base)).server.port :=
  chosen_iff Port.ofText? (fun _ _ => Port.ofText?_eq_some_iff)
    fun text given => Overrides.spellsPort_iff.1 (sound text given)

theorem chosen_dir_iff {dir : Path} : Chosen (fun core dir => dir.octets = Text.encode core)
    flags.dir overrides.dir base.deploy.dir dir ↔
      dir = (flags.apply (overlaid overrides base)).deploy.dir :=
  chosen_iff (fun core => some (Path.ofString core))
    (fun _ _ => Option.some_inj.trans (eq_comm.trans Path.eq_ofString_iff)) fun _ _ => ⟨_, rfl⟩

/-- The flags over the entries over the file, setting by setting. -/
theorem settles_iff : Settles flags overrides base config ↔
    overrides.PortSound ∧ config = flags.apply (overlaid overrides base) ∧
      ¬ Text.Blank base.deploy.git ∧ ¬ Text.Blank base.deploy.remote := by
  constructor
  · rintro ⟨host, port, dir, git, remote, script, restart, env, sound, git_given, remote_given⟩
    rw [chosen_host_iff] at host
    rw [chosen_port_iff sound] at port
    rw [chosen_dir_iff] at dir
    refine ⟨sound, ?_, git ▸ git_given, remote ▸ remote_given⟩
    obtain ⟨⟨_, _⟩, ⟨_, _, _, _, _, _⟩⟩ := config
    simp only at host port dir git remote script restart env
    subst host port dir git remote script restart env
    rfl
  · rintro ⟨sound, rfl, git, remote⟩
    exact {
      host := chosen_host_iff.2 rfl
      port := (chosen_port_iff sound).2 rfl
      dir := chosen_dir_iff.2 rfl
      git := rfl
      remote := rfl
      script := rfl
      restart := rfl
      env := rfl
      port_sound := sound
      git_given := git
      remote_given := remote }

theorem settings_eq_error_iff : (flags.settings file overrides).2 = .error error ↔
    Fails flags.config file overrides error := by
  have happly : (flags.settings file overrides).2 =
      (load flags.config file overrides).2.map flags.apply := rfl
  rw [happly, ← load_eq_error_iff]
  cases (load flags.config file overrides).2 <;> simp [Except.map]

theorem settings_eq_ok_iff : (flags.settings file overrides).2 = .ok config ↔
    ∃ base, file.Provides base ∧ Settles flags overrides base config := by
  have hmap : (flags.settings file overrides).2 = .ok config ↔
      ∃ loaded, (load flags.config file overrides).2 = .ok loaded ∧
        config = flags.apply loaded := by
    have happly : (flags.settings file overrides).2 =
        (load flags.config file overrides).2.map flags.apply := rfl
    rw [happly]
    cases (load flags.config file overrides).2 <;> simp [Except.map, eq_comm]
  rw [hmap]
  simp only [load_eq_ok_iff, settles_iff]
  constructor
  · rintro ⟨_, ⟨base, provided, sound, rfl, git, remote⟩, rfl⟩
    exact ⟨base, provided, sound, rfl, git, remote⟩
  · rintro ⟨base, provided, sound, rfl, git, remote⟩
    exact ⟨_, ⟨base, provided, sound, rfl, git, remote⟩, rfl⟩

/-- What settings a program runs with, and why there may be none. A fault is
one of the file, of the port's entry or of what the file provides, in this
order, whatever the flags override. Else each of the host, the port and the
directory is the flag's, or the entry's, or the file's, or the default, and all
other settings are those of the file. -/
theorem settings_precedence (flags : Flags) (file : FileState) (overrides : Overrides) :
    (∀ error, (flags.settings file overrides).2 = .error error ↔
      Fails flags.config file overrides error) ∧
    ∀ config, (flags.settings file overrides).2 = .ok config ↔
      ∃ base, file.Provides base ∧ Settles flags overrides base config :=
  ⟨fun _ => settings_eq_error_iff, fun _ => settings_eq_ok_iff⟩

/-- A flag for the port does not mask an entry that is none. -/
example : (Flags.settings { port := some 1 } .missing { port := some (Text.encode " http") }).2 =
    .error (.override "DEPLOY_HOOK_PORT" " http") := rfl

end Config

end Rollout
