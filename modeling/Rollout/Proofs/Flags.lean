import Rollout.Flags.Parse
import Rollout.Proofs.Numeral
import Rollout.Proofs.Text.Utf8

/-!
# Settings on a command line

A command line that gives settings in any order and spells each in any of its
ways reads as these settings. `takeWords_line` follows the reader over such a
line: whatever still waits is settled, and then the settings are added one after
another. The first setting of a flag that was given before ends the reading.
-/

namespace Rollout.Flags

open Numeral (Signed)

/-- A flag that a command line gives, with its value. -/
inductive Setting where
  | debug
  | config (path : Path)
  | host (host : String)
  | port (port : Port)
  | dir (dir : Path)
  deriving DecidableEq

namespace Setting

def flag : Setting → Flag
  | debug => .debug
  | config _ => .config
  | host _ => .host
  | port _ => .port
  | dir _ => .dir

/-- A path has at least one octet. -/
def Sound : Setting → Prop
  | debug | host _ | port _ => True
  | config path | dir path => path.octets ≠ []

/-- What the value of a setting is written as. -/
inductive HasValue : Setting → Text.Bytes → Prop where
  | config {octets : Text.Bytes} (given : octets ≠ []) : HasValue (.config ⟨octets⟩) octets
  | host (host : String) : HasValue (.host host) (Text.encode host)
  | port {port : Port} {text : String} (spells : Signed text port.toNat) :
      HasValue (.port port) (Text.encode text)
  | dir {octets : Text.Bytes} (given : octets ≠ []) : HasValue (.dir ⟨octets⟩) octets

/-- The words that a setting is written as. A value stands behind an equals sign
or, where it is not empty and starts with no dash, as a word of its own. -/
inductive Written : Setting → List Text.Bytes → Prop where
  | short : Written .debug [Text.encode "-d"]
  | long : Written .debug [Text.encode "--debug"]
  | joined {setting : Setting} {octets : Text.Bytes} (value : setting.HasValue octets) :
      Written setting [Text.encode ("--" ++ setting.flag.name ++ "=") ++ octets]
  | apart {setting : Setting} {octets : Text.Bytes} (value : setting.HasValue octets)
      (given : octets ≠ []) (plain : octets.head? ≠ some Reading.dash) :
      Written setting [Text.encode ("--" ++ setting.flag.name), octets]

end Setting

/-- The words of settings one after another. -/
inductive Line : List Setting → List Text.Bytes → Prop where
  | nil : Line [] []
  | cons {setting : Setting} {settings : List Setting} {words others : List Text.Bytes}
      (first : setting.Written words) (rest : Line settings others) :
      Line (setting :: settings) (words ++ others)

/-- The settings that are chosen. -/
def chosen (debug : Bool) (config : Option Path) (host : Option String) (port : Option Port)
    (dir : Option Path) : List Setting :=
  (if debug then [.debug] else []) ++ (config.map .config).toList ++ (host.map .host).toList ++
    (port.map .port).toList ++ (dir.map .dir).toList

variable {setting other : Setting} {settings others : List Setting} {flag : Flag}
  {octets : Text.Bytes} {words rest : List Text.Bytes}

-- ---------------------------------------------------------------------------
-- Adding settings
-- ---------------------------------------------------------------------------

namespace Reading

variable {reading done : Reading}

def put (reading : Reading) : Setting → Reading
  | .debug => { reading with debug := true }
  | .config path => { reading with config := some path }
  | .host host => { reading with host := some host }
  | .port port => { reading with port := some port }
  | .dir dir => { reading with dir := some dir }

/-- A setting is added once. -/
def add (reading : Reading) (setting : Setting) : Except Stop Reading :=
  if reading.has setting.flag then .error (.repeated setting.flag) else .ok (reading.put setting)

@[simp] theorem waiting_put : (reading.put setting).waiting = reading.waiting := by
  cases setting <;> rfl

theorem has_put : (reading.put setting).has flag = (setting.flag == flag || reading.has flag) := by
  cases setting <;> cases flag <;> rfl

theorem put_comm (h : setting.flag ≠ other.flag) :
    (reading.put setting).put other = (reading.put other).put setting := by
  cases setting <;> cases other <;> simp_all [put, Setting.flag]

theorem has_foldl_put (settings : List Setting) (reading : Reading) :
    (settings.foldl put reading).has flag = true ↔
      flag ∈ settings.map Setting.flag ∨ reading.has flag = true := by
  induction settings generalizing reading with
  | nil => simp
  | cons setting settings ih =>
    rw [List.foldl_cons, ih, has_put, List.map_cons, List.mem_cons]
    simp only [Bool.or_eq_true, beq_iff_eq]
    grind

/-- Settings of distinct flags are all added. -/
theorem foldlM_add_of_nodup (distinct : (settings.map Setting.flag).Nodup)
    (new : ∀ setting ∈ settings, reading.has setting.flag = false) :
    settings.foldlM add reading = .ok (settings.foldl put reading) := by
  induction settings generalizing reading with
  | nil => rfl
  | cons setting settings ih =>
    obtain ⟨hfirst, hrest⟩ := List.nodup_cons.1 distinct
    obtain ⟨hnew, hnews⟩ := List.forall_mem_cons.1 new
    have hadd : reading.add setting = .ok (reading.put setting) := by simp [add, hnew]
    have hothers : ∀ other ∈ settings, (reading.put setting).has other.flag = false := by
      intro other hm
      have hne : setting.flag ≠ other.flag := fun heq =>
        hfirst (heq ▸ List.mem_map_of_mem hm)
      simp [has_put, hne, hnews other hm]
    rw [List.foldlM_cons, hadd]
    exact ih hrest hothers

/-- Settings of distinct flags may be put in any order. -/
theorem foldl_put_perm (perm : settings.Perm others) (distinct : (settings.map Setting.flag).Nodup)
    (reading : Reading) : settings.foldl put reading = others.foldl put reading := by
  induction perm generalizing reading with
  | nil => rfl
  | cons setting _ ih => exact ih (List.nodup_cons.1 distinct).2 (reading.put setting)
  | swap first second rest =>
    have hne : first.flag ≠ second.flag := fun heq =>
      (List.nodup_cons.1 distinct).1 (heq ▸ List.mem_cons_self)
    simp only [List.foldl_cons, put_comm hne]
  | trans first _ ih ih' =>
    rw [ih distinct, ih' ((first.map Setting.flag).nodup_iff.1 distinct)]

/-- Behind settings of distinct flags one of them comes again. -/
theorem foldlM_add_of_repeated (distinct : (settings.map Setting.flag).Nodup)
    (again : setting.flag ∈ settings.map Setting.flag) :
    (settings ++ setting :: others).foldlM add {} = .error (.repeated setting.flag) := by
  have hnew : ∀ other ∈ settings, ({} : Reading).has other.flag = false :=
    fun other _ => by cases other <;> rfl
  have hhas : (settings.foldl put {}).has setting.flag = true :=
    (has_foldl_put settings {}).2 (.inl again)
  have hadd : (settings.foldl put {}).add setting = .error (.repeated setting.flag) := by
    simp [add, hhas]
  rw [List.foldlM_append, foldlM_add_of_nodup distinct hnew]
  simp only [bind, Except.bind, List.foldlM_cons, hadd]

-- ---------------------------------------------------------------------------
-- Values
-- ---------------------------------------------------------------------------

theorem path_of_given (flag : Flag) (given : octets ≠ []) : path flag octets = .ok ⟨octets⟩ := by
  simp [path, given]

theorem text_encode (shown : String) : text (Text.encode shown) = .ok shown := by
  simp [text, Text.decode?_encode]

/-- A value that was written for a setting adds the setting. -/
theorem settle_of_value (h : setting.HasValue octets) :
    reading.settle setting.flag (some octets) = reading.add setting := by
  unfold add
  cases hhas : reading.has setting.flag with
  | true => cases h <;> simp only [settle, hhas, ↓reduceIte] <;> rfl
  | false =>
    cases h with
    | config given =>
      replace hhas : reading.has .config = false := hhas
      simp only [settle, Setting.flag, hhas, Option.getD_some, path_of_given _ given]
      rfl
    | host host =>
      replace hhas : reading.has .host = false := hhas
      simp only [settle, Setting.flag, hhas, Option.getD_some, text_encode]
      rfl
    | port spells =>
      replace hhas : reading.has .port = false := hhas
      simp only [settle, Setting.flag, hhas, Option.getD_some, text_encode, bind, Except.bind,
        Port.ofFlag_eq_ok_iff.2 spells]
      rfl
    | dir given =>
      replace hhas : reading.has .dir = false := hhas
      simp only [settle, Setting.flag, hhas, Option.getD_some, path_of_given _ given]
      rfl

theorem waiting_of_add (idle : reading.waiting = none) (h : reading.add setting = .ok done) :
    done.waiting = none := by
  unfold add at h
  split at h
  · cases h
  · cases h
    rw [waiting_put, idle]

theorem settleWaiting_of_idle (idle : reading.waiting = none) :
    reading.settleWaiting = .ok reading := by
  simp only [settleWaiting, idle]

/-- A value that waits is settled into a reading in which nothing waits. -/
theorem settleWaiting_of_value (idle : done.waiting = none) (h : setting.HasValue octets) :
    Reading.settleWaiting { done with waiting := some (setting.flag, some octets) } =
      done.add setting := by
  have hdone : { done with waiting := none } = done := by rw [← idle]
  simp only [settleWaiting, hdone, settle_of_value h]

-- ---------------------------------------------------------------------------
-- Words
-- ---------------------------------------------------------------------------

theorem ofName?_name (flag : Flag) : Flag.ofName? flag.name = some flag := by
  cases flag <;> decide

theorem name_free (flag : Flag) : ∀ b ∈ Text.encode flag.name, (b != equals) = true := by
  rw [← List.all_eq_true]
  cases flag <;> decide

theorem name_given (flag : Flag) : Text.encode flag.name ≠ [] := by
  cases flag <;> decide

theorem takeLong_name (reading : Reading) (flag : Flag) :
    reading.takeLong (Text.encode flag.name) = reading.takeFlag flag none := by
  have hname : (Text.encode flag.name).takeWhile (· != equals) = Text.encode flag.name := by
    rw [← List.append_nil (Text.encode flag.name), List.takeWhile_append_of_pos (name_free flag),
      List.takeWhile_nil]
  simp only [takeLong, hname, Nat.lt_irrefl, ↓reduceIte, Text.decode?_encode, Option.bind_some,
    ofName?_name]

theorem takeLong_joined (reading : Reading) (flag : Flag) (octets : Text.Bytes) :
    reading.takeLong (Text.encode flag.name ++ equals :: octets) =
      reading.takeFlag flag (some octets) := by
  have hname : (Text.encode flag.name ++ equals :: octets).takeWhile (· != equals) =
      Text.encode flag.name := by
    rw [List.takeWhile_append_of_pos (name_free flag)]
    simp
  have hvalue : (Text.encode flag.name ++ equals :: octets).drop
      ((Text.encode flag.name).length + 1) = octets := by
    rw [List.drop_append]
    simp
  have hlength : (Text.encode flag.name).length <
      (Text.encode flag.name ++ equals :: octets).length := by
    simp
  simp only [takeLong, hname, hvalue, hlength, ↓reduceIte, Text.decode?_encode, Option.bind_some,
    ofName?_name]

theorem takeWords_long (reading : Reading) {word : Text.Bytes} (given : word ≠ [])
    (rest : List Text.Bytes) : reading.takeWords ((dash :: dash :: word) :: rest) =
      reading.takeLong word >>= fun reading => reading.takeWords rest := by
  cases word with
  | nil => exact absurd rfl given
  | cons b word => rfl

theorem takeWords_name (reading : Reading) (flag : Flag) (rest : List Text.Bytes) :
    reading.takeWords (Text.encode ("--" ++ flag.name) :: rest) =
      reading.takeFlag flag none >>= fun reading => reading.takeWords rest := by
  rw [Text.encode_append, ← takeLong_name]
  exact takeWords_long reading (name_given flag) rest

theorem takeWords_joined (reading : Reading) (flag : Flag) (octets : Text.Bytes)
    (rest : List Text.Bytes) :
    reading.takeWords ((Text.encode ("--" ++ flag.name ++ "=") ++ octets) :: rest) =
      reading.takeFlag flag (some octets) >>= fun reading => reading.takeWords rest := by
  have hword : Text.encode ("--" ++ flag.name ++ "=") ++ octets =
      dash :: dash :: (Text.encode flag.name ++ equals :: octets) := by
    have hdashes : Text.encode "--" = [dash, dash] := by decide
    have hequals : Text.encode "=" = [equals] := by decide
    simp only [Text.encode_append, hdashes, hequals, List.append_assoc, List.cons_append,
      List.nil_append]
  rw [hword, ← takeLong_joined]
  exact takeWords_long reading (by simp) rest

theorem takeWords_short (reading : Reading) (rest : List Text.Bytes) :
    reading.takeWords (Text.encode "-d" :: rest) =
      reading.takeFlag .debug none >>= fun reading => reading.takeWords rest := by
  have hword : Text.encode "-d" = [dash, 0x64] := by decide
  have hletters : Text.parts [0x64] = [some 'd'] := by decide
  have h : reading.takeWords ([dash, 0x64] :: rest) =
      reading.takeLetters (Text.parts [0x64]) >>= fun reading => reading.takeWords rest := rfl
  rw [hword, h, hletters]
  cases hflag : reading.takeFlag .debug none <;>
    simp only [takeLetters, Flag.ofLetter?, hflag, bind, Except.bind]

/-- A word that is not empty and starts with no dash is a value. -/
theorem takeWords_value (reading : Reading) (given : octets ≠ [])
    (plain : octets.head? ≠ some dash) (rest : List Text.Bytes) :
    reading.takeWords (octets :: rest) =
      reading.takeValue octets >>= fun reading => reading.takeWords rest := by
  cases octets with
  | nil => exact absurd rfl given
  | cons b more =>
    have hb : b ≠ 0x2D := fun heq => plain (congrArg some heq)
    rw [takeWords]
    -- The word matches no pattern that begins with a dash.
    all_goals
      intros
      simp_all

theorem takeFlag_of_value (reading : Reading) (h : setting.HasValue octets) :
    reading.takeFlag setting.flag (some octets) =
      reading.settleWaiting >>= fun done => done.add setting := by
  have takes : setting.flag.takesValue = true := by cases h <;> rfl
  simp only [takeFlag, takes, settle_of_value h]

theorem takeFlag_apart (reading : Reading) (h : setting.HasValue octets) :
    reading.takeFlag setting.flag none = reading.settleWaiting >>= fun done =>
      .ok { done with waiting := some (setting.flag, none) } := by
  have takes : setting.flag.takesValue = true := by cases h <;> rfl
  simp only [takeFlag, takes]
  rfl

-- ---------------------------------------------------------------------------
-- Lines
-- ---------------------------------------------------------------------------

/-- Nothing waits once what waits is settled. -/
def Idles (reading : Reading) : Prop :=
  ∀ done, reading.settleWaiting = .ok done → done.waiting = none

/-- Taking `words` settles what waits and adds `settings` in order. -/
def Adds (settings : List Setting) (words : List Text.Bytes) : Prop :=
  ∀ reading : Reading, reading.Idles → reading.takeWords words =
    reading.settleWaiting >>= fun done => settings.foldlM add done

theorem idles_of_idle (idle : reading.waiting = none) : reading.Idles := by
  intro done h
  rw [settleWaiting_of_idle idle] at h
  cases h
  exact idle

theorem adds_nil : Adds [] [] := by
  intro reading _
  cases h : reading.settleWaiting <;> simp only [takeWords, h] <;> rfl

/-- A setting that is settled at once. -/
theorem Adds.at_once {words others : List Text.Bytes}
    (taken : ∀ reading : Reading, reading.takeWords words =
      (reading.settleWaiting >>= fun done => done.add setting) >>= fun next =>
        next.takeWords others)
    (rest : Adds settings others) : Adds (setting :: settings) words := by
  intro reading idles
  rw [taken]
  cases hsettled : reading.settleWaiting with
  | error stop => rfl
  | ok done =>
    simp only [bind, Except.bind, List.foldlM_cons]
    cases hadd : done.add setting with
    | error stop => rfl
    | ok next =>
      have idle := waiting_of_add (idles done hsettled) hadd
      have hrest := rest next (idles_of_idle idle)
      rw [settleWaiting_of_idle idle] at hrest
      exact hrest

/-- A setting whose value waits until the next flag or the end. -/
theorem Adds.apart {others : List Text.Bytes} (value : setting.HasValue octets)
    (given : octets ≠ []) (plain : octets.head? ≠ some dash) (rest : Adds settings others) :
    Adds (setting :: settings) (Text.encode ("--" ++ setting.flag.name) :: octets :: others) := by
  intro reading idles
  rw [takeWords_name, takeFlag_apart reading value]
  cases hsettled : reading.settleWaiting with
  | error stop => rfl
  | ok done =>
    have idle := idles done hsettled
    have hwaits := settleWaiting_of_value idle value
    have hidles : Reading.Idles { done with waiting := some (setting.flag, some octets) } := by
      intro next h
      rw [hwaits] at h
      exact waiting_of_add idle h
    have hrest := rest _ hidles
    rw [hwaits] at hrest
    simp only [bind, Except.bind, List.foldlM_cons, takeWords_value _ given plain, takeValue]
    exact hrest

theorem Adds.cons {words others : List Text.Bytes} (first : setting.Written words)
    (rest : Adds settings others) : Adds (setting :: settings) (words ++ others) := by
  cases first with
  | short => exact .at_once (fun reading => takeWords_short reading others) rest
  | long => exact .at_once (fun reading => takeWords_name reading .debug others) rest
  | joined value =>
    refine .at_once (fun reading => ?_) rest
    rw [List.singleton_append, takeWords_joined, takeFlag_of_value reading value]
  | apart value given plain => exact .apart value given plain rest

theorem takeWords_line (line : Line settings words) : Adds settings words := by
  induction line with
  | nil => exact adds_nil
  | cons first _ ih => exact .cons first ih

end Reading

-- ---------------------------------------------------------------------------
-- Command lines
-- ---------------------------------------------------------------------------

theorem parse_of_line (program : Text.Bytes) (line : Line settings words) :
    parse (program :: words) = (settings.foldlM Reading.add {}).map Reading.flags := by
  have h := Reading.takeWords_line line {} (Reading.idles_of_idle rfl)
  rw [Reading.settleWaiting_of_idle rfl] at h
  exact congrArg (Except.map Reading.flags) h

theorem exists_written (sound : setting.Sound) : ∃ words, setting.Written words := by
  cases setting with
  | debug => exact ⟨_, .long⟩
  | config path => exact ⟨_, .joined (.config sound)⟩
  | host host => exact ⟨_, .joined (.host host)⟩
  | port port => exact ⟨_, .joined (.port (Numeral.signed_toString port.toNat))⟩
  | dir path => exact ⟨_, .joined (.dir sound)⟩

theorem exists_line (sound : ∀ setting ∈ settings, setting.Sound) :
    ∃ words, Line settings words := by
  induction settings with
  | nil => exact ⟨[], .nil⟩
  | cons setting settings ih =>
    obtain ⟨hfirst, hrest⟩ := List.forall_mem_cons.1 sound
    obtain ⟨words, first⟩ := exists_written hfirst
    obtain ⟨others, rest⟩ := ih hrest
    exact ⟨words ++ others, .cons first rest⟩

section
variable (debug : Bool) (config : Option Path) (host : Option String) (port : Option Port)
  (dir : Option Path)

theorem distinct_chosen : ((chosen debug config host port dir).map Setting.flag).Nodup := by
  cases debug <;> cases config <;> cases host <;> cases port <;> cases dir <;>
    simp [chosen, Setting.flag]

theorem flags_chosen : ((chosen debug config host port dir).foldl Reading.put {}).flags =
    { debug, config := config.getD (.ofString "config.toml"), host, port, dir } := by
  cases debug <;> cases config <;> cases host <;> cases port <;> cases dir <;> rfl

end

/-- What a command line that gives settings is read as. Settings whose paths are
not empty can be written, and in whatever order and way they are, they are what
is read; what is not given has its default. A setting of a flag that was given
before is refused, whatever stands behind it. -/
theorem parse_settings (program : Text.Bytes) :
    (∀ settings : List Setting, (∀ setting ∈ settings, setting.Sound) →
      ∃ words, Line settings words) ∧
    (∀ debug config host port dir order words, order.Perm (chosen debug config host port dir) →
      Line order words → parse (program :: words) =
        .ok { debug, config := config.getD (.ofString "config.toml"), host, port, dir }) ∧
    ∀ settings setting others words, Line (settings ++ setting :: others) words →
      (settings.map Setting.flag).Nodup → setting.flag ∈ settings.map Setting.flag →
      parse (program :: words) = .error (.repeated setting.flag) := by
  refine ⟨fun _ => exists_line, ?_, ?_⟩
  · intro debug config host port dir order words perm line
    have distinct := distinct_chosen debug config host port dir
    have horder : (order.map Setting.flag).Nodup := (perm.map Setting.flag).nodup_iff.2 distinct
    have hnew : ∀ setting ∈ order, ({} : Reading).has setting.flag = false :=
      fun setting _ => by cases setting <;> rfl
    rw [parse_of_line program line, Reading.foldlM_add_of_nodup horder hnew,
      Reading.foldl_put_perm perm horder]
    exact congrArg Except.ok (flags_chosen debug config host port dir)
  · intro settings setting others words line distinct again
    rw [parse_of_line program line, Reading.foldlM_add_of_repeated distinct again]
    rfl

/-- A value that looks like another flag is still a value, and a switch that is
given twice is refused. -/
theorem parse_settings_lookalike :
    let order : List Setting := [.port 80, .host "--port=1", .debug]
    let words := ["--port", "80", "--host=--port=1", "-d"].map Text.encode
    order.Perm (chosen true none (some "--port=1") (some 80) none) ∧ Line order words ∧
    parse (Text.encode "hook" :: words) =
      .ok { debug := true, host := some "--port=1", port := some 80 } ∧
    parse (Text.encode "hook" :: (words ++ [Text.encode "--debug"])) =
      .error (.repeated .debug) := by
  intro order words
  have perm : order.Perm (chosen true none (some "--port=1") (some 80) none) :=
    List.reverse_perm (chosen true none (some "--port=1") (some 80) none)
  have eighty : Setting.HasValue (.port 80) (Text.encode "80") := .port (Numeral.signed_toString 80)
  have first : Setting.Written (.port 80) (["--port", "80"].map Text.encode) :=
    .apart eighty (by decide) (by decide)
  have second : Setting.Written (.host "--port=1") (["--host=--port=1"].map Text.encode) := by
    have hword : Text.encode "--host=--port=1" =
        Text.encode ("--" ++ Flag.host.name ++ "=") ++ Text.encode "--port=1" := by decide
    rw [List.map_singleton, hword]
    exact .joined (.host "--port=1")
  have line {others : List Setting} {rest : List Text.Bytes} (behind : Line others rest) :
      Line (order ++ others) (words ++ rest) :=
    (Line.cons first (.cons second (.cons .short behind)) :)
  have hline : Line order words := line .nil
  obtain ⟨-, reads, repeats⟩ := parse_settings (Text.encode "hook")
  refine ⟨perm, hline, reads true none (some "--port=1") (some 80) none order words perm hline, ?_⟩
  exact repeats order .debug [] _ (line (.cons .long .nil)) (by decide) (by decide)

end Rollout.Flags
