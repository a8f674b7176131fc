import Mathlib.Logic.Relation
import Rollout.Config.Encode
import Rollout.Proofs.Config.Kinds
import Rollout.Proofs.Text.Lossy

/-!
# Settings as objects

A setting that an object names has the value that stands there, and one that it
does not name has its default. `Config.reads_objects` says so of the two
sections and of a document of them. The names that are no setting and the order
of the names are nothing to it, one value of the wrong shape and nothing is
read, and what settings are written as is read as the settings.
-/

namespace Rollout

open Relation (ReflTransGen)
open Value (Plain Swapped)

variable {α : Type} {entries others : List (String × Value)} {name : String} {value other : Value}

-- ---------------------------------------------------------------------------
-- One setting of an object
-- ---------------------------------------------------------------------------

/-- What a setting of an object is: what its value means, or its default. -/
inductive Kind.Stands (kind : Kind α) (entries : List (String × Value)) (name : String)
    (fallback : α) : α → Prop where
  | given {value : Value} {setting : α} (found : (name, value) ∈ entries)
      (meant : kind.means value setting) : Stands kind entries name fallback setting
  | absent (missing : ∀ value, (name, value) ∉ entries) :
      Stands kind entries name fallback fallback

namespace Kind.ReadBy

variable {kind : Kind α} {read : Value → Option α} {domain : Value → Prop} {fallback setting : α}

theorem gives_iff (reads : kind.ReadBy read domain) (plain : (Value.table entries).Plain)
    (within : ∀ value, (name, value) ∈ entries → domain value) :
    Decode.Gives read fallback (entries.lookup name) setting ↔
      kind.Stands entries name fallback setting := by
  cases hlookup : entries.lookup name with
  | none =>
    have missing (value : Value) : (name, value) ∉ entries := by
      simp [← plain.lookup_eq_some_iff, hlookup]
    constructor
    · rintro rfl
      exact .absent missing
    · intro stands
      cases stands with
      | given found => exact absurd found (missing _)
      | absent => rfl
  | some value =>
    have found := plain.lookup_eq_some_iff.1 hlookup
    constructor
    · intro hread
      exact .given found ((reads.some_iff (within value found)).1 hread)
    · intro stands
      cases stands with
      | absent missing => exact absurd found (missing value)
      | given again meant =>
        cases plain.unique found again
        exact (reads.some_iff (within value found)).2 meant

theorem exists_stands_iff (reads : kind.ReadBy read domain) (plain : (Value.table entries).Plain)
    (within : ∀ value, (name, value) ∈ entries → domain value) :
    (∃ setting, kind.Stands entries name fallback setting) ↔
      ∀ value, (name, value) ∈ entries → kind.shape value := by
  constructor
  · rintro ⟨setting, stands⟩ value found
    cases stands with
    | absent missing => exact absurd found (missing value)
    | given again meant =>
      cases plain.unique found again
      exact (reads.exists_iff (within value found)).1 ⟨setting, meant⟩
  · intro each
    by_cases h : ∃ value, (name, value) ∈ entries
    · obtain ⟨value, found⟩ := h
      obtain ⟨setting, meant⟩ := (reads.exists_iff (within value found)).2 (each value found)
      exact ⟨setting, .given found meant⟩
    · exact ⟨fallback, .absent fun value found => h ⟨value, found⟩⟩

theorem named_swapped (reads : kind.ReadBy read domain) (plain : (Value.table entries).Plain)
    (within : ∀ value, (name, value) ∈ entries → domain value)
    (swapped : Swapped (.table entries) (.table others)) :
    Decode.named read name fallback others = Decode.named read name fallback entries := by
  cases swapped with
  | here perm =>
    unfold Decode.named
    rw [Vars.lookup_perm perm.symm (Value.plain_table_iff.1 plain).1]
  | entry front back key swapped =>
    refine Decode.named_replace front back ?_
    rintro rfl
    exact reads.swapped (within _ (by simp)) swapped

end Kind.ReadBy

theorem lookup_filter {names : List String} (h : name ∈ names) :
    (entries.filter fun entry => entry.1 ∈ names).lookup name = entries.lookup name := by
  induction entries with
  | nil => rfl
  | cons entry rest ih =>
    obtain ⟨key, value⟩ := entry
    cases hkey : name == key with
    | true =>
      obtain rfl := beq_iff_eq.1 hkey
      simp [h]
    | false => by_cases hmem : key ∈ names <;> simp [hmem, hkey, List.lookup_cons, ih]

theorem Decode.named_filter {read : Value → Option α} {fallback : α} {names : List String}
    (h : name ∈ names) : named read name fallback (entries.filter fun entry => entry.1 ∈ names) =
      named read name fallback entries := by
  unfold named
  rw [lookup_filter h]

-- ---------------------------------------------------------------------------
-- All settings of an object
-- ---------------------------------------------------------------------------

/-- The values that an object gives for these fields have their shapes. -/
def Fits (fields : List (String × (Value → Prop))) (entries : List (String × Value)) : Prop :=
  ∀ field ∈ fields, ∀ value, (field.1, value) ∈ entries → field.2 value

@[simp] theorem fits_nil : Fits [] entries := List.forall_mem_nil _

@[simp] theorem fits_cons_iff {field : String × (Value → Prop)}
    {fields : List (String × (Value → Prop))} : Fits (field :: fields) entries ↔
      (∀ value, (field.1, value) ∈ entries → field.2 value) ∧ Fits fields entries :=
  List.forall_mem_cons

/-- The law of reading an object with these fields. -/
structure ReadsObjects (read : List (String × Value) → Option α)
    (domain : List (String × Value) → Prop) (fields : List (String × (Value → Prop)))
    (means : List (String × Value) → α → Prop) (fallback : α) : Prop where
  some_iff : ∀ {entries settings}, domain entries →
    (read entries = some settings ↔ means entries settings)
  exists_iff : ∀ {entries}, domain entries →
    ((∃ settings, read entries = some settings) ↔ Fits fields entries)
  /-- One value of the wrong shape is enough. -/
  wrong : ∀ {entries field value}, domain entries → field ∈ fields →
    (field.1, value) ∈ entries → ¬ field.2 value → read entries = none
  null : ∀ field ∈ fields, ¬ field.2 .null
  /-- Names of no field do not count. -/
  known : ∀ {entries}, read (entries.filter fun entry => entry.1 ∈ fields.map Prod.fst) =
    read entries
  reordered : ∀ {entries others}, domain entries →
    ReflTransGen Swapped (.table entries) (.table others) → read others = read entries
  empty : read [] = some fallback

section
variable {read : List (String × Value) → Option α} {domain : List (String × Value) → Prop}
  {fields : List (String × (Value → Prop))}

theorem eq_none_of_wrong
    (exists_iff : (∃ settings, read entries = some settings) ↔ Fits fields entries)
    {field : String × (Value → Prop)} (known : field ∈ fields) (found : (field.1, value) ∈ entries)
    (bad : ¬ field.2 value) : read entries = none := by
  refine Option.eq_none_iff_forall_ne_some.2 fun settings hread => ?_
  exact bad (exists_iff.1 ⟨settings, hread⟩ field known value found)

/-- What one change of order leaves as it is, any number of them do. -/
theorem read_reordered
    (step : ∀ {entries others}, domain entries → Swapped (.table entries) (.table others) →
      domain others ∧ read others = read entries)
    (within : domain entries) (reordered : ReflTransGen Swapped (.table entries) (.table others)) :
    read others = read entries := by
  have each {value : Value} (reordered : ReflTransGen Swapped (.table entries) value) :
      ∃ others, value = .table others ∧ domain others ∧ read others = read entries := by
    induction reordered with
    | refl => exact ⟨entries, rfl, within, rfl⟩
    | tail _ last ih =>
      obtain ⟨middle, rfl, hmiddle, hread⟩ := ih
      obtain ⟨others, rfl⟩ := last.of_table
      obtain ⟨hothers, heq⟩ := step hmiddle last
      exact ⟨others, rfl, hothers, heq.trans hread⟩
  obtain ⟨_, ⟨⟩, -, hread⟩ := each reordered
  exact hread

end

/-- A plain value that is an object. -/
def Value.PlainTable (value : Value) : Prop :=
  value.Plain ∧ ∃ entries, value = .table entries

/-- Objects with these fields, as the value of a setting. -/
def Kind.object (fields : List (String × (Value → Prop)))
    (means : List (String × Value) → α → Prop) : Kind α where
  shape value := ∃ entries, value = .table entries ∧ Fits fields entries
  means value settings := ∃ entries, value = .table entries ∧ means entries settings

theorem Kind.readBy_object {ofValue? : Value → Option α}
    {fields : List (String × (Value → Prop))} {means : List (String × Value) → α → Prop}
    {fallback : α}
    (reads : ReadsObjects (fun entries => ofValue? (.table entries))
      (fun entries => (Value.table entries).Plain) fields means fallback) :
    (object fields means).ReadBy ofValue? Value.PlainTable where
  some_iff := by
    rintro _ settings ⟨plain, entries, rfl⟩
    rw [reads.some_iff plain]
    constructor
    · intro h
      exact ⟨entries, rfl, h⟩
    · rintro ⟨_, ⟨⟩, h⟩
      exact h
  exists_iff := by
    rintro _ ⟨plain, entries, rfl⟩
    constructor
    · rintro ⟨settings, _, ⟨⟩, h⟩
      exact ⟨entries, rfl, (reads.exists_iff plain).1 ⟨settings, (reads.some_iff plain).2 h⟩⟩
    · rintro ⟨_, ⟨⟩, fits⟩
      obtain ⟨settings, h⟩ := (reads.exists_iff plain).2 fits
      exact ⟨settings, entries, rfl, (reads.some_iff plain).1 h⟩
  swapped := by
    rintro _ other ⟨plain, entries, rfl⟩ swapped
    obtain ⟨others, rfl⟩ := swapped.of_table
    exact reads.reordered plain (.single swapped)

-- ---------------------------------------------------------------------------
-- Sections
-- ---------------------------------------------------------------------------

open Kind (readBy_text readBy_path readBy_port readBy_words readBy_vars)

namespace ServerConfig

variable {config : ServerConfig}

def fields : List (String × (Value → Prop)) :=
  [("host", Kind.text.shape), ("port", Kind.port.shape)]

/-- Every setting is what the object gives it, or its default. -/
structure Matches (entries : List (String × Value)) (config : ServerConfig) : Prop where
  host : Kind.text.Stands entries "host" ({} : ServerConfig).host config.host
  port : Kind.port.Stands entries "port" ({} : ServerConfig).port config.port

theorem ofEntries?_eq_some_iff_matches (plain : (Value.table entries).Plain) :
    ofEntries? entries = some config ↔ Matches entries config := by
  rw [ofEntries?_eq_some_iff]
  constructor
  · rintro ⟨host, port⟩
    exact {
      host := (readBy_text.gives_iff plain plain.of_mem).1 host
      port := (readBy_port.gives_iff plain plain.of_mem).1 port }
  · rintro ⟨host, port⟩
    exact {
      host := (readBy_text.gives_iff plain plain.of_mem).2 host
      port := (readBy_port.gives_iff plain plain.of_mem).2 port }

theorem exists_ofEntries?_iff (plain : (Value.table entries).Plain) :
    (∃ config, ofEntries? entries = some config) ↔ Fits fields entries := by
  simp only [ofEntries?_eq_some_iff_matches plain, fields, fits_cons_iff, fits_nil, and_true]
  -- Values of the right shape are settings that stand, whatever the defaults.
  rw [← readBy_text.exists_stands_iff plain plain.of_mem,
    ← readBy_port.exists_stands_iff plain plain.of_mem]
  constructor
  · rintro ⟨config, host, port⟩
    exact ⟨⟨_, host⟩, ⟨_, port⟩⟩
  · rintro ⟨⟨host, hhost⟩, ⟨port, hport⟩⟩
    exact ⟨{ host, port }, hhost, hport⟩

theorem ofEntries?_swapped (plain : (Value.table entries).Plain)
    (swapped : Swapped (.table entries) (.table others)) :
    ofEntries? others = ofEntries? entries := by
  simp only [ofEntries?, readBy_text.named_swapped plain plain.of_mem swapped,
    readBy_port.named_swapped plain plain.of_mem swapped]

theorem ofEntries?_filter :
    ofEntries? (entries.filter fun entry => entry.1 ∈ fields.map Prod.fst) =
      ofEntries? entries := by
  simp (disch := decide) only [ofEntries?, Decode.named_filter]

theorem reads_objects (surplus : Surplus) :
    ReadsObjects (fun entries => ofValue? surplus (.table entries))
      (fun entries => (Value.table entries).Plain) fields Matches {} where
  some_iff := ofEntries?_eq_some_iff_matches
  exists_iff := exists_ofEntries?_iff
  wrong plain := eq_none_of_wrong (exists_ofEntries?_iff plain)
  null := by simp [fields, Kind.text, Kind.port]
  known := ofEntries?_filter
  reordered plain := read_reordered
    (fun plain swapped => ⟨plain.swapped swapped, ofEntries?_swapped plain swapped⟩) plain
  empty := rfl

end ServerConfig

namespace DeployConfig

variable {config : DeployConfig}

def fields : List (String × (Value → Prop)) :=
  [("workdir", Kind.path.shape), ("git", Kind.text.shape), ("remote", Kind.text.shape),
    ("script", Kind.words.shape), ("restart", Kind.words.shape), ("env", Kind.vars.shape)]

/-- Every setting is what the object gives it, or its default. -/
structure Matches (entries : List (String × Value)) (config : DeployConfig) : Prop where
  dir : Kind.path.Stands entries "workdir" ({} : DeployConfig).dir config.dir
  git : Kind.text.Stands entries "git" ({} : DeployConfig).git config.git
  remote : Kind.text.Stands entries "remote" ({} : DeployConfig).remote config.remote
  script : Kind.words.Stands entries "script" ({} : DeployConfig).script config.script
  restart : Kind.words.Stands entries "restart" ({} : DeployConfig).restart config.restart
  env : Kind.vars.Stands entries "env" ({} : DeployConfig).env config.env

theorem ofEntries?_eq_some_iff_matches (plain : (Value.table entries).Plain) :
    ofEntries? entries = some config ↔ Matches entries config := by
  rw [ofEntries?_eq_some_iff]
  constructor
  · rintro ⟨dir, git, remote, script, restart, env⟩
    exact {
      dir := (readBy_path.gives_iff plain plain.of_mem).1 (Decode.gives_path_iff.2 dir)
      git := (readBy_text.gives_iff plain plain.of_mem).1 git
      remote := (readBy_text.gives_iff plain plain.of_mem).1 remote
      script := (readBy_words.gives_iff plain plain.of_mem).1 script
      restart := (readBy_words.gives_iff plain plain.of_mem).1 restart
      env := (readBy_vars.gives_iff plain plain.of_mem).1 env }
  · rintro ⟨dir, git, remote, script, restart, env⟩
    exact {
      dir := Decode.gives_path_iff.1 ((readBy_path.gives_iff plain plain.of_mem).2 dir)
      git := (readBy_text.gives_iff plain plain.of_mem).2 git
      remote := (readBy_text.gives_iff plain plain.of_mem).2 remote
      script := (readBy_words.gives_iff plain plain.of_mem).2 script
      restart := (readBy_words.gives_iff plain plain.of_mem).2 restart
      env := (readBy_vars.gives_iff plain plain.of_mem).2 env }

theorem exists_ofEntries?_iff (plain : (Value.table entries).Plain) :
    (∃ config, ofEntries? entries = some config) ↔ Fits fields entries := by
  simp only [ofEntries?_eq_some_iff_matches plain, fields, fits_cons_iff, fits_nil, and_true]
  rw [← readBy_path.exists_stands_iff plain plain.of_mem,
    ← readBy_text.exists_stands_iff plain plain.of_mem,
    ← readBy_text.exists_stands_iff plain plain.of_mem,
    ← readBy_words.exists_stands_iff plain plain.of_mem,
    ← readBy_words.exists_stands_iff plain plain.of_mem,
    ← readBy_vars.exists_stands_iff plain plain.of_mem]
  constructor
  · rintro ⟨config, dir, git, remote, script, restart, env⟩
    exact ⟨⟨_, dir⟩, ⟨_, git⟩, ⟨_, remote⟩, ⟨_, script⟩, ⟨_, restart⟩, ⟨_, env⟩⟩
  · rintro ⟨⟨dir, hdir⟩, ⟨git, hgit⟩, ⟨remote, hremote⟩, ⟨script, hscript⟩, ⟨restart, hrestart⟩,
      ⟨env, henv⟩⟩
    exact ⟨{ dir, git, remote, script, restart, env }, hdir, hgit, hremote, hscript, hrestart, henv⟩

theorem ofEntries?_swapped (plain : (Value.table entries).Plain)
    (swapped : Swapped (.table entries) (.table others)) :
    ofEntries? others = ofEntries? entries := by
  simp only [ofEntries?, readBy_path.named_swapped plain plain.of_mem swapped,
    readBy_text.named_swapped plain plain.of_mem swapped,
    readBy_words.named_swapped plain plain.of_mem swapped,
    readBy_vars.named_swapped plain plain.of_mem swapped]

theorem ofEntries?_filter :
    ofEntries? (entries.filter fun entry => entry.1 ∈ fields.map Prod.fst) =
      ofEntries? entries := by
  simp (disch := decide) only [ofEntries?, Decode.named_filter]

theorem reads_objects (surplus : Surplus) :
    ReadsObjects (fun entries => ofValue? surplus (.table entries))
      (fun entries => (Value.table entries).Plain) fields Matches {} where
  some_iff := ofEntries?_eq_some_iff_matches
  exists_iff := exists_ofEntries?_iff
  wrong plain := eq_none_of_wrong (exists_ofEntries?_iff plain)
  null := by simp [fields, Kind.text, Kind.path, Kind.words, Kind.vars]
  known := ofEntries?_filter
  reordered plain := read_reordered
    (fun plain swapped => ⟨plain.swapped swapped, ofEntries?_swapped plain swapped⟩) plain
  empty := rfl

end DeployConfig

-- ---------------------------------------------------------------------------
-- Documents
-- ---------------------------------------------------------------------------

def Kind.server : Kind ServerConfig := .object ServerConfig.fields ServerConfig.Matches

def Kind.deploy : Kind DeployConfig := .object DeployConfig.fields DeployConfig.Matches

theorem Kind.readBy_server (surplus : Surplus) :
    server.ReadBy (ServerConfig.ofValue? surplus) Value.PlainTable :=
  readBy_object (ServerConfig.reads_objects surplus)

theorem Kind.readBy_deploy (surplus : Surplus) :
    deploy.ReadBy (DeployConfig.ofValue? surplus) Value.PlainTable :=
  readBy_object (DeployConfig.reads_objects surplus)

open Kind (readBy_server readBy_deploy)

namespace Config

variable {config : Config} {surplus : Surplus}

def fields : List (String × (Value → Prop)) :=
  [("http_server", Kind.server.shape), ("deploy", Kind.deploy.shape)]

/-- Each section is what the document gives it, or its default. -/
structure Matches (entries : List (String × Value)) (config : Config) : Prop where
  server : Kind.server.Stands entries "http_server" {} config.server
  deploy : Kind.deploy.Stands entries "deploy" {} config.deploy

/-- Sections, where they are given, are given as objects. -/
structure OfObjects (entries : List (String × Value)) : Prop where
  plain : (Value.table entries).Plain
  tables : ∀ name ∈ fields.map Prod.fst, ∀ value, (name, value) ∈ entries →
    ∃ inner, value = .table inner

theorem OfObjects.within (objects : OfObjects entries) (known : name ∈ fields.map Prod.fst)
    (value : Value) (found : (name, value) ∈ entries) : value.PlainTable :=
  ⟨objects.plain.of_mem value found, objects.tables name known value found⟩

theorem OfObjects.server (objects : OfObjects entries) :
    ∀ value, ("http_server", value) ∈ entries → value.PlainTable :=
  objects.within (.head _)

theorem OfObjects.deploy (objects : OfObjects entries) :
    ∀ value, ("deploy", value) ∈ entries → value.PlainTable :=
  objects.within (.tail _ (.head _))

theorem OfObjects.swapped (objects : OfObjects entries)
    (swapped : Swapped (.table entries) (.table others)) : OfObjects others where
  plain := objects.plain.swapped swapped
  tables := by
    intro name known other found
    rcases swapped.of_mem found with stayed | ⟨value, before, inner⟩
    · exact objects.tables name known other stayed
    · obtain ⟨entries, rfl⟩ := objects.tables name known value before
      exact inner.of_table

theorem ofEntries?_eq_some_iff_matches (objects : OfObjects entries) :
    ofEntries? surplus entries = some config ↔ Matches entries config := by
  simp only [ofEntries?, Option.bind_eq_bind, Option.bind_eq_some_iff,
    Decode.named_eq_some_iff, Option.pure_def, Option.some.injEq,
    (readBy_server surplus).gives_iff objects.plain objects.server,
    (readBy_deploy surplus).gives_iff objects.plain objects.deploy]
  constructor
  · rintro ⟨server, hserver, deploy, hdeploy, rfl⟩
    exact ⟨hserver, hdeploy⟩
  · rintro ⟨hserver, hdeploy⟩
    exact ⟨_, hserver, _, hdeploy, rfl⟩

theorem exists_ofEntries?_iff (objects : OfObjects entries) :
    (∃ config, ofEntries? surplus entries = some config) ↔ Fits fields entries := by
  simp only [ofEntries?_eq_some_iff_matches objects, fields, fits_cons_iff, fits_nil, and_true]
  rw [← (readBy_server surplus).exists_stands_iff objects.plain objects.server,
    ← (readBy_deploy surplus).exists_stands_iff objects.plain objects.deploy]
  constructor
  · rintro ⟨config, server, deploy⟩
    exact ⟨⟨_, server⟩, ⟨_, deploy⟩⟩
  · rintro ⟨⟨server, hserver⟩, ⟨deploy, hdeploy⟩⟩
    exact ⟨{ server, deploy }, hserver, hdeploy⟩

theorem ofEntries?_swapped (objects : OfObjects entries)
    (swapped : Swapped (.table entries) (.table others)) :
    ofEntries? surplus others = ofEntries? surplus entries := by
  simp only [ofEntries?,
    (readBy_server surplus).named_swapped objects.plain objects.server swapped,
    (readBy_deploy surplus).named_swapped objects.plain objects.deploy swapped]

theorem ofEntries?_filter :
    ofEntries? surplus (entries.filter fun entry => entry.1 ∈ fields.map Prod.fst) =
      ofEntries? surplus entries := by
  simp (disch := decide) only [ofEntries?, Decode.named_filter]

theorem reads_objects (surplus : Surplus) :
    ReadsObjects (ofEntries? surplus) OfObjects fields Matches {} where
  some_iff := ofEntries?_eq_some_iff_matches
  exists_iff := exists_ofEntries?_iff
  wrong objects := eq_none_of_wrong (exists_ofEntries?_iff objects)
  null := by simp [fields, Kind.server, Kind.deploy, Kind.object]
  known := ofEntries?_filter
  reordered := read_reordered
    fun objects swapped => ⟨objects.swapped swapped, ofEntries?_swapped objects swapped⟩
  empty := rfl

end Config

-- ---------------------------------------------------------------------------
-- What settings are written as
-- ---------------------------------------------------------------------------

theorem Value.plain_words (words : List String) : (list (words.map text)).Plain := by
  refine .list fun item hmem => ?_
  obtain ⟨word, -, rfl⟩ := List.mem_map.1 hmem
  exact .text word

theorem Value.plain_vars (vars : Vars) : (table (vars.toList.map Kind.textEntry)).Plain := by
  refine .table ?_ fun entry hmem => ?_
  · rw [Kind.map_fst_textEntry]
    exact vars.nodup_names
  · obtain ⟨pair, -, rfl⟩ := List.mem_map.1 hmem
    exact .text pair.2

theorem Kind.means_vars (vars : Vars) :
    Kind.vars.means (.table (vars.toList.map textEntry)) vars := by
  refine ⟨_, rfl, exists_eq_map_textEntry_iff.1 ⟨_, rfl⟩, fun name text => ?_⟩
  rw [mem_map_textEntry]
  exact Vars.lookup_eq_some_iff vars.nodup_names

/-- The text of a path shows as it is. -/
theorem Path.display_of_octets {path : Path} {text : String}
    (h : path.octets = Text.encode text) : path.display = text := by
  rw [display, h, Text.lossy_encode]

/-- An object that means these settings. -/
def Kind.Writes (kind : Kind α) (value : Value) (settings : α) : Prop :=
  value.PlainTable ∧ kind.means value settings

theorem ServerConfig.writes_toValue (config : ServerConfig) :
    Kind.server.Writes config.toValue config := by
  refine ⟨⟨.table (by simp) ?_, _, rfl⟩, _, rfl, ?_⟩
  · simp only [List.forall_mem_cons]
    exact ⟨.text _, .integer _, List.forall_mem_nil _⟩
  · exact {
      host := .given (by simp) rfl
      port := .given (by simp) rfl }

theorem DeployConfig.toValue_eq (config : DeployConfig) : config.toValue = .table [
    ("workdir", .text config.dir.display), ("git", .text config.git),
    ("remote", .text config.remote), ("script", .list (config.script.map .text)),
    ("restart", .list (config.restart.map .text)),
    ("env", .table (config.env.toList.map Kind.textEntry))] := rfl

theorem DeployConfig.writes_toValue (config : DeployConfig)
    (valid : ∃ text, Text.decode? config.dir.octets = some text) :
    Kind.deploy.Writes config.toValue config := by
  obtain ⟨text, htext⟩ := valid
  have hoctets := Text.decode?_eq_some_iff.1 htext
  have hdir : Kind.path.means (.text config.dir.display) config.dir :=
    ⟨text, by rw [Path.display_of_octets hoctets], hoctets⟩
  have henv := Kind.means_vars config.env
  rw [toValue_eq]
  refine ⟨⟨.table (by simp) ?_, _, rfl⟩, _, rfl, ?_⟩
  · simp only [List.forall_mem_cons]
    exact ⟨.text _, .text _, .text _, Value.plain_words _, Value.plain_words _,
      Value.plain_vars config.env, List.forall_mem_nil _⟩
  · exact {
      dir := .given (by simp) hdir
      git := .given (by simp) rfl
      remote := .given (by simp) rfl
      script := .given (by simp) rfl
      restart := .given (by simp) rfl
      env := .given (by simp) henv }

theorem Config.matches_toValue (config : Config)
    (valid : ∃ text, Text.decode? config.deploy.dir.octets = some text) :
    ∃ entries, config.toValue = .table entries ∧ OfObjects entries ∧ Matches entries config := by
  obtain ⟨server, hserver⟩ := config.server.writes_toValue
  obtain ⟨deploy, hdeploy⟩ := config.deploy.writes_toValue valid
  refine ⟨_, rfl, ⟨.table (by simp) ?_, ?_⟩, .given (by simp) hserver, .given (by simp) hdeploy⟩
  · simp only [List.forall_mem_cons]
    exact ⟨server.1, deploy.1, List.forall_mem_nil _⟩
  · intro name _ value found
    simp only [List.mem_cons, List.not_mem_nil, or_false, Prod.mk.injEq] at found
    rcases found with ⟨rfl, rfl⟩ | ⟨rfl, rfl⟩
    · exact server.2
    · exact deploy.2

/-- What an object is read as. The settings it names have the values that stand
there and the others their defaults, if every value has the shape it should, and
else nothing is read; other names and the order of names, here or further in, do
not count. So it is for the two sections and, if its sections are objects, for
a document of them. What settings are written as is read as the settings. -/
theorem Config.decodes_objects (surplus : Surplus) :
    (∀ config : DeployConfig, (∃ text, Text.decode? config.dir.octets = some text) →
      DeployConfig.ofValue? surplus config.toValue = some config) ∧
    ReadsObjects (fun entries => DeployConfig.ofValue? surplus (.table entries))
      (fun entries => (Value.table entries).Plain) DeployConfig.fields DeployConfig.Matches {} ∧
    (∀ config : ServerConfig, ServerConfig.ofValue? surplus config.toValue = some config) ∧
    ReadsObjects (fun entries => ServerConfig.ofValue? surplus (.table entries))
      (fun entries => (Value.table entries).Plain) ServerConfig.fields ServerConfig.Matches {} ∧
    (∀ config : Config, (∃ text, Text.decode? config.deploy.dir.octets = some text) →
      ∃ entries, config.toValue = .table entries ∧ ofEntries? surplus entries = some config) ∧
    ReadsObjects (ofEntries? surplus) OfObjects fields Matches {} := by
  refine ⟨fun config valid => ?_, DeployConfig.reads_objects surplus, fun config => ?_,
    ServerConfig.reads_objects surplus, fun config valid => ?_, reads_objects surplus⟩
  · obtain ⟨within, means⟩ := config.writes_toValue valid
    exact ((Kind.readBy_deploy surplus).some_iff within).2 means
  · obtain ⟨within, means⟩ := config.writes_toValue
    exact ((Kind.readBy_server surplus).some_iff within).2 means
  · obtain ⟨entries, hvalue, objects, hmatches⟩ := config.matches_toValue valid
    exact ⟨entries, hvalue, (ofEntries?_eq_some_iff_matches objects).2 hmatches⟩

theorem Config.decodes_objects_partial :
    DeployConfig.ofValue? .refused (.table [("depth", .null), ("remote", .text "upstream")]) =
      some { remote := "upstream" } := by
  have plain : (Value.table [("depth", .null), ("remote", .text "upstream")]).Plain := by
    refine .table (by decide) ?_
    simp only [List.forall_mem_cons]
    exact ⟨.null, .text _, List.forall_mem_nil _⟩
  exact ((decodes_objects .refused).2.1.some_iff plain).2 {
    dir := .absent (by simp)
    git := .absent (by simp)
    remote := .given (by simp) rfl
    script := .absent (by simp)
    restart := .absent (by simp)
    env := .absent (by simp) }

end Rollout
