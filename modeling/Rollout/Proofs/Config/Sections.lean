import Rollout.Config.Decode

/-!
# What a document gives its settings

A section gives a setting a value by name if it reads as a table, and by place
if it is a list. `Config.ofEntries?_eq_some_iff` says which settings a document
of such sections is read as: each one is read from the value it is given, or
has its default where it is given none. One value of the wrong kind, and no
settings are read at all.
-/

namespace Rollout

namespace Decode

/-- What `setting` is if the value `given` is read, or nothing is given. -/
def Gives {α : Type} (read : Value → Option α) (fallback : α) (given : Option Value)
    (setting : α) : Prop :=
  match given with
  | some value => read value = some setting
  | none => setting = fallback

theorem named_eq_some_iff {α : Type} {read : Value → Option α} {name : String} {fallback : α}
    {entries : List (String × Value)} {setting : α} :
    named read name fallback entries = some setting ↔
      Gives read fallback (entries.lookup name) setting := by
  unfold named Gives
  cases entries.lookup name with
  | some value => rfl
  | none => simp [eq_comm]

theorem named_replace {α : Type} {read : Value → Option α} {name key : String} {fallback : α}
    {value other : Value} (front back : List (String × Value))
    (h : name = key → read other = read value) :
    named read name fallback (front ++ (key, other) :: back) =
      named read name fallback (front ++ (key, value) :: back) := by
  unfold named
  rw [List.lookup_append, List.lookup_append, List.lookup_cons, List.lookup_cons]
  cases front.lookup name with
  | some found => rfl
  | none =>
    cases hkey : name == key with
    | false => rfl
    | true => exact h (beq_iff_eq.1 hkey)

/-- A directory is what its octets are. -/
theorem gives_path_iff {text : String} {given : Option Value} {dir : Path} :
    Gives path (.ofString text) given dir ↔
      Gives (fun value => value.text?.map Text.encode) (Text.encode text) given dir.octets := by
  cases given with
  | none => exact Path.eq_ofString_iff
  | some value =>
    simp only [Gives, path, Option.map_eq_some_iff]
    exact exists_congr fun _ => and_congr_right fun _ => by
      rw [eq_comm, Path.eq_ofString_iff, eq_comm]

@[simp] theorem atEnd_ignored (rest : List Value) : atEnd .ignored rest = true := by
  simp [atEnd]

theorem atEnd_refused (rest : List Value) : atEnd .refused rest = rest.isEmpty := Bool.or_false _

theorem next_eq_some_iff {α : Type} {read : Value → Option α} {fallback : α}
    {items : List Value} {result : α × List Value} :
    next read fallback items = some result ↔
      Gives read fallback items[0]? result.1 ∧ result.2 = items.drop 1 := by
  obtain ⟨setting, rest⟩ := result
  cases items with
  | nil => simp [next, Gives, eq_comm]
  | cons value others =>
    cases hread : read value <;> simp [next, Gives, hread, eq_comm]

end Decode

open Decode (Gives gives_path_iff named_eq_some_iff next_eq_some_iff)

-- ---------------------------------------------------------------------------
-- Sections
-- ---------------------------------------------------------------------------

/-- What a section gives a setting that goes by this name and this place. -/
def Value.setting? (value : Value) (name : String) (place : Nat) : Option Value :=
  match value.items? with
  | some items => items[place]?
  | none => value.entries? >>= (·.lookup name)

theorem Value.setting?_of_items {value : Value} {items : List Value}
    (h : value.items? = some items) : value.setting? = fun _ place => items[place]? := by
  funext name place
  simp [setting?, h]

theorem Value.setting?_of_entries {value : Value} {entries : List (String × Value)}
    (hitems : value.items? = none) (h : value.entries? = some entries) :
    value.setting? = fun name _ => entries.lookup name := by
  funext name place
  simp [setting?, hitems, h]

/-- A section is a list or reads as a table. -/
def Value.IsSection (value : Value) : Prop :=
  value.items? ≠ none ∨ value.entries? ≠ none

/-- Every setting is what it is given, or its default. -/
structure ServerConfig.Holds (given : String → Nat → Option Value) (config : ServerConfig) :
    Prop where
  host : Gives Value.text? "0.0.0.0" (given "host" 0) config.host
  port : Gives Decode.port 4747 (given "port" 1) config.port

/-- Every setting is what it is given, or its default. -/
structure DeployConfig.Holds (given : String → Nat → Option Value) (config : DeployConfig) :
    Prop where
  dir : Gives (fun value => value.text?.map Text.encode) (Text.encode "/home/dmp/dmp-graph")
    (given "workdir" 0) config.dir.octets
  git : Gives Value.text? "git" (given "git" 1) config.git
  remote : Gives Value.text? "origin" (given "remote" 2) config.remote
  script : Gives Decode.words ["bash", "deploy/deploy.bash"] (given "script" 3) config.script
  restart : Gives Decode.words ["service", "neo4j", "restart"] (given "restart" 4) config.restart
  env : Gives Decode.vars .empty (given "env" 5) config.env

namespace ServerConfig

variable {config : ServerConfig}

theorem ofEntries?_eq_some_iff {entries : List (String × Value)} :
    ofEntries? entries = some config ↔ config.Holds fun name _ => entries.lookup name := by
  simp only [ofEntries?, Option.bind_eq_bind, Option.bind_eq_some_iff, named_eq_some_iff,
    Option.pure_def, Option.some.injEq]
  constructor
  · rintro ⟨host, hhost, port, hport, rfl⟩
    exact ⟨hhost, hport⟩
  · rintro ⟨hhost, hport⟩
    exact ⟨_, hhost, _, hport, rfl⟩

theorem ofItems?_eq_some_iff {surplus : Surplus} {items : List Value} :
    ofItems? surplus items = some config ↔
      Decode.atEnd surplus (items.drop 2) = true ∧ config.Holds fun _ place => items[place]? := by
  simp only [ofItems?, Option.bind_eq_bind, Option.bind_eq_some_iff, next_eq_some_iff,
    Option.ite_none_right_eq_some, Option.some.injEq]
  constructor
  · rintro ⟨⟨host, rest⟩, ⟨hhost, rfl⟩, ⟨port, rest⟩, ⟨hport, rfl⟩, hend, rfl⟩
    simp only [List.drop_drop, List.getElem?_drop, Nat.reduceAdd] at *
    exact ⟨hend, hhost, hport⟩
  · rintro ⟨hend, hhost, hport⟩
    refine ⟨(_, _), ⟨hhost, rfl⟩, (_, _), ⟨?_, rfl⟩, ?_, rfl⟩
    all_goals simpa only [List.drop_drop, List.getElem?_drop, Nat.reduceAdd]

theorem ofValue?_eq_some_iff {value : Value} :
    ofValue? .ignored value = some config ↔ value.IsSection ∧ config.Holds value.setting? := by
  cases hitems : value.items? with
  | some items =>
    rw [Value.setting?_of_items hitems]
    simp [ofValue?, Value.IsSection, hitems, ofItems?_eq_some_iff]
  | none =>
    cases hentries : value.entries? with
    | some entries =>
      rw [Value.setting?_of_entries hitems hentries]
      simp [ofValue?, Value.IsSection, hitems, hentries, ofEntries?_eq_some_iff]
    | none => simp [ofValue?, Value.IsSection, hitems, hentries]

end ServerConfig

namespace DeployConfig

variable {config : DeployConfig}

theorem ofEntries?_eq_some_iff {entries : List (String × Value)} :
    ofEntries? entries = some config ↔ config.Holds fun name _ => entries.lookup name := by
  simp only [ofEntries?, Option.bind_eq_bind, Option.bind_eq_some_iff, named_eq_some_iff,
    Option.pure_def, Option.some.injEq]
  constructor
  · rintro ⟨dir, hdir, git, hgit, remote, hremote, script, hscript, restart, hrestart, env, henv,
      rfl⟩
    exact ⟨gives_path_iff.1 hdir, hgit, hremote, hscript, hrestart, henv⟩
  · rintro ⟨hdir, hgit, hremote, hscript, hrestart, henv⟩
    exact ⟨_, gives_path_iff.2 hdir, _, hgit, _, hremote, _, hscript, _, hrestart, _, henv, rfl⟩

theorem ofItems?_eq_some_iff {surplus : Surplus} {items : List Value} :
    ofItems? surplus items = some config ↔
      Decode.atEnd surplus (items.drop 6) = true ∧ config.Holds fun _ place => items[place]? := by
  simp only [ofItems?, Option.bind_eq_bind, Option.bind_eq_some_iff, next_eq_some_iff,
    Option.ite_none_right_eq_some, Option.some.injEq]
  constructor
  · rintro ⟨⟨dir, _⟩, ⟨hdir, rfl⟩, ⟨git, _⟩, ⟨hgit, rfl⟩, ⟨remote, _⟩, ⟨hremote, rfl⟩,
      ⟨script, _⟩, ⟨hscript, rfl⟩, ⟨restart, _⟩, ⟨hrestart, rfl⟩, ⟨env, _⟩, ⟨henv, rfl⟩, hend, rfl⟩
    simp only [List.drop_drop, List.getElem?_drop, Nat.reduceAdd] at *
    exact ⟨hend, gives_path_iff.1 hdir, hgit, hremote, hscript, hrestart, henv⟩
  · rintro ⟨hend, hdir, hgit, hremote, hscript, hrestart, henv⟩
    refine ⟨(_, _), ⟨gives_path_iff.2 hdir, rfl⟩, (_, _), ⟨?_, rfl⟩, (_, _), ⟨?_, rfl⟩, (_, _), ⟨?_, rfl⟩,
      (_, _), ⟨?_, rfl⟩, (_, _), ⟨?_, rfl⟩, ?_, rfl⟩
    all_goals simpa only [List.drop_drop, List.getElem?_drop, Nat.reduceAdd]

theorem ofValue?_eq_some_iff {value : Value} :
    ofValue? .ignored value = some config ↔ value.IsSection ∧ config.Holds value.setting? := by
  cases hitems : value.items? with
  | some items =>
    rw [Value.setting?_of_items hitems]
    simp [ofValue?, Value.IsSection, hitems, ofItems?_eq_some_iff]
  | none =>
    cases hentries : value.entries? with
    | some entries =>
      rw [Value.setting?_of_entries hitems hentries]
      simp [ofValue?, Value.IsSection, hitems, hentries, ofEntries?_eq_some_iff]
    | none => simp [ofValue?, Value.IsSection, hitems, hentries]

end DeployConfig

-- ---------------------------------------------------------------------------
-- Documents
-- ---------------------------------------------------------------------------

/-- What a document gives a setting of a section; a section that is not there
gives nothing. -/
def Config.given? (entries : List (String × Value)) (name setting : String) (place : Nat) :
    Option Value :=
  entries.lookup name >>= (·.setting? setting place)

/-- The settings that a document holds. -/
structure Config.Holds (entries : List (String × Value)) (config : Config) : Prop where
  server_section : ∀ value, entries.lookup "http_server" = some value → value.IsSection
  deploy_section : ∀ value, entries.lookup "deploy" = some value → value.IsSection
  server : config.server.Holds (given? entries "http_server")
  deploy : config.deploy.Holds (given? entries "deploy")

theorem ServerConfig.holds_nothing {config : ServerConfig} :
    config.Holds (fun _ _ => none) ↔ config = {} := by
  constructor
  · rintro ⟨hhost, hport⟩
    cases config
    cases hhost
    cases hport
    rfl
  · rintro rfl
    exact ⟨rfl, rfl⟩

theorem DeployConfig.holds_nothing {config : DeployConfig} :
    config.Holds (fun _ _ => none) ↔ config = {} := by
  constructor
  · rintro ⟨hdir, hgit, hremote, hscript, hrestart, henv⟩
    cases config
    cases Path.eq_ofString_iff.2 hdir
    cases hgit
    cases hremote
    cases hscript
    cases hrestart
    cases henv
    rfl
  · rintro rfl
    exact ⟨rfl, rfl, rfl, rfl, rfl, rfl⟩

namespace Config

variable {entries : List (String × Value)} {config : Config}

theorem gives_server_iff {server : ServerConfig} :
    Gives (ServerConfig.ofValue? .ignored) {} (entries.lookup "http_server") server ↔
      (∀ value, entries.lookup "http_server" = some value → value.IsSection) ∧
        server.Holds (given? entries "http_server") := by
  unfold given?
  cases entries.lookup "http_server" with
  | none => simp [Gives, ServerConfig.holds_nothing]
  | some value => simp [Gives, ServerConfig.ofValue?_eq_some_iff]

theorem gives_deploy_iff {deploy : DeployConfig} :
    Gives (DeployConfig.ofValue? .ignored) {} (entries.lookup "deploy") deploy ↔
      (∀ value, entries.lookup "deploy" = some value → value.IsSection) ∧
        deploy.Holds (given? entries "deploy") := by
  unfold given?
  cases entries.lookup "deploy" with
  | none => simp [Gives, DeployConfig.holds_nothing]
  | some value => simp [Gives, DeployConfig.ofValue?_eq_some_iff]

theorem ofEntries?_eq_some_iff :
    ofEntries? .ignored entries = some config ↔ config.Holds entries := by
  simp only [ofEntries?, Option.bind_eq_bind, Option.bind_eq_some_iff, named_eq_some_iff,
    Option.pure_def, Option.some.injEq, gives_server_iff, gives_deploy_iff]
  constructor
  · rintro ⟨server, ⟨hserver, hs⟩, deploy, ⟨hdeploy, hd⟩, rfl⟩
    exact ⟨hserver, hdeploy, hs, hd⟩
  · rintro ⟨hserver, hdeploy, hs, hd⟩
    exact ⟨_, ⟨hserver, hs⟩, _, ⟨hdeploy, hd⟩, rfl⟩

/-- A document without entries holds the defaults. -/
theorem holds_nil : config.Holds [] ↔ config = {} := by
  rw [← ofEntries?_eq_some_iff]
  simp [ofEntries?, Decode.named, eq_comm]

end Config

end Rollout
