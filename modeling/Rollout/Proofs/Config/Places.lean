import Rollout.Proofs.Config.Precedence

/-!
# Settings by place

A section that is written as a list is read as the table that has its items
under the names of the settings, in their order. `ReadsPlaces` is this law, with
what becomes of the settings that a list does not reach and of the items that
reach no setting; it holds of both sections, and a document or a file may spell
each of them either way.
-/

namespace Rollout

variable {α : Type}

-- ---------------------------------------------------------------------------
-- Names in order
-- ---------------------------------------------------------------------------

theorem lookup_zip {names : List String} {name : String} {place : Nat} (nodup : names.Nodup)
    (items : List α) (h : names[place]? = some name) :
    (names.zip items).lookup name = items[place]? := by
  induction names generalizing items place with
  | nil => simp at h
  | cons first rest ih =>
    obtain ⟨hnew, hrest⟩ := List.nodup_cons.1 nodup
    cases items with
    | nil => rfl
    | cons item items =>
      rw [List.zip_cons_cons, List.lookup_cons]
      cases place with
      | zero =>
        obtain rfl : first = name := by simpa using h
        simp
      | succ place =>
        rw [List.getElem?_cons_succ] at h
        have hne : (name == first) = false := by
          refine beq_eq_false_iff_ne.2 ?_
          rintro rfl
          exact hnew (List.mem_of_getElem? h)
        simpa [hne] using ih hrest items h

/-- A list gives a setting that it does not reach its default. -/
theorem Decode.Gives.of_length_le {read : Value → Option α} {fallback setting : α}
    {items : List Value} {place : Nat}
    (gives : Gives read fallback items[place]? setting) (h : items.length ≤ place) :
    setting = fallback := by
  rwa [List.getElem?_eq_none h] at gives

-- ---------------------------------------------------------------------------
-- The law of both spellings
-- ---------------------------------------------------------------------------

/-- The law of reading a section with these settings, in this order. `Default n`
says of settings that those from place `n` on are the defaults. -/
structure ReadsPlaces (ofValue? : Surplus → Value → Option α) (names : List String)
    (Default : Nat → α → Prop) : Prop where
  by_name : ∀ {surplus items}, items.length ≤ names.length →
    ofValue? surplus (.list items) = ofValue? surplus (.table (names.zip items))
  default : ∀ {surplus items settings}, ofValue? surplus (.list items) = some settings →
    Default items.length settings
  ignored : ∀ {items others}, items.length = names.length →
    ofValue? .ignored (.list (items ++ others)) = ofValue? .ignored (.list items)
  refused : ∀ {items}, names.length < items.length → ofValue? .refused (.list items) = none

section
variable {ofValue? : Surplus → Value → Option α} {names : List String}
  {Default : Nat → α → Prop}

/-- It is enough that settings are told by what they are given, and each by its
own name and place. -/
theorem readsPlaces_of_holds (Holds : (String → Nat → Option Value) → α → Prop) (nodup : names.Nodup)
    (list_iff : ∀ {surplus items settings}, ofValue? surplus (.list items) = some settings ↔
      Decode.atEnd surplus (items.drop names.length) = true ∧
        Holds (fun _ place => items[place]?) settings)
    (table_iff : ∀ {surplus entries settings}, ofValue? surplus (.table entries) = some settings ↔
      Holds (fun name _ => entries.lookup name) settings)
    (own : ∀ {given other settings}, (∀ name place, names[place]? = some name →
      given name place = other name place) → Holds given settings → Holds other settings)
    (default : ∀ {items : List Value} {settings}, Holds (fun _ place => items[place]?) settings →
      Default items.length settings) :
    ReadsPlaces ofValue? names Default where
  by_name := by
    intro surplus items short
    have hend : Decode.atEnd surplus (items.drop names.length) = true := by
      simp [Decode.atEnd, List.drop_eq_nil_iff.2 short]
    refine Option.ext fun settings => ?_
    rw [list_iff, table_iff]
    constructor
    · rintro ⟨-, holds⟩
      exact own (fun name place h => (lookup_zip nodup items h).symm) holds
    · intro holds
      exact ⟨hend, own (fun name place h => lookup_zip nodup items h) holds⟩
  default h := default (list_iff.1 h).2
  ignored := by
    intro items others full
    have same (name : String) (place : Nat) (h : names[place]? = some name) :
        (items ++ others)[place]? = items[place]? := by
      obtain ⟨hlt, -⟩ := List.getElem?_eq_some_iff.1 h
      exact List.getElem?_append_left (full ▸ hlt)
    refine Option.ext fun settings => ?_
    rw [list_iff, list_iff, Decode.atEnd_ignored, Decode.atEnd_ignored]
    constructor
    · rintro ⟨-, holds⟩
      exact ⟨rfl, own same holds⟩
    · rintro ⟨-, holds⟩
      exact ⟨rfl, own (fun name place h => (same name place h).symm) holds⟩
  refused := by
    intro items long
    refine Option.eq_none_iff_forall_ne_some.2 fun settings hread => ?_
    have hend := (list_iff.1 hread).1
    rw [Decode.atEnd_refused, List.isEmpty_iff, List.drop_eq_nil_iff] at hend
    exact absurd hend (Nat.not_le.2 long)

end

-- ---------------------------------------------------------------------------
-- Sections
-- ---------------------------------------------------------------------------

namespace ServerConfig

/-- The settings in the order in which a list gives them. -/
def names : List String := ["host", "port"]

/-- The settings from this place on are the defaults. -/
structure DefaultFrom (place : Nat) (config : ServerConfig) : Prop where
  host : place ≤ 0 → config.host = ({} : ServerConfig).host
  port : place ≤ 1 → config.port = ({} : ServerConfig).port

theorem reads_places : ReadsPlaces ofValue? names DefaultFrom :=
  readsPlaces_of_holds Holds (by decide) ofItems?_eq_some_iff ofEntries?_eq_some_iff
    (fun same holds => {
      host := same "host" 0 rfl ▸ holds.host
      port := same "port" 1 rfl ▸ holds.port })
    (fun holds => {
      host := holds.host.of_length_le
      port := holds.port.of_length_le })

end ServerConfig

namespace DeployConfig

def names : List String := ["workdir", "git", "remote", "script", "restart", "env"]

structure DefaultFrom (place : Nat) (config : DeployConfig) : Prop where
  dir : place ≤ 0 → config.dir = ({} : DeployConfig).dir
  git : place ≤ 1 → config.git = ({} : DeployConfig).git
  remote : place ≤ 2 → config.remote = ({} : DeployConfig).remote
  script : place ≤ 3 → config.script = ({} : DeployConfig).script
  restart : place ≤ 4 → config.restart = ({} : DeployConfig).restart
  env : place ≤ 5 → config.env = ({} : DeployConfig).env

theorem reads_places : ReadsPlaces ofValue? names DefaultFrom :=
  readsPlaces_of_holds Holds (by decide) ofItems?_eq_some_iff ofEntries?_eq_some_iff
    (fun same holds => {
      dir := same "workdir" 0 rfl ▸ holds.dir
      git := same "git" 1 rfl ▸ holds.git
      remote := same "remote" 2 rfl ▸ holds.remote
      script := same "script" 3 rfl ▸ holds.script
      restart := same "restart" 4 rfl ▸ holds.restart
      env := same "env" 5 rfl ▸ holds.env })
    (fun holds => {
      dir := fun h => Path.eq_ofString_iff.2 (holds.dir.of_length_le h)
      git := holds.git.of_length_le
      remote := holds.remote.of_length_le
      script := holds.script.of_length_le
      restart := holds.restart.of_length_le
      env := holds.env.of_length_le })

end DeployConfig

-- ---------------------------------------------------------------------------
-- Files
-- ---------------------------------------------------------------------------

/-- Another spelling of a section with these settings that is written as a list:
a table, or the list with more items behind its last setting. -/
inductive Value.Spells (names : List String) : Value → Value → Prop where
  | by_name {items : List Value} (short : items.length ≤ names.length) :
      Spells names (.list items) (.table (names.zip items))
  | longer {items others : List Value} (full : items.length = names.length) :
      Spells names (.list items) (.list (items ++ others))

open Value (Spells)

theorem ReadsPlaces.spelled {ofValue? : Surplus → Value → Option α} {names : List String}
    {Default : Nat → α → Prop} {value other : Value} (reads : ReadsPlaces ofValue? names Default)
    (spells : Spells names value other) : ofValue? .ignored other = ofValue? .ignored value := by
  cases spells with
  | by_name short => exact (reads.by_name short).symm
  | longer full => exact reads.ignored full

namespace Config

variable {entries others : List (String × Value)}

/-- Documents that differ in the spelling of one section. -/
inductive Respelled : List (String × Value) → List (String × Value) → Prop where
  | server (front back : List (String × Value)) {value other : Value}
      (spells : Spells ServerConfig.names value other) :
      Respelled (front ++ ("http_server", value) :: back) (front ++ ("http_server", other) :: back)
  | deploy (front back : List (String × Value)) {value other : Value}
      (spells : Spells DeployConfig.names value other) :
      Respelled (front ++ ("deploy", value) :: back) (front ++ ("deploy", other) :: back)

theorem ofEntries?_respelled (respelled : Respelled entries others) :
    ofEntries? .ignored others = ofEntries? .ignored entries := by
  -- The section that is respelled is read as before, the other is not touched.
  cases respelled with
  | @server front back value other spells =>
    have hserver := fun _ : "http_server" = "http_server" =>
      ServerConfig.reads_places.spelled spells
    have hdeploy (heq : "deploy" = "http_server") :
        DeployConfig.ofValue? .ignored other = DeployConfig.ofValue? .ignored value :=
      absurd heq (by decide)
    simp only [ofEntries?, Decode.named_replace front back hserver,
      Decode.named_replace front back hdeploy]
  | @deploy front back value other spells =>
    have hserver (heq : "http_server" = "deploy") :
        ServerConfig.ofValue? .ignored other = ServerConfig.ofValue? .ignored value :=
      absurd heq (by decide)
    have hdeploy := fun _ : "deploy" = "deploy" => DeployConfig.reads_places.spelled spells
    simp only [ofEntries?, Decode.named_replace front back hserver,
      Decode.named_replace front back hdeploy]

theorem ofFile_of_holds {path : Path} {file : FileState} (holds : file.Holds entries) :
    ofFile path file =
      (ofEntries? .ignored entries).elim (.error (.undecodable path)) .ok := by
  cases holds with
  | missing => rfl
  | readable decoded read =>
    cases hconfig : ofEntries? .ignored entries with
    | none => simp [ofFile, decoded, read, hconfig]
    | some config => simp [ofFile, decoded, read, hconfig]

/-- A section written as a list is read as the table that gives the items to the
first settings by name: neither is read, or both are and for the same settings,
of which those that the list does not reach are the defaults. Items behind the
last setting do not count where they are to be ignored, and nothing is read
where they are to be refused. So two files that differ in the spelling of one
section hold the same settings, or neither holds any. -/
theorem decodes_places :
    ReadsPlaces DeployConfig.ofValue? DeployConfig.names DeployConfig.DefaultFrom ∧
    ReadsPlaces ServerConfig.ofValue? ServerConfig.names ServerConfig.DefaultFrom ∧
    ∀ (path : Path) (file other : FileState) (entries others : List (String × Value)),
      file.Holds entries → other.Holds others → Respelled entries others →
      ofFile path other = ofFile path file := by
  refine ⟨DeployConfig.reads_places, ServerConfig.reads_places, ?_⟩
  intro path file other entries others holds holds_other respelled
  rw [ofFile_of_holds holds, ofFile_of_holds holds_other, ofEntries?_respelled respelled]

/-- A list of one item under a header of its own: the item is the directory, and
all else is as it was. -/
theorem decodes_places_directory :
    let entries : List (String × Value) := [("deploy", .list [.text "/srv"])]
    let others : List (String × Value) := [("deploy", .table [("workdir", .text "/srv")])]
    let file : FileState := .readable (Text.encode "deploy=[\x22/srv\x22]")
    let other : FileState := .readable (Text.encode "[deploy]\nworkdir=\x22/srv\x22")
    file.Holds entries ∧ other.Holds others ∧ Respelled entries others ∧
    ofFile defaultPath other = ofFile defaultPath file ∧
    ofFile defaultPath file = .ok { deploy := { dir := .ofString "/srv" } } := by
  intro entries others file other
  have holds : file.Holds entries := .readable (Text.decode?_encode _) (by decide +kernel)
  have holds_other : other.Holds others := .readable (Text.decode?_encode _) (by decide +kernel)
  have respelled : Respelled entries others := .deploy [] [] (.by_name (by decide))
  obtain ⟨-, -, same⟩ := decodes_places
  refine ⟨holds, holds_other, respelled, same _ _ _ _ _ holds holds_other respelled, ?_⟩
  rw [ofFile_of_holds holds]
  rfl

end Config

end Rollout
