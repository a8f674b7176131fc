import Mathlib.Data.List.Basic
import Mathlib.Data.Set.List
import Rollout.Proofs.Config.Sections
import Rollout.Proofs.Numeral
import Rollout.Proofs.Vars

/-!
# Kinds of setting

Each kind of setting has a shape that its values have and a meaning for the
values of that shape. `Kind.ReadBy` says that a reader takes the values of a
kind and no others, for what they mean, and that the order in which their tables
name things is nothing to it.
-/

namespace Rollout

variable {α : Type}

-- ---------------------------------------------------------------------------
-- Values of text, numbers, lists and tables
-- ---------------------------------------------------------------------------

namespace Value

/-- There are no dates and times in the value, and no table has a name twice. -/
inductive Plain : Value → Prop where
  | null : Plain .null
  | boolean (value : Bool) : Plain (.boolean value)
  | integer (value : Int) : Plain (.integer value)
  | real : Plain .real
  | text (value : String) : Plain (.text value)
  | list {items : List Value} (each : ∀ item ∈ items, Plain item) : Plain (.list items)
  | table {entries : List (String × Value)} (distinct : (entries.map Prod.fst).Nodup)
      (each : ∀ entry ∈ entries, Plain entry.2) : Plain (.table entries)

/-- The entries of one table, here or further in, come in another order. -/
inductive Swapped : Value → Value → Prop where
  | here {entries others : List (String × Value)} (perm : entries.Perm others) :
      Swapped (.table entries) (.table others)
  | item (front back : List Value) {value other : Value} (swapped : Swapped value other) :
      Swapped (.list (front ++ value :: back)) (.list (front ++ other :: back))
  | entry (front back : List (String × Value)) (name : String) {value other : Value}
      (swapped : Swapped value other) :
      Swapped (.table (front ++ (name, value) :: back)) (.table (front ++ (name, other) :: back))

variable {value other : Value} {entries others : List (String × Value)} {name : String}

theorem plain_table_iff : (table entries).Plain ↔
    (entries.map Prod.fst).Nodup ∧ ∀ entry ∈ entries, entry.2.Plain := by
  constructor
  · intro plain
    cases plain with
    | table distinct each => exact ⟨distinct, each⟩
  · rintro ⟨distinct, each⟩
    exact .table distinct each

theorem Plain.of_mem (plain : (Value.table entries).Plain) (value : Value)
    (found : (name, value) ∈ entries) : value.Plain :=
  (plain_table_iff.1 plain).2 _ found

theorem Plain.lookup_eq_some_iff (plain : (Value.table entries).Plain) :
    entries.lookup name = some value ↔ (name, value) ∈ entries :=
  Vars.lookup_eq_some_iff (plain_table_iff.1 plain).1

theorem Plain.unique (plain : (Value.table entries).Plain) (found : (name, value) ∈ entries)
    (again : (name, other) ∈ entries) : value = other :=
  Option.some.inj ((plain.lookup_eq_some_iff.2 found).symm.trans (plain.lookup_eq_some_iff.2 again))

theorem Plain.swapped (plain : value.Plain) (swapped : Swapped value other) : other.Plain := by
  induction swapped with
  | here perm =>
    obtain ⟨distinct, each⟩ := plain_table_iff.1 plain
    exact .table ((perm.map Prod.fst).nodup_iff.1 distinct)
      fun entry hmem => each entry (perm.mem_iff.2 hmem)
  | item front back swapped ih =>
    cases plain with
    | list each =>
      rw [List.forall_mem_append, List.forall_mem_cons] at each
      obtain ⟨hfront, hvalue, hback⟩ := each
      refine .list ?_
      rw [List.forall_mem_append, List.forall_mem_cons]
      exact ⟨hfront, ih hvalue, hback⟩
  | entry front back name swapped ih =>
    obtain ⟨distinct, each⟩ := plain_table_iff.1 plain
    rw [List.forall_mem_append, List.forall_mem_cons] at each
    obtain ⟨hfront, hvalue, hback⟩ := each
    refine .table (by simpa using distinct) ?_
    rw [List.forall_mem_append, List.forall_mem_cons]
    exact ⟨hfront, ih hvalue, hback⟩

theorem Swapped.of_table (swapped : Swapped (table entries) other) :
    ∃ others, other = table others := by
  cases swapped with
  | here => exact ⟨_, rfl⟩
  | entry => exact ⟨_, rfl⟩

/-- What stands in an object stood there before or has a table further in that
was put in another order. -/
theorem Swapped.of_mem (swapped : Swapped (table entries) (table others))
    (found : (name, other) ∈ others) :
    (name, other) ∈ entries ∨ ∃ value, (name, value) ∈ entries ∧ Swapped value other := by
  cases swapped with
  | here perm => exact .inl (perm.mem_iff.2 found)
  | entry front back key swapped =>
    rcases List.mem_append.1 found with hfront | hback
    · exact .inl (List.mem_append_left _ hfront)
    · rcases List.mem_cons.1 hback with heq | hback
      · cases heq
        exact .inr ⟨_, by simp, swapped⟩
      · exact .inl (List.mem_append_right _ (.tail _ hback))

theorem Swapped.text?_eq (swapped : Swapped value other) : other.text? = value.text? := by
  cases swapped <;> rfl

theorem Swapped.integer?_eq (swapped : Swapped value other) : other.integer? = value.integer? := by
  cases swapped <;> rfl

theorem text?_eq_some_iff {text : String} : value.text? = some text ↔ value = .text text := by
  cases value <;> simp [text?]

end Value

open Value (Plain Swapped text?_eq_some_iff)

theorem Decode.port_eq_some_iff {value : Value} {port : Port} :
    Decode.port value = some port ↔ value = .integer port.toNat := by
  cases value with
  | integer n =>
    have hread : Decode.port (.integer n) = Port.ofInt? n := rfl
    rw [hread, Port.ofInt?_eq_some_iff, Value.integer.injEq]
  | _ => simp [Decode.port, Value.integer?]

-- ---------------------------------------------------------------------------
-- Kinds
-- ---------------------------------------------------------------------------

/-- The shape of the values of a kind, and the setting that each one means. -/
structure Kind (α : Type) where
  shape : Value → Prop
  means : Value → α → Prop

namespace Kind

def text : Kind String where
  shape value := ∃ text, value = .text text
  means value text := value = .text text

def path : Kind Path where
  shape := text.shape
  means value path := ∃ text, value = .text text ∧ path.octets = Text.encode text

def port : Kind Port where
  shape value := ∃ n : Int, value = .integer n ∧ 0 ≤ n ∧ n ≤ 65535
  means value port := value = .integer port.toNat

def words : Kind (List String) where
  shape value := ∃ items, value = .list items ∧ ∀ item ∈ items, text.shape item
  means value words := value = .list (words.map .text)

def vars : Kind Vars where
  shape value := ∃ entries, value = .table entries ∧ ∀ entry ∈ entries, text.shape entry.2
  means value vars := ∃ entries, value = .table entries ∧
    (∀ entry ∈ entries, text.shape entry.2) ∧
    ∀ name text, vars.get? name = some text ↔ (name, .text text) ∈ entries

/-- What it is to read a kind, for the values of a domain. -/
structure ReadBy (kind : Kind α) (read : Value → Option α) (domain : Value → Prop) : Prop where
  some_iff : ∀ {value setting}, domain value →
    (read value = some setting ↔ kind.means value setting)
  exists_iff : ∀ {value}, domain value → ((∃ setting, kind.means value setting) ↔ kind.shape value)
  swapped : ∀ {value other}, domain value → Swapped value other → read other = read value

theorem readBy_text : text.ReadBy Value.text? Plain where
  some_iff _ := text?_eq_some_iff
  exists_iff _ := .rfl
  swapped _ swapped := swapped.text?_eq

theorem readBy_path : path.ReadBy Decode.path Plain where
  some_iff {value setting} _ := by
    rw [Decode.path, Option.map_eq_some_iff]
    exact exists_congr fun text =>
      and_congr text?_eq_some_iff (eq_comm.trans Path.eq_ofString_iff)
  exists_iff _ := by
    constructor
    · rintro ⟨_, text, h, -⟩
      exact ⟨text, h⟩
    · rintro ⟨text, h⟩
      exact ⟨⟨Text.encode text⟩, text, h, rfl⟩
  swapped _ swapped := by simp only [Decode.path, swapped.text?_eq]

theorem readBy_port : port.ReadBy Decode.port Plain where
  some_iff _ := Decode.port_eq_some_iff
  exists_iff {value} _ := by
    constructor
    · rintro ⟨port, rfl⟩
      have small := Port.toNat_le port
      exact ⟨_, rfl, by omega, by omega⟩
    · rintro ⟨n, rfl, low, high⟩
      obtain ⟨m, rfl⟩ := Int.eq_ofNat_of_zero_le low
      obtain ⟨port, rfl⟩ := Port.exists_toNat_eq (Int.ofNat_le.1 high)
      exact ⟨port, rfl⟩
  swapped _ swapped := by simp only [Decode.port, swapped.integer?_eq]

-- ---------------------------------------------------------------------------
-- Kinds made of texts
-- ---------------------------------------------------------------------------

section
variable {β : Type} {read : β → Option α} {write : α → β} {items : List β} {settings : List α}

/-- What is written item by item is what is read item by item. -/
theorem mapM_eq_some_iff (h : ∀ item setting, read item = some setting ↔ item = write setting) :
    items.mapM read = some settings ↔ items = settings.map write := by
  induction items generalizing settings with
  | nil => simp [eq_comm]
  | cons item rest ih =>
    simp only [List.mapM_cons, Option.bind_eq_bind, Option.bind_eq_some_iff, h, ih, Option.pure_def,
      Option.some.injEq]
    constructor
    · rintro ⟨setting, rfl, others, rfl, rfl⟩
      rfl
    · intro hitems
      obtain ⟨setting, others, rfl, rfl, rfl⟩ := List.map_eq_cons_iff.1 hitems.symm
      exact ⟨setting, rfl, others, rfl, rfl⟩

theorem exists_eq_map_iff :
    (∃ settings : List α, items = settings.map write) ↔
      ∀ item ∈ items, ∃ setting, item = write setting := by
  have h := Set.ext_iff.1 (Set.range_list_map write) items
  simpa only [Set.mem_range, Set.mem_ofPred_eq, eq_comm] using h

end

theorem readBy_words : words.ReadBy Decode.words Plain where
  some_iff {value setting} _ := by
    have hitems (items : List Value) : items.mapM Value.text? = some setting ↔
        items = setting.map .text := mapM_eq_some_iff fun _ _ => text?_eq_some_iff
    cases value <;> simp [Decode.words, words, Value.items?, hitems]
  exists_iff {value} _ := by
    constructor
    · rintro ⟨setting, rfl⟩
      exact ⟨_, rfl, exists_eq_map_iff.1 ⟨setting, rfl⟩⟩
    · rintro ⟨items, rfl, each⟩
      obtain ⟨setting, rfl⟩ := exists_eq_map_iff.2 each
      exact ⟨setting, rfl⟩
  swapped _ swapped := by
    cases swapped with
    | here => rfl
    | entry => rfl
    | item front back swapped =>
      simp only [Decode.words, Value.items?, Option.bind_eq_bind, Option.bind_some,
        List.mapM_append, List.mapM_cons, swapped.text?_eq]

/-- An environment entry as an entry of a table. -/
def textEntry : String × String → String × Value :=
  Prod.map id .text

theorem textEntry_injective : Function.Injective textEntry :=
  Function.Injective.prodMap Function.injective_id fun _ _ => Value.text.inj

section
variable {entries others : List (String × Value)} {pairs : List (String × String)} {vars : Vars}

theorem map_fst_textEntry : (pairs.map textEntry).map Prod.fst = pairs.map Prod.fst := by
  simp [textEntry]

theorem mem_map_textEntry {name text : String} :
    (name, .text text) ∈ pairs.map textEntry ↔ (name, text) ∈ pairs :=
  List.mem_map_of_injective (a := (name, text)) textEntry_injective

theorem exists_eq_map_textEntry_iff :
    (∃ pairs, entries = List.map textEntry pairs) ↔ ∀ entry ∈ entries, text.shape entry.2 := by
  rw [exists_eq_map_iff]
  refine forall₂_congr fun entry _ => ?_
  constructor
  · rintro ⟨pair, rfl⟩
    exact ⟨pair.2, rfl⟩
  · rintro ⟨text, htext⟩
    exact ⟨(entry.1, text), Prod.ext rfl htext⟩

theorem vars_table_eq_some_iff : Decode.vars (.table entries) = some vars ↔
    ∃ pairs, entries = pairs.map textEntry ∧ Vars.ofList pairs = vars := by
  have hentry (entry : String × Value) (pair : String × String) :
      entry.2.text?.map (entry.1, ·) = some pair ↔ entry = textEntry pair := by
    rw [Option.map_eq_some_iff]
    simp only [text?_eq_some_iff]
    constructor
    · rintro ⟨text, htext, rfl⟩
      exact Prod.ext rfl htext
    · rintro rfl
      exact ⟨pair.2, rfl, rfl⟩
  simp only [Decode.vars, Value.entries?, Option.bind_eq_bind, Option.bind_some,
    Option.bind_eq_some_iff, mapM_eq_some_iff hentry, Option.pure_def, Option.some.injEq]

theorem vars_table_eq_some_iff_means (distinct : (entries.map Prod.fst).Nodup) :
    Decode.vars (.table entries) = some vars ↔ Kind.vars.means (.table entries) vars := by
  rw [vars_table_eq_some_iff]
  constructor
  · rintro ⟨pairs, rfl, hvars⟩
    rw [map_fst_textEntry] at distinct
    refine ⟨_, rfl, exists_eq_map_textEntry_iff.1 ⟨pairs, rfl⟩, fun name text => ?_⟩
    rw [(Vars.ofList_eq_iff distinct).1 hvars, mem_map_textEntry]
  · rintro ⟨_, ⟨⟩, each, hget⟩
    obtain ⟨pairs, rfl⟩ := exists_eq_map_textEntry_iff.2 each
    rw [map_fst_textEntry] at distinct
    refine ⟨pairs, rfl, (Vars.ofList_eq_iff distinct).2 fun name text => ?_⟩
    rw [hget, mem_map_textEntry]

theorem means_vars_of_perm (perm : entries.Perm others)
    (h : Kind.vars.means (.table entries) vars) : Kind.vars.means (.table others) vars := by
  obtain ⟨_, ⟨⟩, each, hget⟩ := h
  refine ⟨others, rfl, fun entry hmem => each entry (perm.mem_iff.2 hmem), fun name text => ?_⟩
  rw [hget, perm.mem_iff]

end

theorem readBy_vars : vars.ReadBy Decode.vars Plain where
  some_iff {value setting} plain := by
    cases plain with
    | table distinct each => exact vars_table_eq_some_iff_means distinct
    | _ => simp [Decode.vars, vars, Value.entries?]
  exists_iff {value} plain := by
    constructor
    · rintro ⟨setting, entries, rfl, each, -⟩
      exact ⟨entries, rfl, each⟩
    · rintro ⟨entries, rfl, each⟩
      obtain ⟨distinct, -⟩ := Value.plain_table_iff.1 plain
      obtain ⟨pairs, rfl⟩ := exists_eq_map_textEntry_iff.2 each
      have hread := vars_table_eq_some_iff.2 ⟨pairs, rfl, rfl⟩
      exact ⟨_, (vars_table_eq_some_iff_means distinct).1 hread⟩
  swapped plain swapped := by
    cases swapped with
    | item => rfl
    | entry front back name swapped =>
      simp only [Decode.vars, Value.entries?, Option.bind_eq_bind, Option.bind_some,
        List.mapM_append, List.mapM_cons, swapped.text?_eq]
    | here perm =>
      -- With a name twice the last of its values would count, and so would the order.
      obtain ⟨distinct, -⟩ := Value.plain_table_iff.1 plain
      have others_distinct := (perm.map Prod.fst).nodup_iff.1 distinct
      refine Option.ext fun setting => ?_
      rw [vars_table_eq_some_iff_means distinct, vars_table_eq_some_iff_means others_distinct]
      exact ⟨means_vars_of_perm perm.symm, means_vars_of_perm perm⟩

end Kind

end Rollout
