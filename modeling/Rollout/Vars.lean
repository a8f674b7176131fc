/-!
# Environment entries

Names with values, each name once, kept in the order of the names. Entries
with the same names and values are equal whatever the order they were put in.
-/

namespace Rollout

/-- Environment entries, ordered by name. -/
structure Vars where
  entries : List (String × String)
  sorted : entries.Pairwise (fun a b => a.1 < b.1)
  deriving DecidableEq

namespace Vars

/-- No entry. -/
def empty : Vars := ⟨[], .nil⟩

instance : Inhabited Vars := ⟨empty⟩

/-- Puts an entry at its place in an ordered list; an entry of that name is
replaced. -/
def insertEntry (key value : String) : List (String × String) → List (String × String)
  | [] => [(key, value)]
  | entry :: rest =>
    if key < entry.1 then (key, value) :: entry :: rest
    else if entry.1 < key then entry :: insertEntry key value rest
    else (key, value) :: rest

private theorem eq_of_not_lt {a b : String} (hab : ¬ a < b) (hba : ¬ b < a) : a = b :=
  String.le_antisymm (String.not_lt.1 hba) (String.not_lt.1 hab)

theorem mem_insertEntry {key value : String} {entries : List (String × String)}
    {entry : String × String} (h : entry ∈ insertEntry key value entries) :
    entry = (key, value) ∨ entry ∈ entries := by
  induction entries with
  | nil => simpa [insertEntry] using h
  | cons first rest ih =>
    rw [insertEntry] at h
    split at h
    · simpa using h
    · split at h
      · rcases List.mem_cons.1 h with h | h
        · exact .inr (h ▸ .head _)
        · exact (ih h).imp_right (.tail _)
      · exact (List.mem_cons.1 h).imp_right (.tail _)

theorem sorted_insertEntry (key value : String) {entries : List (String × String)}
    (h : entries.Pairwise fun a b => a.1 < b.1) :
    (insertEntry key value entries).Pairwise fun a b => a.1 < b.1 := by
  induction entries with
  | nil => simp [insertEntry]
  | cons first rest ih =>
    obtain ⟨hfirst, hrest⟩ := List.pairwise_cons.1 h
    rw [insertEntry]
    split
    next hlt =>
      refine List.pairwise_cons.2 ⟨fun entry hm => ?_, h⟩
      rcases List.mem_cons.1 hm with rfl | hm
      · exact hlt
      · exact String.lt_trans hlt (hfirst entry hm)
    next hnot =>
      split
      next hgt =>
        refine List.pairwise_cons.2 ⟨fun entry hm => ?_, ih hrest⟩
        rcases mem_insertEntry hm with rfl | hm
        · exact hgt
        · exact hfirst entry hm
      next hnot' =>
        have heq : key = first.1 := eq_of_not_lt hnot hnot'
        exact List.pairwise_cons.2 ⟨fun entry hm => heq ▸ hfirst entry hm, hrest⟩

/-- Puts an entry; the last value put for a name counts. -/
def insert (vars : Vars) (key value : String) : Vars :=
  ⟨insertEntry key value vars.entries, sorted_insertEntry key value vars.sorted⟩

/-- Entries put one after another, a later one over an earlier one. -/
def ofList (pairs : List (String × String)) : Vars :=
  pairs.foldl (fun vars pair => vars.insert pair.1 pair.2) empty

/-- All entries of `vars` with those of `upper` put over them. -/
def overlay (vars upper : Vars) : Vars :=
  upper.entries.foldl (fun vars pair => vars.insert pair.1 pair.2) vars

def get? (vars : Vars) (key : String) : Option String :=
  vars.entries.lookup key

def toList (vars : Vars) : List (String × String) :=
  vars.entries

end Vars

end Rollout
