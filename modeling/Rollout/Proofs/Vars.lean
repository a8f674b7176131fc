import Rollout.Vars

/-!
# Looking up entries

Entries are told by what stands under each name (`ext_get?`). Of entries put
one after another the last one for a name counts, so pairs with distinct names
may be put in any order (`putAll_perm`), while one collection put over another
hides it name by name (`get?_overlay`).
-/

namespace Rollout.Vars

variable {vars lower upper : Vars} {pairs first second : List (String × String)}
  {key value name : String}

/-- Pairs put one after another. -/
def putAll (vars : Vars) (pairs : List (String × String)) : Vars :=
  pairs.foldl (fun vars pair => vars.insert pair.1 pair.2) vars

-- ---------------------------------------------------------------------------
-- Pairs with distinct names
-- ---------------------------------------------------------------------------

section
variable {α : Type} {pairs first second : List (String × α)} {value : α}

theorem nodup_of_names (nodup : (pairs.map Prod.fst).Nodup) : pairs.Nodup :=
  (List.pairwise_map.1 nodup).imp fun hne heq => hne (congrArg Prod.fst heq)

theorem lookup_eq_some_iff (nodup : (pairs.map Prod.fst).Nodup) :
    pairs.lookup key = some value ↔ (key, value) ∈ pairs := by
  induction pairs with
  | nil => simp
  | cons pair rest ih =>
    obtain ⟨name, found⟩ := pair
    obtain ⟨hnew, hrest⟩ := List.nodup_cons.1 nodup
    rw [List.lookup_cons]
    cases h : key == name with
    | true =>
      obtain rfl := beq_iff_eq.1 h
      have hnot : (key, value) ∉ rest := fun hmem => hnew (List.mem_map.2 ⟨_, hmem, rfl⟩)
      simp [hnot, eq_comm]
    | false =>
      have hne : key ≠ name := by simpa using h
      simp [hne, ih hrest]

theorem lookup_perm (perm : first.Perm second) (nodup : (second.map Prod.fst).Nodup) :
    first.lookup name = second.lookup name := by
  have nodup_first : (first.map Prod.fst).Nodup := (perm.map Prod.fst).nodup_iff.2 nodup
  apply Option.ext
  intro value
  rw [lookup_eq_some_iff nodup_first, lookup_eq_some_iff nodup, perm.mem_iff]

end

theorem nodup_names (vars : Vars) : (vars.toList.map Prod.fst).Nodup := by
  rw [List.Nodup, List.pairwise_map]
  refine vars.sorted.imp fun {a b} hlt heq => ?_
  rw [heq] at hlt
  exact String.lt_irrefl _ hlt

theorem ext_get? (h : ∀ name, lower.get? name = upper.get? name) : lower = upper := by
  have hmem : ∀ pair, pair ∈ lower.toList ↔ pair ∈ upper.toList := fun (name, value) => by
    rw [← lookup_eq_some_iff lower.nodup_names, ← lookup_eq_some_iff upper.nodup_names]
    exact iff_of_eq (congrArg (· = some value) (h name))
  have nodup (vars : Vars) : vars.toList.Nodup := nodup_of_names vars.nodup_names
  have hperm : lower.toList.Perm upper.toList :=
    (List.perm_ext_iff_of_nodup (nodup lower) (nodup upper)).2 hmem
  have hentries : lower.entries = upper.entries :=
    hperm.eq_of_pairwise (fun _ _ _ _ hlt hgt => absurd (String.lt_trans hlt hgt)
      (String.lt_irrefl _)) lower.sorted upper.sorted
  cases lower
  cases upper
  cases hentries
  rfl

-- ---------------------------------------------------------------------------
-- Putting entries
-- ---------------------------------------------------------------------------

theorem lookup_insertEntry (key value name : String) (entries : List (String × String)) :
    (insertEntry key value entries).lookup name =
      if name = key then some value else entries.lookup name := by
  induction entries with
  | nil => simp [insertEntry]
  | cons entry rest ih =>
    obtain ⟨other, found⟩ := entry
    rw [insertEntry]
    split
    next => simp only [List.lookup_cons]; grind
    next hnot =>
      split
      next hgt =>
        have hne : key ≠ other := by
          rintro rfl
          exact String.lt_irrefl _ hgt
        simp only [List.lookup_cons, ih]
        grind
      next hnot' =>
        have heq : key = other :=
          String.le_antisymm (String.not_lt.1 hnot') (String.not_lt.1 hnot)
        simp only [List.lookup_cons, heq]
        grind

@[simp] theorem get?_empty (name : String) : empty.get? name = none := rfl

@[simp] theorem get?_insert (vars : Vars) (key value name : String) :
    (vars.insert key value).get? name = if name = key then some value else vars.get? name :=
  lookup_insertEntry key value name vars.entries

theorem get?_putAll (nodup : (pairs.map Prod.fst).Nodup) (vars : Vars) (name : String) :
    (vars.putAll pairs).get? name = (pairs.lookup name).or (vars.get? name) := by
  induction pairs generalizing vars with
  | nil => rfl
  | cons pair rest ih =>
    obtain ⟨key, value⟩ := pair
    obtain ⟨hnew, hrest⟩ := List.nodup_cons.1 nodup
    have hput : vars.putAll ((key, value) :: rest) = (vars.insert key value).putAll rest := rfl
    rw [hput, ih hrest, get?_insert, List.lookup_cons]
    by_cases heq : name = key
    · subst heq
      -- No later pair has the name, so the one just put stays.
      have hnone : rest.lookup name = none := by
        refine List.lookup_eq_none_iff.2 fun pair hmem => ?_
        have hne : name ≠ pair.1 := fun h => hnew (List.mem_map.2 ⟨pair, hmem, h.symm⟩)
        simpa using hne
      simp [hnone]
    · have hne : (name == key) = false := beq_eq_false_iff_ne.2 heq
      simp [heq, hne]

theorem get?_overlay (lower upper : Vars) (name : String) :
    (lower.overlay upper).get? name = (upper.get? name).or (lower.get? name) :=
  get?_putAll upper.nodup_names lower name

/-- All pairs of a collection, put in any order, are the collection put over
what is there. -/
theorem putAll_perm (lower : Vars) (perm : pairs.Perm upper.toList) :
    lower.putAll pairs = lower.overlay upper := by
  refine ext_get? fun name => ?_
  have nodup : (pairs.map Prod.fst).Nodup := (perm.map Prod.fst).nodup_iff.2 upper.nodup_names
  rw [get?_putAll nodup, get?_overlay, lookup_perm perm upper.nodup_names]
  rfl

theorem empty_overlay (vars : Vars) : empty.overlay vars = vars :=
  ext_get? fun name => by rw [get?_overlay, get?_empty, Option.or_none]

/-- Pairs with distinct names, put in order, are the collection that has what
they say. -/
theorem ofList_eq_iff (nodup : (pairs.map Prod.fst).Nodup) : ofList pairs = vars ↔
    ∀ name value, vars.get? name = some value ↔ (name, value) ∈ pairs := by
  have hget (name : String) : (ofList pairs).get? name = pairs.lookup name := by
    have h := get?_putAll nodup empty name
    rwa [get?_empty, Option.or_none] at h
  constructor
  · rintro rfl name value
    rw [hget, lookup_eq_some_iff nodup]
  · intro h
    refine ext_get? fun name => Option.ext fun value => ?_
    rw [hget, h, lookup_eq_some_iff nodup]

end Rollout.Vars
