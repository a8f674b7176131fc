import Mathlib.Data.List.Basic

/-!
# Splitting texts

A text is split at every place where a character stands, or at the last one
alone. Neither loses anything, and the parts are told by where the character is
not: in none of the parts of the first, and not behind the second.
-/

namespace Rollout.Text

/-- The parts of a text before, between and behind the places of a character. -/
def splitAt (c : Char) (text : String) : List String :=
  (text.split c).toList.map (·.copy)

/-- What stands before the last place of a character, and what stands behind it. -/
def splitLast? (c : Char) (text : String) : Option (String × String) :=
  (go text.toList).map fun (front, behind) => (.ofList front, .ofList behind)
where
  go : List Char → Option (List Char × List Char)
    | [] => none
    | first :: rest =>
      match go rest with
      | some (front, behind) => some (first :: front, behind)
      | none => if first = c then some ([], rest) else none

variable {c : Char} {text part front behind : String} {words : List String}

-- ---------------------------------------------------------------------------
-- At every place
-- ---------------------------------------------------------------------------

theorem splitAt_eq (c : Char) (text : String) :
    splitAt c text = (text.toList.splitOn c).map String.ofList :=
  String.toList_split_char

theorem splitAt_append (c : Char) (front behind : String) :
    splitAt c (front ++ String.singleton c ++ behind) = splitAt c front ++ splitAt c behind := by
  simp only [splitAt_eq, String.toList_append, String.toList_singleton, List.append_assoc,
    List.singleton_append, List.splitOn_append_cons_self, List.map_append]

theorem intercalate_splitAt (c : Char) (text : String) :
    (String.singleton c).intercalate (splitAt c text) = text := by
  apply String.toList_inj.1
  simp [splitAt_eq, String.toList_intercalate, Function.comp_def]

theorem free_of_mem_splitOn {cs part : List Char} (h : part ∈ cs.splitOn c) : c ∉ part := by
  induction cs generalizing part with
  | nil => simp_all
  | cons first rest ih =>
    obtain ⟨head, tail, hrest⟩ := List.exists_cons_of_ne_nil (List.splitOn_ne_nil c rest)
    rw [hrest] at ih
    rw [List.splitOn_cons_eq_if_modifyHead, hrest, List.modifyHead_cons] at h
    split at h
    next =>
      rcases List.mem_cons.1 h with rfl | h
      · exact List.not_mem_nil
      · exact ih h
    next hfirst =>
      rcases List.mem_cons.1 h with rfl | h
      · have hne : c ≠ first := fun heq => hfirst (beq_iff_eq.2 heq.symm)
        exact List.not_mem_cons_of_ne_of_not_mem hne (ih List.mem_cons_self)
      · exact ih (List.mem_cons_of_mem head h)

theorem free_of_mem_splitAt (h : part ∈ splitAt c text) : c ∉ part.toList := by
  rw [splitAt_eq] at h
  obtain ⟨cs, hcs, rfl⟩ := List.mem_map.1 h
  rw [String.toList_ofList]
  exact free_of_mem_splitOn hcs

theorem splitAt_of_free (free : c ∉ text.toList) : splitAt c text = [text] := by
  rw [splitAt_eq, List.splitOn_eq_singleton free, List.map_singleton, String.ofList_toList]

/-- Words are left whole if none of them has the character. -/
theorem flatMap_splitAt_eq_self_iff :
    words.flatMap (splitAt c) = words ↔ ∀ word ∈ words, c ∉ word.toList := by
  constructor
  · intro h word hm
    rw [← h] at hm
    obtain ⟨other, -, hpart⟩ := List.mem_flatMap.1 hm
    exact free_of_mem_splitAt hpart
  · intro free
    rw [List.flatMap_congr fun word hm => splitAt_of_free (free word hm)]
    exact List.flatMap_singleton' words

-- ---------------------------------------------------------------------------
-- At the last place
-- ---------------------------------------------------------------------------

theorem splitLast?.go_of_free {cs : List Char} (free : c ∉ cs) : splitLast?.go c cs = none := by
  induction cs with
  | nil => rfl
  | cons first rest ih =>
    obtain ⟨hne, hrest⟩ := List.ne_and_not_mem_of_not_mem_cons free
    simp [splitLast?.go, ih hrest, Ne.symm hne]

theorem splitLast?.go_append {front behind : List Char} (free : c ∉ behind) :
    splitLast?.go c (front ++ c :: behind) = some (front, behind) := by
  induction front with
  | nil => simp [splitLast?.go, splitLast?.go_of_free free]
  | cons first rest ih => simp [splitLast?.go, ih]

/-- What stands behind the last place of a character is told by being free of it. -/
theorem splitLast?_append (free : c ∉ behind.toList) :
    splitLast? c (front ++ String.singleton c ++ behind) = some (front, behind) := by
  have hcs : (front ++ String.singleton c ++ behind).toList =
      front.toList ++ c :: behind.toList := by
    simp
  rw [splitLast?, hcs, splitLast?.go_append free]
  simp

theorem splitLast?.eq_of_go {cs front behind : List Char}
    (h : splitLast?.go c cs = some (front, behind)) :
    cs = front ++ c :: behind := by
  induction cs generalizing front with
  | nil => cases h
  | cons first rest ih =>
    rw [splitLast?.go] at h
    split at h
    next before after hrest =>
      cases h
      rw [ih hrest, List.cons_append]
    next =>
      split at h
      next hfirst =>
        cases h
        rw [hfirst, List.nil_append]
      next => cases h

theorem eq_of_splitLast? (h : splitLast? c text = some (front, behind)) :
    text = front ++ String.singleton c ++ behind := by
  obtain ⟨⟨before, after⟩, hgo, hparts⟩ := Option.map_eq_some_iff.1 h
  cases hparts
  apply String.toList_inj.1
  simp [splitLast?.eq_of_go hgo]

end Rollout.Text
