import Mathlib.Data.List.DropRight
import Rollout.Text.Blank

/-!
# Trimmed texts

What is left of a text without the white space around it, said by what stands
around it: a text is white space, a core with none at its ends, and white space
again. `trims_iff` says that a text has one such core and that `trim` finds it.
-/

namespace Rollout.Text

/-- The characters with the Unicode property `White_Space`. -/
def whiteSpace : List Char :=
  ['\t', '\n', '\x0b', '\x0c', '\r', ' ', '\x85', '\xa0', '\u1680', '\u2000', '\u2001', '\u2002',
    '\u2003', '\u2004', '\u2005', '\u2006', '\u2007', '\u2008', '\u2009', '\u200a', '\u2028',
    '\u2029', '\u202f', '\u205f', '\u3000']

/-- White space alone, or nothing. -/
def Blank (text : String) : Prop :=
  ∀ c ∈ text.toList, c ∈ whiteSpace

/-- No white space at either end. -/
def Bare (text : String) : Prop :=
  ∀ c, text.toList.head? = some c ∨ text.toList.getLast? = some c → c ∉ whiteSpace

/-- `core` is what a text is without the white space around it. -/
def Trims (text core : String) : Prop :=
  ∃ front back, text = front ++ core ++ back ∧ Blank front ∧ Blank back ∧ Bare core

variable {c : Char} {cs : List Char} {text core other : String}

-- ---------------------------------------------------------------------------
-- White space
-- ---------------------------------------------------------------------------

theorem isBlank_iff : isBlank c = true ↔ c ∈ whiteSpace := by
  have hnumber : c ∈ whiteSpace ↔ c.toNat ∈ whiteSpace.map Char.toNat := by
    rw [List.mem_map_of_injective fun _ _ => Char.toNat_inj.1]
  have hnumbers : whiteSpace.map Char.toNat = [9, 10, 11, 12, 13, 0x20, 0x85, 0xA0, 0x1680, 0x2000,
      0x2001, 0x2002, 0x2003, 0x2004, 0x2005, 0x2006, 0x2007, 0x2008, 0x2009, 0x200A, 0x2028,
      0x2029, 0x202F, 0x205F, 0x3000] := rfl
  rw [hnumber, hnumbers]
  simp only [isBlank, Bool.or_eq_true, Bool.and_eq_true, decide_eq_true_eq, List.mem_cons,
    List.not_mem_nil, or_false]
  omega

theorem isBlank_eq_false_iff : isBlank c = false ↔ c ∉ whiteSpace := by
  rw [← isBlank_iff, Bool.not_eq_true]

theorem blank_iff : blank text = true ↔ Blank text := by
  simp only [blank, List.all_eq_true, isBlank_iff, Blank]

theorem blank_eq_false_iff : blank text = false ↔ ¬ Blank text := by
  rw [← blank_iff, Bool.not_eq_true]

-- ---------------------------------------------------------------------------
-- Trimming
-- ---------------------------------------------------------------------------

theorem trimChars_eq (cs : List Char) : trimChars cs = (cs.dropWhile isBlank).rdropWhile isBlank :=
  rfl

theorem trimChars_prefix (cs : List Char) : trimChars cs <+: cs.dropWhile isBlank :=
  List.rdropWhile_prefix ..

theorem bare_trim (text : String) : Bare (trim text) := by
  intro c h
  rw [trim, String.toList_ofList] at h
  rw [← isBlank_eq_false_iff]
  rcases h with hhead | hlast
  · -- What is cut off behind does not touch the character at the front.
    obtain ⟨back, hback⟩ := trimChars_prefix text.toList
    have hnot := List.head?_dropWhile_not isBlank text.toList
    rw [← hback, List.head?_append, hhead] at hnot
    simpa using hnot
  · have hne : trimChars text.toList ≠ [] := by
      intro hnil
      simp [hnil] at hlast
    have hnot : ¬ isBlank ((trimChars text.toList).getLast hne) = true :=
      List.rdropWhile_last_not isBlank _ hne
    rw [List.getLast?_eq_some_getLast hne, Option.some.injEq] at hlast
    rwa [hlast, Bool.not_eq_true] at hnot

theorem trims_trim (text : String) : Trims text (trim text) := by
  let cs := text.toList
  refine ⟨.ofList (cs.takeWhile isBlank), .ofList ((cs.dropWhile isBlank).rtakeWhile isBlank),
    String.toList_injective ?_, ?_, ?_, bare_trim text⟩
  · simp only [String.toList_append, String.toList_ofList, trim, trimChars_eq, List.append_assoc,
      List.rdropWhile_append_rtakeWhile, List.takeWhile_append_dropWhile, cs]
  · intro c hc
    rw [String.toList_ofList] at hc
    exact isBlank_iff.1 (List.mem_takeWhile_imp hc)
  · intro c hc
    rw [String.toList_ofList] at hc
    exact isBlank_iff.1 (List.mem_rtakeWhile_imp hc)

theorem dropWhile_of_bare (h : ∀ c, cs.head? = some c → c ∉ whiteSpace) :
    cs.dropWhile isBlank = cs := by
  cases cs with
  | nil => rfl
  | cons c rest => exact List.dropWhile_cons_of_neg (by simpa [isBlank_iff] using h c rfl)

theorem Trims.eq_trim (h : Trims text core) : core = trim text := by
  obtain ⟨front, back, rfl, hfront, hback, bare⟩ := h
  have hdrop : (front ++ core ++ back).toList.dropWhile isBlank =
      (core.toList ++ back.toList).dropWhile isBlank := by
    rw [String.toList_append, String.toList_append, List.append_assoc,
      List.dropWhile_append_of_pos fun c hc => isBlank_iff.2 (hfront c hc)]
  have hfirst : core.toList.dropWhile isBlank = core.toList :=
    dropWhile_of_bare fun c hc => bare c (.inl hc)
  have hlast : core.toList.reverse.dropWhile isBlank = core.toList.reverse :=
    dropWhile_of_bare fun c hc => bare c (.inr (by rwa [List.head?_reverse] at hc))
  refine String.toList_injective ?_
  rw [trim, String.toList_ofList, trimChars, hdrop, List.dropWhile_append, hfirst]
  split
  next hempty =>
    -- Nothing but white space, which is all taken for what stands in front.
    have hnone : back.toList.dropWhile isBlank = [] :=
      List.dropWhile_eq_nil_iff.2 fun c hc => isBlank_iff.2 (hback c hc)
    rw [List.isEmpty_iff.1 hempty, hnone]
    rfl
  next =>
    rw [List.reverse_append, List.dropWhile_append_of_pos fun c hc =>
      isBlank_iff.2 (hback c (List.mem_reverse.1 hc)), hlast, List.reverse_reverse]

/-- A text comes to one core, the one that `trim` leaves. -/
theorem trims_iff : Trims text core ↔ core = trim text := by
  constructor
  · exact Trims.eq_trim
  · rintro rfl
    exact trims_trim text

theorem Trims.unique (h : Trims text core) (others : Trims text other) : other = core :=
  others.eq_trim.trans h.eq_trim.symm

theorem Bare.trims (bare : Bare text) : Trims text text :=
  ⟨"", "", by simp, by simp [Blank], by simp [Blank], bare⟩

-- White space within a text stays.
example : trim "\u3000deploy all\r\n" = "deploy all" := by decide

end Rollout.Text
