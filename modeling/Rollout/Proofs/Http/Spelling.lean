import Mathlib.Data.List.Forall2
import Rollout.Http.Form
import Rollout.Proofs.Text.Utf8

/-!
# Ways to spell a form

A list of names and values can be spelled in many ways: any octet may be
escaped, in digits of either case, a space may be a plus, and an empty value
may be left out with its equals sign. Whatever way is taken, reading gives the
list back (`read_of_spelled`); writing takes one of them (`spelled_write`).
-/

namespace Rollout.Http.Form

open Rollout.Text (Bytes encode lossy hexValue? hexPair hexDigit)

def percent : UInt8 := 0x25

/-- A digit of base sixteen, in either case. -/
def Digit (b : UInt8) (n : Nat) : Prop :=
  (encode "0123456789abcdef")[n]? = some b ∨ (encode "0123456789ABCDEF")[n]? = some b

/-- Octets of a query that spell other octets. -/
inductive Spells : Bytes → Bytes → Prop
  | nil : Spells [] []
  | blank {written octets : Bytes} (rest : Spells written octets) :
      Spells (plus :: written) (space :: octets)
  | escape {high low : UInt8} {m n : Nat} {written octets : Bytes} (high_digit : Digit high m)
      (low_digit : Digit low n) (rest : Spells written octets) :
      Spells (percent :: high :: low :: written) (UInt8.ofNat (m * 16 + n) :: octets)
  | itself {b : UInt8} {written octets : Bytes} (free : b ∉ [ampersand, plus, percent])
      (rest : Spells written octets) : Spells (b :: written) (b :: octets)

/-- Octets that spell a name and a value. -/
inductive SpellsPair : Bytes → String × String → Prop
  | full {name value : Bytes} {pair : String × String} (free : equals ∉ name)
      (name_spelled : Spells name (encode pair.1)) (value_spelled : Spells value (encode pair.2)) :
      SpellsPair (name ++ equals :: value) pair
  | bare {name : Bytes} {key : String} (free : equals ∉ name) (given : name ≠ [])
      (name_spelled : Spells name (encode key)) : SpellsPair name (key, "")

/-- A text that spells a list. -/
def Spelled (pairs : List (String × String)) (text : String) : Prop :=
  ∃ parts, encode text = [ampersand].intercalate parts ∧ List.Forall₂ SpellsPair parts pairs

variable {b high low : UInt8} {m n : Nat} {written octets part : Bytes} {pair : String × String}
  {pairs : List (String × String)} {text : String}

-- ---------------------------------------------------------------------------
-- Digits
-- ---------------------------------------------------------------------------

theorem Digit.cases (P : UInt8 → Nat → Prop)
    (lower : ∀ n (h : n < (encode "0123456789abcdef").length), P (encode "0123456789abcdef")[n] n)
    (upper : ∀ n (h : n < (encode "0123456789ABCDEF").length), P (encode "0123456789ABCDEF")[n] n)
    (h : Digit b n) : P b n := by
  rcases h with h | h
  · obtain ⟨hn, rfl⟩ := List.getElem?_eq_some_iff.1 h
    exact lower n hn
  · obtain ⟨hn, rfl⟩ := List.getElem?_eq_some_iff.1 h
    exact upper n hn

theorem hexValue?_of_digit (h : Digit b n) : hexValue? b = some n :=
  h.cases (fun b n => hexValue? b = some n) (by decide) (by decide)

/-- A digit has no meaning of its own in a query. -/
theorem Digit.free (h : Digit b n) : b ≠ ampersand ∧ b ≠ plus :=
  h.cases (fun b _ => b ≠ ampersand ∧ b ≠ plus) (by decide) (by decide)

-- ---------------------------------------------------------------------------
-- Reading
-- ---------------------------------------------------------------------------

theorem percentDecode_cons (h : b ≠ percent) (rest : Bytes) :
    percentDecode (b :: rest) = b :: percentDecode rest := by
  rw [percentDecode]
  rintro a c tail rfl
  exact absurd rfl h

theorem percentDecode_escape (hhigh : hexValue? high = some m) (hlow : hexValue? low = some n)
    (rest : Bytes) : percentDecode (percent :: high :: low :: rest) =
      UInt8.ofNat (m * 16 + n) :: percentDecode rest := by
  simp only [percent, percentDecode, hhigh, hlow]

theorem Spells.percentDecode_eq (h : Spells written octets) :
    percentDecode (written.map fun b => if b = plus then space else b) = octets := by
  induction h with
  | nil => rfl
  | blank rest ih => rw [List.map_cons, if_pos rfl, percentDecode_cons (by decide), ih]
  | escape high_digit low_digit rest ih =>
    simp only [List.map_cons, high_digit.free.2, low_digit.free.2, ↓reduceIte]
    rw [if_neg (by decide), percentDecode_escape (hexValue?_of_digit high_digit)
      (hexValue?_of_digit low_digit), ih]
  | itself free rest ih =>
    simp only [List.mem_cons, List.not_mem_nil, or_false, not_or] at free
    rw [List.map_cons, if_neg free.2.1, percentDecode_cons free.2.2, ih]

/-- What spells a text reads as the text. -/
theorem Spells.readPart_eq (h : Spells written (encode text)) : readPart written = text := by
  rw [readPart, h.percentDecode_eq, Text.lossy_encode]

/-- No part of a spelled list goes on into the next one. -/
theorem Spells.ampersand_free (h : Spells written octets) : ampersand ∉ written := by
  induction h with
  | nil => exact List.not_mem_nil
  | blank rest ih => exact List.not_mem_cons_of_ne_of_not_mem (by decide) ih
  | escape high_digit low_digit rest ih =>
    refine List.not_mem_cons_of_ne_of_not_mem (by decide) ?_
    refine List.not_mem_cons_of_ne_of_not_mem high_digit.free.1.symm ?_
    exact List.not_mem_cons_of_ne_of_not_mem low_digit.free.1.symm ih
  | itself free rest ih =>
    simp only [List.mem_cons, List.not_mem_nil, or_false, not_or] at free
    exact List.not_mem_cons_of_ne_of_not_mem (Ne.symm free.1) ih

theorem SpellsPair.ampersand_free (h : SpellsPair part pair) : ampersand ∉ part := by
  cases h with
  | full free name_spelled value_spelled =>
    rw [List.mem_append, not_or]
    exact ⟨name_spelled.ampersand_free,
      List.not_mem_cons_of_ne_of_not_mem (by decide) value_spelled.ampersand_free⟩
  | bare free given name_spelled => exact name_spelled.ampersand_free

theorem SpellsPair.ne_nil (h : SpellsPair part pair) : part ≠ [] := by
  cases h with
  | full => simp
  | bare free given name_spelled => exact given

theorem takeWhile_name {name : Bytes} (free : equals ∉ name) (rest : Bytes) :
    (name ++ rest).takeWhile (· != equals) = name ++ rest.takeWhile (· != equals) := by
  refine List.takeWhile_append_of_pos fun b hb => ?_
  simpa using fun heq : b = equals => free (heq ▸ hb)

theorem SpellsPair.readPair_eq (h : SpellsPair part pair) : readPair part = pair := by
  cases h with
  | @full name value pair free name_spelled value_spelled =>
    have hname : (name ++ equals :: value).takeWhile (· != equals) = name := by
      rw [takeWhile_name free]
      simp
    have hvalue : (name ++ equals :: value).drop (name.length + 1) = value := by
      rw [List.drop_append]
      simp
    simp only [readPair, hname, hvalue, name_spelled.readPart_eq, value_spelled.readPart_eq]
  | bare free given name_spelled =>
    have hname := takeWhile_name free []
    have hvalue : part.drop (part.length + 1) = [] := List.drop_eq_nil_of_le (Nat.le_succ _)
    rw [List.append_nil, List.takeWhile_nil, List.append_nil] at hname
    simp only [readPair, hname, hvalue, name_spelled.readPart_eq]
    rfl

/-- However a list is spelled, it is what is read. -/
theorem read_of_spelled (h : Spelled pairs text) : read text = pairs := by
  obtain ⟨parts, htext, hparts⟩ := h
  have hall : List.Forall₂ (fun part pair =>
      (ampersand ∉ part ∧ part ≠ []) ∧ readPair part = pair) parts pairs :=
    hparts.imp fun _ _ h => ⟨⟨h.ampersand_free, h.ne_nil⟩, h.readPair_eq⟩
  obtain ⟨hfree, hread⟩ := (List.forall₂_and_left parts pairs).1 hall
  have hpairs : parts.map readPair = pairs := by
    rwa [← List.forall₂_map_left_iff, List.forall₂_eq_eq_eq] at hread
  rw [read, htext]
  by_cases hnil : parts = []
  · subst hnil
    exact hpairs
  · rw [List.splitOn_intercalate ampersand (fun part hm => (hfree part hm).1) hnil,
      List.filter_eq_self.2 fun part hm => by simpa using (hfree part hm).2, hpairs]

-- ---------------------------------------------------------------------------
-- Writing
-- ---------------------------------------------------------------------------

theorem Spells.append {written' octets' : Bytes} (h : Spells written octets)
    (h' : Spells written' octets') : Spells (written ++ written') (octets ++ octets') := by
  induction h with
  | nil => exact h'
  | blank rest ih => exact .blank ih
  | escape high_digit low_digit rest ih => exact .escape high_digit low_digit ih
  | itself free rest ih => exact .itself free ih

theorem encode_ofList (cs : List Char) :
    encode (String.ofList cs) = cs.flatMap String.utf8EncodeChar := by
  rw [encode, String.toList_ofList]

theorem encode_hexDigit : ∀ n (h : n < (encode "0123456789ABCDEF").length),
    String.utf8EncodeChar (hexDigit 'A' n) = [(encode "0123456789ABCDEF")[n]] ∧
      (encode "0123456789ABCDEF")[n] ≠ equals := by
  decide

/-- The character for an octet below sixteen is a digit for it. -/
theorem hexDigit_digit (n : Nat) (h : n < 16) :
    ∃ b, String.utf8EncodeChar (hexDigit 'A' n) = [b] ∧ Digit b n ∧ b ≠ equals := by
  obtain ⟨hencode, hequals⟩ := encode_hexDigit n h
  exact ⟨_, hencode, .inr (List.getElem?_eq_getElem h), hequals⟩

theorem encode_plain : ∀ n < 256, isPlain (UInt8.ofNat n) = true →
    String.utf8EncodeChar (Char.ofNat n) = [UInt8.ofNat n] ∧
      UInt8.ofNat n ∉ [ampersand, plus, percent] ∧ UInt8.ofNat n ≠ equals := by
  decide +kernel

theorem writeOctet_spells (b : UInt8) :
    Spells ((writeOctet b).flatMap String.utf8EncodeChar) [b] ∧
      equals ∉ (writeOctet b).flatMap String.utf8EncodeChar := by
  have hlt : b.toNat < 256 := b.toNat_lt
  have hb : UInt8.ofNat b.toNat = b := UInt8.ofNat_toNat
  unfold writeOctet
  split
  next h =>
    subst h
    exact ⟨.blank .nil, by decide⟩
  next =>
    split
    next hplain =>
      obtain ⟨hencode, hfree, hequals⟩ := encode_plain b.toNat hlt (by rwa [hb])
      rw [hb] at hencode hfree hequals
      rw [List.flatMap_singleton, hencode]
      exact ⟨.itself hfree .nil, by simpa using hequals.symm⟩
    next =>
      obtain ⟨high, hhigh, high_digit, hne⟩ := hexDigit_digit (b.toNat / 16) (by omega)
      obtain ⟨low, hlow, low_digit, hne'⟩ := hexDigit_digit (b.toNat % 16) (by omega)
      have hpercent : String.utf8EncodeChar '%' = [percent] := by decide
      have hdigits : b.toNat / 16 * 16 + b.toNat % 16 = b.toNat := by omega
      have hspells := Spells.escape high_digit low_digit .nil
      rw [hdigits, hb] at hspells
      simp only [hexPair, List.flatMap_cons, List.flatMap_nil, hpercent, hhigh, hlow,
        List.cons_append, List.nil_append]
      refine ⟨hspells, ?_⟩
      have hpercent' : equals ≠ percent := by decide
      simp [hpercent', hne.symm, hne'.symm]

theorem writePart_spells (text : String) :
    Spells ((writePart text).flatMap String.utf8EncodeChar) (encode text) ∧
      equals ∉ (writePart text).flatMap String.utf8EncodeChar := by
  unfold writePart
  generalize encode text = octets
  induction octets with
  | nil => exact ⟨.nil, List.not_mem_nil⟩
  | cons b rest ih =>
    obtain ⟨hspells, hequals⟩ := writeOctet_spells b
    rw [List.flatMap_cons, List.flatMap_append]
    refine ⟨hspells.append ih.1, ?_⟩
    rw [List.mem_append, not_or]
    exact ⟨hequals, ih.2⟩

theorem writePair_spells (pair : String × String) :
    SpellsPair ((writePair pair).flatMap String.utf8EncodeChar) pair := by
  obtain ⟨name_spelled, free⟩ := writePart_spells pair.1
  obtain ⟨value_spelled, -⟩ := writePart_spells pair.2
  have hequals : String.utf8EncodeChar '=' = [equals] := by decide
  rw [writePair, List.flatMap_append, List.flatMap_cons, hequals, List.singleton_append]
  exact .full free name_spelled value_spelled

theorem encode_intercalate (parts : List (List Char)) :
    (['&'].intercalate parts).flatMap String.utf8EncodeChar =
      [ampersand].intercalate (parts.map (·.flatMap String.utf8EncodeChar)) := by
  have hampersand : String.utf8EncodeChar '&' = [ampersand] := by decide
  induction parts with
  | nil => rfl
  | cons first rest ih =>
    cases rest with
    | nil => simp
    | cons second rest =>
      simp only [List.map_cons, List.intercalate_cons_cons, List.flatMap_append,
        List.flatMap_singleton, hampersand] at ih ⊢
      rw [ih]

/-- What is written is one of the ways to spell a list. -/
theorem spelled_write (pairs : List (String × String)) : Spelled pairs (write pairs) := by
  refine ⟨(pairs.map writePair).map (·.flatMap String.utf8EncodeChar), ?_, ?_⟩
  · rw [write, encode_ofList, encode_intercalate]
  · rw [List.map_map, List.forall₂_map_left_iff, List.forall₂_same]
    exact fun pair _ => writePair_spells pair

end Rollout.Http.Form
