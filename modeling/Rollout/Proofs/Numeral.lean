import Mathlib.Data.List.Basic
import Rollout.Port

/-!
# Numerals and ports

Decimal numerals as they are written, and the two readers of ports: digits
after an optional plus for the one, any number of 64 bits for the other. Either
reads a text as a port exactly if the text is a numeral of its kind whose number
is the port, however many zeros stand in front (`ofText?_eq_some_iff`,
`ofFlag_eq_ok_iff`). With no needless zeros there is one numeral for each number, the
one that is shown (`canonical_iff`).
-/

namespace Rollout

namespace Numeral

/-- One or more decimal digits that spell a number; zeros may lead. -/
inductive Decimal : List Char → Nat → Prop where
  | digit {d : Nat} (small : d < 10) : Decimal [d.digitChar] d
  | behind {digits : List Char} {n d : Nat} (front : Decimal digits n) (small : d < 10) :
      Decimal (digits ++ [d.digitChar]) (n * 10 + d)

/-- Decimal digits that spell a number without needless zeros in front. -/
structure Canonical (digits : List Char) (n : Nat) : Prop where
  spells : Decimal digits n
  bare : digits.head? = some '0' → digits = ['0']

/-- Digits that may have a plus before them. -/
inductive Unsigned : String → Nat → Prop where
  | plain {digits : List Char} {n : Nat} (spells : Decimal digits n) :
      Unsigned (.ofList digits) n
  | plus {digits : List Char} {n : Nat} (spells : Decimal digits n) :
      Unsigned (.ofList ('+' :: digits)) n

/-- Digits that may have either sign before them. -/
inductive Signed : String → Int → Prop where
  | unsigned {text : String} {n : Nat} (spells : Unsigned text n) : Signed text n
  | minus {digits : List Char} {n : Nat} (spells : Decimal digits n) :
      Signed (.ofList ('-' :: digits)) (-n)

variable {c : Char} {cs digits : List Char} {text : String} {d m n : Nat} {z : Int}

-- ---------------------------------------------------------------------------
-- Digits
-- ---------------------------------------------------------------------------

theorem isDigit_iff : Port.isDigit c = true ↔ 48 ≤ c.toNat ∧ c.toNat ≤ 57 :=
  Char.isDigit_iff_toNat

theorem isDigit_digitChar (small : d < 10) : Port.isDigit d.digitChar = true := by
  rw [isDigit_iff, Nat.toNat_digitChar_of_lt_ten small]
  omega

/-- A digit is the character of what it counts for. -/
theorem digitChar_of_isDigit (h : Port.isDigit c = true) :
    c.toNat - 48 < 10 ∧ (c.toNat - 48).digitChar = c := by
  obtain ⟨low, high⟩ := isDigit_iff.1 h
  have small : c.toNat - 48 < 10 := by omega
  refine ⟨small, Char.toNat_inj.1 ?_⟩
  rw [Nat.toNat_digitChar_of_lt_ten small]
  omega

/-- The number that digits spell behind others that spell `n`. -/
def foldDigits (n : Nat) (digits : List Char) : Nat :=
  digits.foldl (fun n c => n * 10 + (c.toNat - 48)) n

theorem foldDigits_append_digitChar (n : Nat) (digits : List Char) (small : d < 10) :
    foldDigits n (digits ++ [d.digitChar]) = foldDigits n digits * 10 + d := by
  simp only [foldDigits, List.foldl_append, List.foldl_cons, List.foldl_nil,
    Nat.toNat_digitChar_of_lt_ten small, Nat.add_sub_cancel_left]

theorem le_foldDigits (n : Nat) (digits : List Char) : n ≤ foldDigits n digits := by
  induction digits generalizing n with
  | nil => exact Nat.le_refl n
  | cons c rest ih =>
    have hstep : n ≤ n * 10 + (c.toNat - 48) := by omega
    exact Nat.le_trans hstep (ih _)

-- ---------------------------------------------------------------------------
-- Numerals
-- ---------------------------------------------------------------------------

theorem Decimal.append (h : Decimal digits n) (all : cs.all Port.isDigit = true) :
    Decimal (digits ++ cs) (foldDigits n cs) := by
  induction cs generalizing digits n with
  | nil => simpa [foldDigits] using h
  | cons c rest ih =>
    obtain ⟨hc, hrest⟩ := (Bool.and_eq_true ..).mp all
    obtain ⟨small, hchar⟩ := digitChar_of_isDigit hc
    have hfront := h.behind small
    rw [hchar] at hfront
    have h := ih hfront hrest
    rwa [List.append_assoc] at h

theorem decimal_iff : Decimal digits n ↔
    digits ≠ [] ∧ digits.all Port.isDigit = true ∧ Port.numeral digits = n := by
  constructor
  · intro h
    induction h with
    | @digit d small =>
      have hnumber := foldDigits_append_digitChar 0 [] small
      exact ⟨List.cons_ne_nil _ _, by simpa using isDigit_digitChar small,
        hnumber.trans (Nat.zero_add d)⟩
    | behind front small ih =>
      obtain ⟨-, hall, hnumber⟩ := ih
      refine ⟨by simp, by simpa [hall] using isDigit_digitChar small, ?_⟩
      exact (foldDigits_append_digitChar 0 _ small).trans (by rw [← hnumber]; rfl)
  · rintro ⟨hne, hall, rfl⟩
    cases digits with
    | nil => exact absurd rfl hne
    | cons c rest =>
      obtain ⟨hc, hrest⟩ := (Bool.and_eq_true ..).mp hall
      obtain ⟨small, hchar⟩ := digitChar_of_isDigit hc
      have h := (Decimal.digit small).append hrest
      rw [hchar] at h
      simpa [Port.numeral, foldDigits] using h

theorem Decimal.head_isDigit (h : Decimal (c :: cs) n) : Port.isDigit c = true := by
  obtain ⟨-, hall, -⟩ := decimal_iff.1 h
  exact ((Bool.and_eq_true ..).mp hall).1

theorem Decimal.unique (h : Decimal digits n) (other : Decimal digits m) : m = n := by
  rw [← (decimal_iff.1 h).2.2, ← (decimal_iff.1 other).2.2]

theorem Decimal.free (h : Decimal digits n) (hc : Port.isDigit c = false) : c ∉ digits := by
  intro hm
  have hdigit := List.all_eq_true.1 (decimal_iff.1 h).2.1 c hm
  cases hc.symm.trans hdigit

theorem not_decimal_nil : ¬ Decimal [] n := fun h => (decimal_iff.1 h).1 rfl

theorem not_decimal_of_head (hc : Port.isDigit c = false) : ¬ Decimal (c :: cs) n := by
  intro spells
  cases hc.symm.trans spells.head_isDigit

/-- Only zeros spell zero. -/
theorem decimal_zero_iff : Decimal digits 0 ↔ ∃ k, digits = List.replicate (k + 1) '0' := by
  constructor
  · generalize hn : (0 : Nat) = n
    intro h
    induction h with
    | @digit d small =>
      subst hn
      exact ⟨0, rfl⟩
    | @behind digits n d front small ih =>
      obtain ⟨rfl, rfl⟩ : n = 0 ∧ d = 0 := by omega
      obtain ⟨k, rfl⟩ := ih rfl
      exact ⟨k + 1, List.replicate_succ'.symm⟩
  · rintro ⟨k, rfl⟩
    induction k with
    | zero => exact .digit (Nat.zero_lt_succ 9)
    | succ k ih =>
      rw [List.replicate_succ']
      exact ih.behind (Nat.zero_lt_succ 9)

theorem decimal_toDigits (n : Nat) : Decimal (Nat.toDigits 10 n) n := by
  induction n using Nat.strongRecOn with
  | ind n ih =>
    by_cases small : n < 10
    · rw [Nat.toDigits_of_lt_base small]
      exact .digit small
    · have hlarge : 10 ≤ n := Nat.le_of_not_lt small
      have hfront := ih (n / 10) (by omega)
      have h := hfront.behind (Nat.mod_lt n (by decide : 0 < 10))
      rw [Nat.mul_comm, Nat.div_add_mod] at h
      rwa [Nat.toDigits_of_base_le (by decide) hlarge]

theorem head?_toDigits (positive : 0 < n) : (Nat.toDigits 10 n).head? ≠ some '0' := by
  induction n using Nat.strongRecOn with
  | ind n ih =>
    by_cases small : n < 10
    · rw [Nat.toDigits_of_lt_base small, List.head?_cons, ne_eq, Option.some.injEq,
        Nat.digitChar_eq_zero]
      exact Nat.ne_of_gt positive
    · rw [Nat.toDigits_of_base_le (by decide) (Nat.le_of_not_lt small),
        List.head?_append_of_ne_nil _ Nat.toDigits_ne_nil]
      exact ih (n / 10) (by omega) (by omega)

theorem Canonical.eq_toDigits (h : Canonical digits n) : digits = Nat.toDigits 10 n := by
  obtain ⟨spells, bare⟩ := h
  induction spells with
  | digit small => exact (Nat.toDigits_of_lt_base small).symm
  | @behind front m d spells small ih =>
    have hne : front ≠ [] := (decimal_iff.1 spells).1
    -- A zero at the front would lead all digits, of which there are two at least.
    have hhead : front.head? ≠ some '0' := by
      intro hzero
      have hone := bare (by rwa [List.head?_append_of_ne_nil _ hne])
      have hlength := congrArg List.length hone
      simp [hne] at hlength
    have hfront : front = Nat.toDigits 10 m := ih fun hzero => absurd hzero hhead
    have positive : 0 < m := by
      rcases Nat.eq_zero_or_pos m with rfl | positive
      · exact absurd (by rw [hfront, Nat.toDigits_zero]; rfl) hhead
      · exact positive
    have h := Nat.toDigits_append_toDigits (by decide : 1 < 10) positive small
    rw [Nat.toDigits_of_lt_base small, ← hfront, Nat.mul_comm] at h
    exact h

/-- A number is spelled in one way without needless zeros. -/
theorem canonical_iff : Canonical digits n ↔ digits = Nat.toDigits 10 n := by
  constructor
  · exact Canonical.eq_toDigits
  · rintro rfl
    refine ⟨decimal_toDigits n, fun hzero => ?_⟩
    rcases Nat.eq_zero_or_pos n with rfl | positive
    · exact Nat.toDigits_zero 10
    · exact absurd hzero (head?_toDigits positive)

theorem unsigned_iff : Unsigned text n ↔
    Decimal text.toList n ∨ ∃ digits, text.toList = '+' :: digits ∧ Decimal digits n := by
  constructor
  · rintro (⟨spells⟩ | ⟨spells⟩)
    · exact .inl (by rwa [String.toList_ofList])
    · exact .inr ⟨_, String.toList_ofList, spells⟩
  · rintro (spells | ⟨digits, htext, spells⟩)
    · simpa using Unsigned.plain spells
    · simpa [← htext] using Unsigned.plus spells

theorem signed_iff : Signed text z ↔ (∃ n : Nat, Unsigned text n ∧ z = n) ∨
    ∃ digits, ∃ n : Nat, text.toList = '-' :: digits ∧ Decimal digits n ∧ z = -n := by
  constructor
  · rintro (spells | spells)
    · exact .inl ⟨_, spells, rfl⟩
    · exact .inr ⟨_, _, String.toList_ofList, spells, rfl⟩
  · rintro (⟨n, spells, rfl⟩ | ⟨digits, n, htext, spells, rfl⟩)
    · exact .unsigned spells
    · simpa [← htext] using Signed.minus spells

theorem signed_toString (n : Nat) : Signed (toString n) n := by
  have h := decimal_toDigits n
  rw [← Nat.toList_repr] at h
  exact .unsigned (unsigned_iff.2 (.inl h))

end Numeral

open Numeral

namespace Port

variable {digits : List Char} {text : String} {negative : Bool} {m n : Nat} {z : Int} {port : Port}

theorem toNat_le (port : Port) : port.toNat ≤ 65535 := Nat.le_of_lt_succ port.toNat_lt

theorem exists_toNat_eq (h : n ≤ 65535) : ∃ port : Port, port.toNat = n :=
  ⟨.ofNat n, UInt16.toNat_ofNat_of_lt' (Nat.lt_succ_of_le h)⟩

-- ---------------------------------------------------------------------------
-- Digits after an optional plus
-- ---------------------------------------------------------------------------

theorem ofInt?_eq_some_iff : ofInt? z = some port ↔ z = port.toNat := by
  have hlt : port.toNat < 65536 := port.toNat_lt
  unfold ofInt?
  split
  next h =>
    obtain ⟨low, high⟩ := h
    have hnat : (UInt16.ofNat z.toNat).toNat = z.toNat :=
      UInt16.toNat_ofNat_of_lt' (by simp only [UInt16.size]; omega)
    rw [Option.some.injEq, ← UInt16.toNat_inj, hnat]
    omega
  next h => exact ⟨fun hnone => (by cases hnone), fun hz => absurd ⟨by omega, by omega⟩ h⟩

theorem ofDigits?_eq_some_iff : ofDigits? digits = some port ↔ Decimal digits port.toNat := by
  rw [decimal_iff]
  unfold ofDigits?
  split
  next h =>
    rw [ofInt?_eq_some_iff, Int.natCast_inj]
    simp [h]
  next h =>
    constructor
    · intro hnone
      cases hnone
    · rintro ⟨hne, hall, -⟩
      exact absurd ⟨hne, hall⟩ h

theorem ofText?_eq_some_iff : ofText? text = some port ↔ Unsigned text port.toNat := by
  rw [unsigned_iff]
  unfold ofText?
  split
  next digits htext =>
    have hsign : ¬ Decimal ('+' :: digits) port.toNat := not_decimal_of_head rfl
    simp [htext, hsign, ofDigits?_eq_some_iff]
  next hplus =>
    rw [ofDigits?_eq_some_iff]
    constructor
    · exact .inl
    · rintro (spells | ⟨digits, htext, -⟩)
      · exact spells
      · exact absurd htext (hplus digits)

-- ---------------------------------------------------------------------------
-- Numbers of 64 bits
-- ---------------------------------------------------------------------------

/-- The limit is checked at every digit and holds of all of them if it holds of
the last. -/
theorem magnitudeFrom_eq_ok_iff (fits : n ≤ magnitudeLimit negative) :
    magnitudeFrom negative n digits = .ok m ↔
      digits.all isDigit = true ∧ m = foldDigits n digits ∧ m ≤ magnitudeLimit negative := by
  induction digits generalizing n with
  | nil =>
    simp only [magnitudeFrom, foldDigits, List.all_nil, List.foldl_nil, Except.ok.injEq, true_and]
    constructor
    · rintro rfl
      exact ⟨rfl, fits⟩
    · rintro ⟨rfl, -⟩
      rfl
  | cons c rest ih =>
    have hcons : foldDigits n (c :: rest) = foldDigits (n * 10 + (c.toNat - 48)) rest := rfl
    rw [magnitudeFrom, List.all_cons, hcons]
    cases hc : isDigit c with
    | false => simp
    | true =>
      by_cases hfits : n * 10 + (c.toNat - 48) ≤ magnitudeLimit negative
      · simp [hfits, ih hfits]
      · have hle := le_foldDigits (n * 10 + (c.toNat - 48)) rest
        simp only [↓reduceIte, hfits, reduceCtorEq, false_iff, not_and]
        rintro - rfl
        omega

theorem signed_eq_ok_iff : signed negative digits = .ok z ↔ ∃ n : Nat, Decimal digits n ∧
    n ≤ magnitudeLimit negative ∧ z = if negative then -(n : Int) else n := by
  cases digits with
  | nil => simp [signed, not_decimal_nil]
  | cons c rest =>
    have hok : signed negative (c :: rest) = .ok z ↔ ∃ n,
        magnitudeFrom negative 0 (c :: rest) = .ok n ∧
          z = if negative then -(n : Int) else n := by
      simp only [signed, List.isEmpty_cons, Bool.false_eq_true, ↓reduceIte]
      cases magnitudeFrom negative 0 (c :: rest) <;> simp [Functor.map, Except.map, eq_comm]
    rw [hok]
    simp only [magnitudeFrom_eq_ok_iff (Nat.zero_le _), decimal_iff]
    constructor
    · rintro ⟨n, ⟨hall, hn, hfits⟩, hz⟩
      exact ⟨n, ⟨List.cons_ne_nil _ _, hall, hn.symm⟩, hfits, hz⟩
    · rintro ⟨n, ⟨-, hall, hn⟩, hfits, hz⟩
      exact ⟨n, ⟨hall, hn.symm, hfits⟩, hz⟩

theorem signed_false_eq_ok_iff : signed false digits = .ok z ↔
    ∃ n : Nat, Decimal digits n ∧ z = n ∧ z ≤ 9223372036854775807 := by
  rw [signed_eq_ok_iff]
  simp only [magnitudeLimit, Bool.false_eq_true, ↓reduceIte]
  constructor
  · rintro ⟨n, spells, fits, rfl⟩
    exact ⟨n, spells, rfl, by omega⟩
  · rintro ⟨n, spells, rfl, fits⟩
    exact ⟨n, spells, by omega, rfl⟩

theorem signed_true_eq_ok_iff : signed true digits = .ok z ↔
    ∃ n : Nat, Decimal digits n ∧ z = -n ∧ -9223372036854775808 ≤ z := by
  rw [signed_eq_ok_iff]
  simp only [magnitudeLimit, ↓reduceIte]
  constructor
  · rintro ⟨n, spells, fits, rfl⟩
    exact ⟨n, spells, rfl, by omega⟩
  · rintro ⟨n, spells, rfl, fits⟩
    exact ⟨n, spells, by omega, rfl⟩

theorem integer_eq_ok_iff : integer text = .ok z ↔
    Signed text z ∧ -9223372036854775808 ≤ z ∧ z ≤ 9223372036854775807 := by
  rw [signed_iff]
  simp only [unsigned_iff]
  unfold integer
  split
  next htext => simp [htext, not_decimal_nil]
  next digits htext =>
    rw [signed_false_eq_ok_iff, htext]
    constructor
    · rintro ⟨n, spells, rfl, fits⟩
      exact ⟨.inl ⟨n, .inr ⟨digits, rfl, spells⟩, rfl⟩, by omega, fits⟩
    · rintro ⟨⟨n, spells | ⟨_, hdigits, spells⟩, rfl⟩ | ⟨_, n, hsign, -⟩, -, fits⟩
      · exact absurd spells (not_decimal_of_head rfl)
      · cases hdigits
        exact ⟨n, spells, rfl, fits⟩
      · cases hsign
  next digits htext =>
    rw [signed_true_eq_ok_iff, htext]
    constructor
    · rintro ⟨n, spells, rfl, fits⟩
      exact ⟨.inr ⟨digits, n, rfl, spells, rfl⟩, fits, by omega⟩
    · rintro ⟨⟨n, spells | ⟨_, hsign, -⟩, -⟩ | ⟨_, n, hdigits, spells, rfl⟩, fits, -⟩
      · exact absurd spells (not_decimal_of_head rfl)
      · cases hsign
      · cases hdigits
        exact ⟨n, spells, rfl, fits⟩
  next hplus hminus =>
    rw [signed_false_eq_ok_iff]
    constructor
    · rintro ⟨n, spells, rfl, fits⟩
      exact ⟨.inl ⟨n, .inl spells, rfl⟩, by omega, fits⟩
    · rintro ⟨⟨n, spells | ⟨digits, htext, -⟩, rfl⟩ | ⟨digits, _, htext, -⟩, -, fits⟩
      · exact ⟨n, spells, rfl, fits⟩
      · exact absurd htext (hplus digits)
      · exact absurd htext (hminus digits)

/-- A number past 64 bits is no port either, so the range of ports alone counts. -/
theorem ofFlag_eq_ok_iff : ofFlag text = .ok port ↔ Signed text port.toNat := by
  have hlt : port.toNat < 65536 := port.toNat_lt
  have hok : ofFlag text = .ok port ↔ ∃ z, integer text = .ok z ∧ ofInt? z = some port := by
    unfold ofFlag
    cases integer text with
    | error fault => simp
    | ok z => cases hport : ofInt? z <;> simp [hport]
  rw [hok]
  simp only [integer_eq_ok_iff, ofInt?_eq_some_iff]
  constructor
  · rintro ⟨_, ⟨spells, -⟩, rfl⟩
    exact spells
  · intro spells
    exact ⟨_, ⟨spells, by omega, by omega⟩, rfl⟩

end Port

end Rollout
