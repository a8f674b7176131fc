import Rollout.Text.Utf8

/-!
# A text reads back from its octets

The octets that a text is written with are cut into the characters they were
written for, so they are UTF-8 and read as the text again, strictly and
leniently.
-/

namespace Rollout.Text

variable {lead second third fourth : UInt8} {rest : Bytes} {n v : Nat}

-- ---------------------------------------------------------------------------
-- What stands at the front, by the number of octets
-- ---------------------------------------------------------------------------

theorem isTail_iff : isTail second = true ↔ 0x80 ≤ second.toNat ∧ second.toNat ≤ 0xBF := by
  simp [isTail, UInt8.le_iff_toNat_le]

/-- Overlong forms, surrogates and what is past the last character aside, any
continuing octet may be the second. -/
theorem admits_iff : admits lead second = true ↔ isTail second = true ∧
    (lead.toNat = 0xE0 → 0xA0 ≤ second.toNat) ∧ (lead.toNat = 0xED → second.toNat ≤ 0x9F) ∧
    (lead.toNat = 0xF0 → 0x90 ≤ second.toNat) ∧ (lead.toNat = 0xF4 → second.toNat ≤ 0x8F) := by
  simp only [admits, isTail, ← UInt8.toNat_inj, UInt8.le_iff_toNat_le]
  grind

theorem front_one (hlead : lead.toNat ≤ 0x7F) :
    front lead rest = (some (Char.ofNat lead.toNat), 0) := by
  have h : lead < 0x80 := by simp [UInt8.lt_iff_toNat_lt]; omega
  simp only [front, h, ↓reduceIte]

theorem front_two (hlead : 0xC2 ≤ lead.toNat ∧ lead.toNat ≤ 0xDF) (h : isTail second = true) :
    front lead (second :: rest) =
      (some (Char.ofNat (lead.toNat % 32 * 64 + payload second)), 1) := by
  have ascii : ¬ lead < 0x80 := by simp [UInt8.le_iff_toNat_le]; omega
  have two : (0xC2 ≤ lead && lead ≤ 0xDF) = true := by simp [UInt8.le_iff_toNat_le]; omega
  simp only [front, ascii, two, h, ↓reduceIte]

theorem front_three (hlead : 0xE0 ≤ lead.toNat ∧ lead.toNat ≤ 0xEF)
    (hsecond : admits lead second = true) (hthird : isTail third = true) :
    front lead (second :: third :: rest) =
      (some (Char.ofNat ((lead.toNat % 16 * 64 + payload second) * 64 + payload third)), 2) := by
  have ascii : ¬ lead < 0x80 := by simp [UInt8.le_iff_toNat_le]; omega
  have two : (0xC2 ≤ lead && lead ≤ 0xDF) = false := by simp [UInt8.le_iff_toNat_le]; omega
  have three : (0xE0 ≤ lead && lead ≤ 0xEF) = true := by simp [UInt8.le_iff_toNat_le]; omega
  simp [front, ascii, two, three, hsecond, hthird]

theorem front_four (hlead : 0xF0 ≤ lead.toNat ∧ lead.toNat ≤ 0xF4)
    (hsecond : admits lead second = true) (hthird : isTail third = true)
    (hfourth : isTail fourth = true) :
    front lead (second :: third :: fourth :: rest) =
      (some (Char.ofNat (((lead.toNat % 8 * 64 + payload second) * 64 + payload third) * 64 +
        payload fourth)), 3) := by
  have ascii : ¬ lead < 0x80 := by simp [UInt8.le_iff_toNat_le]; omega
  have two : (0xC2 ≤ lead && lead ≤ 0xDF) = false := by simp [UInt8.le_iff_toNat_le]; omega
  have three : (0xE0 ≤ lead && lead ≤ 0xEF) = false := by simp [UInt8.le_iff_toNat_le]; omega
  have four : (0xF0 ≤ lead && lead ≤ 0xF4) = true := by simp [UInt8.le_iff_toNat_le]; omega
  simp [front, ascii, two, three, four, hsecond, hthird, hfourth]

-- ---------------------------------------------------------------------------
-- The octets of a character
-- ---------------------------------------------------------------------------

theorem toNat_ofNat_octet (h : n < 256) : (UInt8.ofNat n).toNat = n :=
  UInt8.toNat_ofNat_of_lt' h

theorem isTail_ofNat (n : Nat) : isTail (UInt8.ofNat (n % 64 + 128)) = true := by
  rw [isTail_iff, toNat_ofNat_octet (by omega)]
  omega

theorem admits_ofNat_three (low : 0x7FF < v) (high : v ≤ 0xFFFF) (scalar : v < 0xD800 ∨ 0xDFFF < v) :
    admits (UInt8.ofNat (v / 4096 % 16 + 224)) (UInt8.ofNat (v / 64 % 64 + 128)) = true := by
  rw [admits_iff, toNat_ofNat_octet (by omega), toNat_ofNat_octet (by omega)]
  exact ⟨isTail_ofNat _, by omega, by omega, by omega, by omega⟩

theorem admits_ofNat_four (low : 0xFFFF < v) (high : v < 0x110000) :
    admits (UInt8.ofNat (v / 262144 % 8 + 240)) (UInt8.ofNat (v / 4096 % 64 + 128)) = true := by
  rw [admits_iff, toNat_ofNat_octet (by omega), toNat_ofNat_octet (by omega)]
  exact ⟨isTail_ofNat _, by omega, by omega, by omega, by omega⟩

theorem payload_ofNat (n : Nat) : payload (UInt8.ofNat (n % 64 + 128)) = n % 64 := by
  rw [payload, toNat_ofNat_octet (by omega)]
  omega

section
variable (rest)

theorem front_ofNat_one (h : v ≤ 0x7F) :
    front (UInt8.ofNat v) rest = (some (Char.ofNat v), 0) := by
  have hlead : (UInt8.ofNat v).toNat = v := toNat_ofNat_octet (by omega)
  rw [front_one (by omega), hlead]

theorem front_ofNat_two (low : 0x7F < v) (high : v ≤ 0x7FF) :
    front (UInt8.ofNat (v / 64 % 32 + 192)) (UInt8.ofNat (v % 64 + 128) :: rest) =
      (some (Char.ofNat v), 1) := by
  have hlead : (UInt8.ofNat (v / 64 % 32 + 192)).toNat = v / 64 % 32 + 192 :=
    toNat_ofNat_octet (by omega)
  have hv : (v / 64 % 32 + 192) % 32 * 64 + v % 64 = v := by omega
  rw [front_two (by omega) (isTail_ofNat v), payload_ofNat, hlead, hv]

theorem front_ofNat_three (low : 0x7FF < v) (high : v ≤ 0xFFFF)
    (scalar : v < 0xD800 ∨ 0xDFFF < v) :
    front (UInt8.ofNat (v / 4096 % 16 + 224))
      (UInt8.ofNat (v / 64 % 64 + 128) :: UInt8.ofNat (v % 64 + 128) :: rest) =
      (some (Char.ofNat v), 2) := by
  have hlead : (UInt8.ofNat (v / 4096 % 16 + 224)).toNat = v / 4096 % 16 + 224 :=
    toNat_ofNat_octet (by omega)
  have hv : ((v / 4096 % 16 + 224) % 16 * 64 + v / 64 % 64) * 64 + v % 64 = v := by omega
  rw [front_three (by omega) (admits_ofNat_three low high scalar) (isTail_ofNat v), payload_ofNat,
    payload_ofNat, hlead, hv]

theorem front_ofNat_four (low : 0xFFFF < v) (high : v < 0x110000) :
    front (UInt8.ofNat (v / 262144 % 8 + 240))
      (UInt8.ofNat (v / 4096 % 64 + 128) :: UInt8.ofNat (v / 64 % 64 + 128) ::
        UInt8.ofNat (v % 64 + 128) :: rest) = (some (Char.ofNat v), 3) := by
  have hlead : (UInt8.ofNat (v / 262144 % 8 + 240)).toNat = v / 262144 % 8 + 240 :=
    toNat_ofNat_octet (by omega)
  have hv : (((v / 262144 % 8 + 240) % 8 * 64 + v / 4096 % 64) * 64 + v / 64 % 64) * 64 + v % 64 =
      v := by omega
  rw [front_four (by omega) (admits_ofNat_four low high) (isTail_ofNat _) (isTail_ofNat v),
    payload_ofNat, payload_ofNat, payload_ofNat, hlead, hv]

end

/-- What stands at the front of the octets of a character is the character. -/
theorem front_encodeChar (c : Char) : ∃ lead tail, String.utf8EncodeChar c = lead :: tail ∧
    ∀ rest, front lead (tail ++ rest) = (some c, tail.length) := by
  have hvalid : c.val.toNat < 0xD800 ∨ 0xDFFF < c.val.toNat ∧ c.val.toNat < 0x110000 := c.valid
  have hc : Char.ofNat c.val.toNat = c := Char.ofNat_toNat c
  unfold String.utf8EncodeChar
  generalize c.val.toNat = v at *
  subst hc
  simp only
  split
  next hone => exact ⟨_, _, rfl, fun rest => front_ofNat_one rest hone⟩
  next hone =>
    split
    next htwo => exact ⟨_, _, rfl, fun rest => front_ofNat_two rest (Nat.lt_of_not_le hone) htwo⟩
    next htwo =>
      split
      next hthree =>
        exact ⟨_, _, rfl, fun rest =>
          front_ofNat_three rest (Nat.lt_of_not_le htwo) hthree (hvalid.imp_right And.left)⟩
      next hthree =>
        exact ⟨_, _, rfl, fun rest =>
          front_ofNat_four rest (Nat.lt_of_not_le hthree) (by omega)⟩

-- ---------------------------------------------------------------------------
-- The octets of a text
-- ---------------------------------------------------------------------------

/-- What was cut before and the octets passed over have no part in what is
cut behind them. -/
theorem cut_eq (seen : List (Option Char)) (skip : Nat) (bytes : Bytes) :
    cut seen skip bytes = seen.reverse ++ parts (bytes.drop skip) := by
  induction bytes generalizing seen skip with
  | nil => cases skip <;> simp [cut, parts]
  | cons lead rest ih =>
    cases skip with
    | zero => simp [cut, parts, ih]
    | succ skip => exact ih seen skip

theorem parts_cons : parts (lead :: rest) =
    (front lead rest).1 :: parts (rest.drop (front lead rest).2) :=
  cut_eq [(front lead rest).1] (front lead rest).2 rest

theorem parts_char (c : Char) (rest : Bytes) :
    parts (String.utf8EncodeChar c ++ rest) = some c :: parts rest := by
  obtain ⟨lead, tail, hchar, hfront⟩ := front_encodeChar c
  rw [hchar, List.cons_append, parts_cons, hfront, List.drop_left]

theorem parts_encode (text : String) : parts (encode text) = text.toList.map some := by
  rw [encode]
  induction text.toList with
  | nil => rfl
  | cons c cs ih => rw [List.flatMap_cons, parts_char, ih, List.map_cons]

/-- Octets that a text was written with read as the text. -/
theorem lossy_encode (text : String) : lossy (encode text) = text := by
  simp [lossy, parts_encode, Function.comp_def]

theorem decode?_encode (text : String) : decode? (encode text) = some text := by
  simp [decode?, parts_encode]

theorem encode_append (text other : String) : encode (text ++ other) = encode text ++ encode other := by
  simp [encode]

end Rollout.Text
