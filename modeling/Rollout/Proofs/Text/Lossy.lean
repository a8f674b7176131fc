import Rollout.Path
import Rollout.Proofs.Text.Utf8

/-!
# Octets that are no character

Where octets are read leniently, a part that is no character is cut off as long
as a character can begin with it (`Broken`), and one replacement character
stands for it. `Reads` says what any octets read as, in terms of the octets of
characters alone; `reads_iff` says that `lossy` finds it.
-/

namespace Rollout

namespace Text

/-- Octets that some character begins with, or is. -/
def Opens (bytes : Bytes) : Prop :=
  ∃ c, bytes <+: String.utf8EncodeChar c

/-- `bad` is the maximal part in front of `rest` that is no character: no
character stands there, and `bad` is either a single octet or such as a
character can begin with, and nothing longer is that. -/
structure Broken (bad rest : Bytes) : Prop where
  no_char : ∀ c, ¬ String.utf8EncodeChar c <+: bad ++ rest
  nonempty : bad ≠ []
  begins : bad.length = 1 ∨ Opens bad
  longest : ∀ longer, longer <+: bad ++ rest → Opens longer → longer.length ≤ bad.length

/-- What octets read as, from left to right: each character as itself and each
maximal part that is none as the replacement character. -/
inductive Reads : Bytes → List Char → Prop where
  | nil : Reads [] []
  | char (c : Char) {rest : Bytes} {cs : List Char} (behind : Reads rest cs) :
    Reads (String.utf8EncodeChar c ++ rest) (c :: cs)
  | broken {bad rest : Bytes} {cs : List Char} (part : Broken bad rest) (behind : Reads rest cs) :
    Reads (bad ++ rest) (replacement :: cs)

/-- The octets of one character, by their number. -/
inductive Octets : Bytes → Prop where
  | one {lead : UInt8} (h : lead.toNat ≤ 0x7F) : Octets [lead]
  | two {lead second : UInt8} (h : 0xC2 ≤ lead.toNat ∧ lead.toNat ≤ 0xDF)
    (hsecond : isTail second = true) : Octets [lead, second]
  | three {lead second third : UInt8} (h : 0xE0 ≤ lead.toNat ∧ lead.toNat ≤ 0xEF)
    (hsecond : admits lead second = true) (hthird : isTail third = true) :
    Octets [lead, second, third]
  | four {lead second third fourth : UInt8} (h : 0xF0 ≤ lead.toNat ∧ lead.toNat ≤ 0xF4)
    (hsecond : admits lead second = true) (hthird : isTail third = true)
    (hfourth : isTail fourth = true) : Octets [lead, second, third, fourth]

variable {lead second third fourth : UInt8} {bytes bad other rest more : Bytes} {n k : Nat}
  {c : Char} {cs : List Char} {text : String}

-- ---------------------------------------------------------------------------
-- The octets of one character
-- ---------------------------------------------------------------------------

theorem val_ofNat (h : n < 0xD800 ∨ 0xDFFF < n ∧ n < 0x110000) :
    (Char.ofNat n).val.toNat = n := by
  have hvalid : n.isValidChar := h
  rw [Char.ofNat, dif_pos hvalid]
  rfl

theorem ofNat_eq_octet (h : n = second.toNat) : UInt8.ofNat n = second := by
  rw [h, UInt8.ofNat_toNat]

/-- Octets of the right shape are those of some character. -/
theorem Octets.encodes (h : Octets bytes) : ∃ c, String.utf8EncodeChar c = bytes := by
  cases h with
  | @one lead h =>
    refine ⟨Char.ofNat lead.toNat, ?_⟩
    rw [String.utf8EncodeChar, val_ofNat (by omega), if_pos h, UInt8.ofNat_toNat]
  | @two lead second h hsecond =>
    have hb := isTail_iff.1 hsecond
    refine ⟨Char.ofNat (lead.toNat % 32 * 64 + second.toNat % 64), ?_⟩
    rw [String.utf8EncodeChar, val_ofNat (by omega), if_neg (by omega), if_pos (by omega)]
    simp only [List.cons.injEq, and_true]
    exact ⟨ofNat_eq_octet (by omega), ofNat_eq_octet (by omega)⟩
  | @three lead second third h hsecond hthird =>
    obtain ⟨htail, short, surrogate, -⟩ := admits_iff.1 hsecond
    have hb := isTail_iff.1 htail
    have hc := isTail_iff.1 hthird
    refine ⟨Char.ofNat ((lead.toNat % 16 * 64 + second.toNat % 64) * 64 + third.toNat % 64), ?_⟩
    rw [String.utf8EncodeChar, val_ofNat (by omega), if_neg (by omega), if_neg (by omega),
      if_pos (by omega)]
    simp only [List.cons.injEq, and_true]
    exact ⟨ofNat_eq_octet (by omega), ofNat_eq_octet (by omega), ofNat_eq_octet (by omega)⟩
  | @four lead second third fourth h hsecond hthird hfourth =>
    obtain ⟨htail, -, -, short, past⟩ := admits_iff.1 hsecond
    have hb := isTail_iff.1 htail
    have hc := isTail_iff.1 hthird
    have hd := isTail_iff.1 hfourth
    refine ⟨Char.ofNat (((lead.toNat % 8 * 64 + second.toNat % 64) * 64 + third.toNat % 64) * 64 +
      fourth.toNat % 64), ?_⟩
    rw [String.utf8EncodeChar, val_ofNat (by omega), if_neg (by omega), if_neg (by omega),
      if_neg (by omega)]
    simp only [List.cons.injEq, and_true]
    exact ⟨ofNat_eq_octet (by omega), ofNat_eq_octet (by omega), ofNat_eq_octet (by omega),
      ofNat_eq_octet (by omega)⟩

theorem octets_encodeChar (c : Char) : Octets (String.utf8EncodeChar c) := by
  have hvalid : c.val.toNat < 0xD800 ∨ 0xDFFF < c.val.toNat ∧ c.val.toNat < 0x110000 := c.valid
  unfold String.utf8EncodeChar
  generalize c.val.toNat = v at *
  simp only
  split
  next hone => exact .one (by rw [toNat_ofNat_octet (by omega)]; exact hone)
  next hone =>
    split
    next htwo => exact .two (by rw [toNat_ofNat_octet (by omega)]; omega) (isTail_ofNat v)
    next htwo =>
      split
      next hthree =>
        exact .three (by rw [toNat_ofNat_octet (by omega)]; omega)
          (admits_ofNat_three (Nat.lt_of_not_le htwo) hthree (hvalid.imp_right And.left))
          (isTail_ofNat v)
      next hthree =>
        exact .four (by rw [toNat_ofNat_octet (by omega)]; omega)
          (admits_ofNat_four (Nat.lt_of_not_le hthree) (by omega)) (isTail_ofNat _)
          (isTail_ofNat v)

-- ---------------------------------------------------------------------------
-- What a character can begin with
-- ---------------------------------------------------------------------------

theorem opens_iff : Opens bytes ↔ ∃ octets, Octets octets ∧ bytes <+: octets := by
  constructor
  · rintro ⟨c, h⟩
    exact ⟨_, octets_encodeChar c, h⟩
  · rintro ⟨octets, hoctets, h⟩
    obtain ⟨c, rfl⟩ := hoctets.encodes
    exact ⟨c, h⟩

theorem opens_second : Opens [lead, second] ↔
    (0xC2 ≤ lead.toNat ∧ lead.toNat ≤ 0xDF) ∧ isTail second = true ∨
      (0xE0 ≤ lead.toNat ∧ lead.toNat ≤ 0xF4) ∧ admits lead second = true := by
  rw [opens_iff]
  constructor
  · rintro ⟨octets, h, hpre⟩
    cases h <;> simp only [List.cons_prefix_cons, List.prefix_nil, reduceCtorEq, and_false] at hpre
    case two h hsecond =>
      obtain ⟨rfl, rfl, -⟩ := hpre
      exact .inl ⟨h, hsecond⟩
    case three h hsecond hthird =>
      obtain ⟨rfl, rfl, -⟩ := hpre
      exact .inr ⟨by omega, hsecond⟩
    case four h hsecond hthird hfourth =>
      obtain ⟨rfl, rfl, -⟩ := hpre
      exact .inr ⟨by omega, hsecond⟩
  · rintro (⟨h, hsecond⟩ | ⟨⟨low, high⟩, hsecond⟩)
    · exact ⟨_, .two h hsecond, List.prefix_rfl⟩
    · rcases Nat.lt_or_ge lead.toNat 0xF0 with h | h
      · exact ⟨[lead, second, 0x80], .three ⟨low, by omega⟩ hsecond (by decide), [0x80], rfl⟩
      · exact ⟨[lead, second, 0x80, 0x80], .four ⟨h, high⟩ hsecond (by decide) (by decide),
          [0x80, 0x80], rfl⟩

theorem opens_third : Opens [lead, second, third] ↔
    (0xE0 ≤ lead.toNat ∧ lead.toNat ≤ 0xF4) ∧ admits lead second = true ∧ isTail third = true := by
  rw [opens_iff]
  constructor
  · rintro ⟨octets, h, hpre⟩
    cases h <;> simp only [List.cons_prefix_cons, List.prefix_nil, reduceCtorEq, and_false] at hpre
    case three h hsecond hthird =>
      obtain ⟨rfl, rfl, rfl, -⟩ := hpre
      exact ⟨by omega, hsecond, hthird⟩
    case four h hsecond hthird hfourth =>
      obtain ⟨rfl, rfl, rfl, -⟩ := hpre
      exact ⟨by omega, hsecond, hthird⟩
  · rintro ⟨⟨low, high⟩, hsecond, hthird⟩
    rcases Nat.lt_or_ge lead.toNat 0xF0 with h | h
    · exact ⟨_, .three ⟨low, by omega⟩ hsecond hthird, List.prefix_rfl⟩
    · exact ⟨[lead, second, third, 0x80], .four ⟨h, high⟩ hsecond hthird (by decide), [0x80], rfl⟩

theorem opens_fourth (h : Opens [lead, second, third, fourth]) :
    (0xF0 ≤ lead.toNat ∧ lead.toNat ≤ 0xF4) ∧ isTail fourth = true := by
  obtain ⟨octets, hoctets, hpre⟩ := opens_iff.1 h
  cases hoctets <;>
    simp only [List.cons_prefix_cons, List.prefix_nil, reduceCtorEq, and_false] at hpre
  case four h hsecond hthird hfourth =>
    obtain ⟨rfl, rfl, rfl, rfl, -⟩ := hpre
    exact ⟨h, hfourth⟩

-- ---------------------------------------------------------------------------
-- The part at the front
-- ---------------------------------------------------------------------------

/-- What can stand at the front of `lead` and the octets behind it: a character,
octets that end inside one, or octets that the next one shows to be none. -/
inductive Found (lead : UInt8) : Bytes → Option Char × Nat → Prop where
  | char (c : Char) (tail rest : Bytes) (octets : Octets (lead :: tail)) :
    Found lead (tail ++ rest) (some c, tail.length)
  | short (tail : Bytes) (begins : tail = [] ∨ Opens (lead :: tail)) :
    Found lead tail (none, tail.length)
  | wrong (tail : Bytes) (next : UInt8) (rest : Bytes) (begins : tail = [] ∨ Opens (lead :: tail))
    (stops : ¬ Opens (lead :: (tail ++ [next]))) :
    Found lead (tail ++ next :: rest) (none, tail.length)

theorem Found.alone : Found lead [] (none, 0) :=
  .short [] (.inl rfl)

theorem Found.at_once (stops : ¬ Opens [lead, second]) : Found lead (second :: rest) (none, 0) :=
  .wrong [] second rest (.inl rfl) stops

theorem front_found (lead : UInt8) (rest : Bytes) : Found lead rest (front lead rest) := by
  -- One case for each branch: by the number of octets that `lead` announces, and
  -- by how many of those behind it go on with the character.
  fun_cases front lead rest <;>
    simp only [UInt8.lt_iff_toNat_lt, UInt8.le_iff_toNat_le, Bool.and_eq_true, decide_eq_true_eq,
      Bool.not_eq_true', Bool.not_eq_true, Bool.not_eq_false, UInt8.reduceToNat] at *
  case case1 ascii => exact .char _ [] rest (.one (by omega))
  case case2 b rest hb _ two => exact .char _ [b] rest (.two two hb)
  case case3 b rest _ two hb => exact .at_once (by grind [opens_second])
  case case4 => exact .alone
  case case5 b c rest _ _ three hb => exact .at_once (by grind [opens_second])
  case case6 b c rest hc _ _ three hb => exact .char _ [b, c] rest (.three three hb hc)
  case case7 b c rest _ _ three hb hc =>
    exact .wrong [b] c rest (.inr (opens_second.2 (by grind))) (by grind [opens_third])
  case case8 b _ _ three =>
    split
    next hb => exact .short [b] (.inr (opens_second.2 (by grind)))
    next hb => exact .at_once (by grind [opens_second])
  case case9 => exact .alone
  case case10 b c d rest _ _ _ four hb => exact .at_once (by grind [opens_second])
  case case11 b c d rest _ _ _ four hb hc =>
    exact .wrong [b] c (d :: rest) (.inr (opens_second.2 (by grind))) (by grind [opens_third])
  case case12 b c d rest hd _ _ _ four hb hc => exact .char _ [b, c, d] rest (.four four hb hc hd)
  case case13 b c d rest _ _ _ four hb hc hd =>
    exact .wrong [b, c] d rest (.inr (opens_third.2 (by grind))) (by grind [opens_fourth])
  case case14 b c _ _ _ four =>
    split
    next hb => exact .at_once (by grind [opens_second])
    next hb =>
      split
      next hc => exact .short [b, c] (.inr (opens_third.2 (by grind)))
      next hc =>
        exact .wrong [b] c [] (.inr (opens_second.2 (by grind))) (by grind [opens_third])
  case case15 b _ _ _ four =>
    split
    next hb => exact .short [b] (.inr (opens_second.2 (by grind)))
    next hb => exact .at_once (by grind [opens_second])
  case case16 => exact .alone
  case case17 ascii two three four =>
    cases rest with
    | nil => exact .alone
    | cons b rest => exact .at_once (by grind [opens_second])

theorem front_char (h : front lead rest = (some c, k)) :
    ∃ tail more, rest = tail ++ more ∧ String.utf8EncodeChar c = lead :: tail := by
  have hfound := front_found lead rest
  rw [h] at hfound
  cases hfound with
  | char _ tail more octets =>
    -- The octets are those of some character, and that is what stands in front.
    obtain ⟨other, hother⟩ := octets.encodes
    obtain ⟨first, behind, hchar, hfront⟩ := front_encodeChar other
    obtain ⟨rfl, rfl⟩ := List.cons.inj (hchar.symm.trans hother)
    obtain ⟨hc, -⟩ := Prod.mk.inj ((hfront more).symm.trans h)
    cases hc
    exact ⟨_, more, rfl, hother⟩

/-- Characters are cut off the octets that they are written with and no others. -/
theorem eq_of_parts (h : parts bytes = cs.map some) :
    bytes = cs.flatMap String.utf8EncodeChar := by
  induction cs generalizing bytes with
  | nil =>
    cases bytes with
    | nil => rfl
    | cons lead rest => simp [parts_cons] at h
  | cons c cs ih =>
    cases bytes with
    | nil => simp [parts, cut] at h
    | cons lead rest =>
      have hfront : front lead rest = (some c, (front lead rest).2) := by
        rw [parts_cons, List.map_cons] at h
        exact Prod.ext (List.cons.inj h).1 rfl
      obtain ⟨tail, more, rfl, hchar⟩ := front_char hfront
      rw [← List.cons_append, ← hchar, parts_char, List.map_cons] at h
      rw [← List.cons_append, ← hchar, ih (List.cons.inj h).2, List.flatMap_cons]

theorem eq_map_some_of_all {found : List (Option Char)} (h : found.all Option.isSome = true) :
    found = (found.filterMap id).map some := by
  induction found with
  | nil => rfl
  | cons part rest ih =>
    obtain ⟨hpart, hrest⟩ := (Bool.and_eq_true ..).mp h
    obtain ⟨c, rfl⟩ := Option.isSome_iff_exists.1 hpart
    exact congrArg (some c :: ·) (ih hrest)

/-- Octets read strictly as the one text that they are written for. -/
theorem decode?_eq_some_iff : decode? bytes = some text ↔ bytes = encode text := by
  constructor
  · intro h
    simp only [decode?, Option.ite_none_right_eq_some, Option.some.injEq] at h
    obtain ⟨hall, rfl⟩ := h
    rw [encode, String.toList_ofList]
    exact eq_of_parts (eq_map_some_of_all hall)
  · rintro rfl
    exact decode?_encode text

theorem decode?_eq_none_iff : decode? bytes = none ↔ ∀ text, bytes ≠ encode text := by
  simp only [Option.eq_none_iff_forall_ne_some, ne_eq, decode?_eq_some_iff]

theorem encode_injective : Function.Injective encode := by
  intro text other h
  exact Option.some.inj ((decode?_encode text).symm.trans (decode?_eq_some_iff.2 h))

theorem no_char_of_front (h : front lead rest = (none, k)) (c : Char) :
    ¬ String.utf8EncodeChar c <+: lead :: rest := by
  rintro ⟨behind, hsplit⟩
  obtain ⟨first, tail, hchar, hfront⟩ := front_encodeChar c
  rw [hchar, List.cons_append] at hsplit
  obtain ⟨rfl, rfl⟩ := List.cons.inj hsplit
  cases (hfront behind).symm.trans h

theorem Opens.of_prefix (h : Opens bytes) (hpre : other <+: bytes) : Opens other :=
  h.imp fun _ => hpre.trans

theorem front_broken (h : front lead rest = (none, k)) :
    ∃ tail more, rest = tail ++ more ∧ k = tail.length ∧ Broken (lead :: tail) more := by
  have no_char := no_char_of_front h
  have hfound := front_found lead rest
  rw [h] at hfound
  cases hfound with
  | short tail begins =>
    refine ⟨rest, [], (List.append_nil _).symm, rfl, ?_, List.cons_ne_nil _ _, ?_, ?_⟩
    · simpa using no_char
    · exact begins.imp_left fun hnil => by simp [hnil]
    · intro longer hpre _
      simpa using hpre.length_le
  | wrong tail next more begins stops =>
    refine ⟨tail, next :: more, rfl, rfl, no_char, List.cons_ne_nil _ _, ?_, ?_⟩
    · exact begins.imp_left fun hnil => by simp [hnil]
    · intro longer hpre hopens
      -- Something longer would take in the octet that no character goes on with.
      have hnext : lead :: (tail ++ [next]) <+: lead :: tail ++ next :: more := ⟨more, by simp⟩
      refine Nat.le_of_not_lt fun hlt => stops (hopens.of_prefix ?_)
      exact List.prefix_of_prefix_length_le hnext hpre (by simpa using Nat.succ_le_of_lt hlt)

theorem Broken.length_le (h : Broken bad rest) (hother : Broken other more)
    (heq : bad ++ rest = other ++ more) : bad.length ≤ other.length := by
  rcases h.begins with hone | hopens
  · have hpos := List.length_pos_iff.2 hother.nonempty
    omega
  · exact hother.longest bad (heq ▸ List.prefix_append bad rest) hopens

/-- Octets have one maximal part at most that is no character. -/
theorem Broken.unique (h : Broken bad rest) (hother : Broken other more)
    (heq : bad ++ rest = other ++ more) : bad = other ∧ rest = more :=
  List.append_inj heq (Nat.le_antisymm (h.length_le hother heq) (hother.length_le h heq.symm))

-- ---------------------------------------------------------------------------
-- All parts
-- ---------------------------------------------------------------------------

theorem lossy_nil : (lossy []).toList = [] := by
  simp [lossy, parts, cut]

theorem lossy_char (c : Char) (rest : Bytes) :
    (lossy (String.utf8EncodeChar c ++ rest)).toList = c :: (lossy rest).toList := by
  simp [lossy, parts_char]

theorem lossy_broken (h : Broken bad rest) :
    (lossy (bad ++ rest)).toList = replacement :: (lossy rest).toList := by
  obtain ⟨lead, tail, rfl⟩ := List.exists_cons_of_ne_nil h.nonempty
  cases hfront : front lead (tail ++ rest) with
  | mk found k =>
    cases found with
    | some c =>
      obtain ⟨other, more, hsplit, hchar⟩ := front_char hfront
      exact absurd ⟨more, by simp [hchar, hsplit]⟩ (h.no_char c)
    | none =>
      obtain ⟨other, more, hsplit, rfl, hbroken⟩ := front_broken hfront
      obtain ⟨hbad, rfl⟩ := h.unique hbroken (by simp [hsplit])
      obtain rfl : tail = other := (List.cons.inj hbad).2
      simp [lossy, parts_cons, hfront]

/-- Any octets read as the text that `lossy` gives. -/
theorem reads_lossy (bytes : Bytes) : Reads bytes (lossy bytes).toList := by
  match bytes with
  | [] => exact lossy_nil ▸ .nil
  | lead :: rest =>
    cases hfront : front lead rest with
    | mk found k =>
      cases found with
      | some c =>
        obtain ⟨tail, more, hsplit, hchar⟩ := front_char hfront
        have hless : more.length < (lead :: rest).length := by
          simp only [hsplit, List.length_cons, List.length_append]
          omega
        have behind := reads_lossy more
        rw [hsplit, ← List.cons_append, ← hchar, lossy_char]
        exact .char c behind
      | none =>
        obtain ⟨tail, more, hsplit, -, hbroken⟩ := front_broken hfront
        have hless : more.length < (lead :: rest).length := by
          simp only [hsplit, List.length_cons, List.length_append]
          omega
        have behind := reads_lossy more
        rw [hsplit, ← List.cons_append, lossy_broken hbroken]
        exact .broken hbroken behind
termination_by bytes.length

theorem reads_iff : Reads bytes cs ↔ cs = (lossy bytes).toList := by
  constructor
  · intro h
    induction h with
    | nil => exact lossy_nil.symm
    | char c _ ih => rw [lossy_char, ih]
    | broken part _ ih => rw [lossy_broken part, ih]
  · rintro rfl
    exact reads_lossy bytes

-- The octets of a surrogate make three parts, those of a character cut off one.
example : lossy [0xED, 0xA0, 0x80] = "\uFFFD\uFFFD\uFFFD" := by decide

example : lossy [0xF0, 0x9F, 0x98] = "\uFFFD" := by decide

/-- Octets that are no text throughout leave a mark. -/
theorem Reads.marked (h : Reads bytes cs) :
    encode (String.ofList cs) = bytes ∨ replacement ∈ cs := by
  induction h with
  | nil => exact .inl rfl
  | char c _ ih =>
    refine ih.imp (fun heq => ?_) (.tail _)
    simpa [encode] using heq
  | broken => exact .inr (.head _)

end Text

/-- A path is shown as its octets read. -/
theorem Path.reads_display (path : Path) : Text.Reads path.octets path.display.toList :=
  Text.reads_lossy path.octets

end Rollout
