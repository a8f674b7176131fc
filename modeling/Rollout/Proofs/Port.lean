import Rollout.Proofs.Config.Kinds
import Rollout.Proofs.Config.Precedence
import Rollout.Proofs.Flags

/-!
# Three ways to give a port

A port comes from an environment entry, from a flag or from a document, and
each of them takes the numbers of ports and no other: a number that is too large
is refused and never cut down. The entry and the flag read the same texts
but for white space around them and for a zero with a minus.
-/

namespace Rollout

open Numeral (Decimal Unsigned Signed)
open Decode (Gives)

-- ---------------------------------------------------------------------------
-- Zeros with a minus
-- ---------------------------------------------------------------------------

/-- A minus and one or more zeros. -/
def Numeral.negativeZero (k : Nat) : String :=
  .ofList ('-' :: List.replicate (k + 1) '0')

theorem Numeral.bare_negativeZero (k : Nat) : Text.Bare (negativeZero k) := by
  intro c h
  have hc : c ∈ '-' :: List.replicate (k + 1) '0' := by
    rw [negativeZero, String.toList_ofList] at h
    exact h.elim List.mem_of_mem_head? List.mem_of_getLast?
  rcases List.mem_cons.1 hc with rfl | hzero
  · decide
  · obtain rfl := List.eq_of_mem_replicate hzero
    decide

theorem Numeral.not_blank_negativeZero (k : Nat) : ¬ Text.Blank (negativeZero k) := by
  intro blank
  have hminus : '-' ∈ Text.whiteSpace := blank '-' (by simp [negativeZero])
  exact absurd hminus (by decide)

/-- Of the numerals with a minus only those of zero spell no negative number. -/
theorem Numeral.signed_natCast_iff {text : String} {n : Nat} :
    Signed text n ↔ Unsigned text n ∨ (∃ k, text = negativeZero k) ∧ n = 0 := by
  rw [signed_iff]
  constructor
  · rintro (⟨m, spells, hm⟩ | ⟨digits, m, htext, spells, hm⟩)
    · obtain rfl : n = m := Int.ofNat.inj hm
      exact .inl spells
    · obtain ⟨rfl, rfl⟩ : n = 0 ∧ m = 0 := by omega
      obtain ⟨k, rfl⟩ := decimal_zero_iff.1 spells
      exact .inr ⟨⟨k, by rw [negativeZero, ← htext, String.ofList_toList]⟩, rfl⟩
  · rintro (spells | ⟨⟨k, rfl⟩, rfl⟩)
    · exact .inl ⟨n, spells, rfl⟩
    · exact .inr ⟨_, 0, String.toList_ofList, decimal_zero_iff.2 ⟨k, rfl⟩, rfl⟩

theorem Numeral.not_unsigned_negativeZero (k n : Nat) : ¬ Unsigned (negativeZero k) n := by
  rw [unsigned_iff, negativeZero, String.toList_ofList]
  rintro (spells | ⟨digits, h, -⟩)
  · exact not_decimal_of_head rfl spells
  · cases h

-- ---------------------------------------------------------------------------
-- Environment entries
-- ---------------------------------------------------------------------------

namespace Overrides

variable {others : Overrides} {config : Config} {text other : String} {port : Port}

/-- The entries with this text as that of the port. -/
def withPort (others : Overrides) (text : String) : Overrides :=
  { others with port := some (Text.encode text) }

theorem given_encode : Given (some (Text.encode text)) other ↔
    other = text ∧ ¬ Text.Blank text := by
  constructor
  · rintro ⟨hentry, visible⟩
    obtain rfl := Text.encode_injective (Option.some.inj hentry)
    exact ⟨rfl, visible⟩
  · rintro ⟨rfl, visible⟩
    exact ⟨rfl, visible⟩

/-- A blank entry counts as none. -/
theorem override_of_blank (h : Text.Blank text) :
    Config.override (others.withPort text) config =
      Config.override { others with port := none } config := by
  have hnone : given? (some (Text.encode text)) = none := by
    rw [given?_eq_none_iff]
    intro other hgiven
    exact (given_encode.1 hgiven).2 h
  simp only [Config.override, withPort, hnone]
  rfl

section
variable {core : String} (visible : ¬ Text.Blank text) (trims : Text.Trims text core)
include visible trims

/-- An entry that is not blank is taken for the port it spells between its blanks. -/
theorem override_gives_iff :
    (∃ settled, Config.override (others.withPort text) config = .ok settled ∧
      settled.server.port = port) ↔ Unsigned core port.toNat := by
  have hgiven : given? (others.withPort text).port = some text :=
    given?_eq_some_iff.2 (given_encode.2 ⟨rfl, visible⟩)
  have hread {port : Port} : Port.ofText? (Text.trim text) = some port ↔
      Unsigned core port.toNat := by
    rw [← trims.eq_trim, Port.ofText?_eq_some_iff]
  simp only [Config.override_eq_ok_iff]
  constructor
  · rintro ⟨_, ⟨sound, rfl⟩, rfl⟩
    obtain ⟨read, hsome⟩ := spellsPort_iff.1 (sound text (given?_eq_some_iff.1 hgiven))
    simpa only [Config.overlaid, hgiven, Option.bind_some, hsome, Option.getD_some]
      using hread.1 hsome
  · intro spells
    refine ⟨_, ⟨?_, rfl⟩, ?_⟩
    · intro other hother
      obtain ⟨rfl, -⟩ := given_encode.1 hother
      exact ⟨core, trims, _, Port.toNat_le port, spells⟩
    · simp only [Config.overlaid, hgiven, Option.bind_some, hread.2 spells, Option.getD_some]

theorem override_takes_iff {n : Nat} :
    (∃ settled, Config.override (others.withPort text) config = .ok settled ∧
      settled.server.port.toNat = n) ↔ n ≤ 65535 ∧ Unsigned core n := by
  constructor
  · rintro ⟨settled, hsettled, rfl⟩
    exact ⟨Port.toNat_le _, (override_gives_iff visible trims).1 ⟨settled, hsettled, rfl⟩⟩
  · rintro ⟨small, spells⟩
    obtain ⟨port, rfl⟩ := Port.exists_toNat_eq small
    obtain ⟨settled, hsettled, rfl⟩ := (override_gives_iff visible trims).2 spells
    exact ⟨settled, hsettled, rfl⟩

/-- An entry that is not blank and spells no port is reported as it stands. -/
theorem override_of_no_port (bad : ∀ n ≤ 65535, ¬ Unsigned core n) :
    Config.override (others.withPort text) config =
      .error (.override "DEPLOY_HOOK_PORT" text) := by
  refine Config.override_of_bad (given_encode.2 ⟨rfl, visible⟩) ?_
  rintro ⟨_, found, n, small, spells⟩
  exact bad n small (trims.unique found ▸ spells)

end

theorem override_of_negativeZero (k : Nat) :
    Config.override (others.withPort (Numeral.negativeZero k)) config =
      .error (.override "DEPLOY_HOOK_PORT" (Numeral.negativeZero k)) :=
  override_of_no_port (Numeral.not_blank_negativeZero k) (Numeral.bare_negativeZero k).trims
    fun n _ => Numeral.not_unsigned_negativeZero k n

end Overrides

-- ---------------------------------------------------------------------------
-- Flags
-- ---------------------------------------------------------------------------

namespace Flags

variable {program : Text.Bytes} {text : String} {port : Port}

/-- The words of a command line that gives a port and nothing else. -/
def portLine (program : Text.Bytes) (text : String) : List Text.Bytes :=
  [program, Text.encode ("--port=" ++ text)]

theorem encode_port (text : String) : Text.encode ("--port=" ++ text) =
    Text.encode ("--" ++ Flag.port.name ++ "=") ++ Text.encode text := by
  have hname : Text.encode "--port=" = Text.encode ("--" ++ Flag.port.name ++ "=") := by decide
  rw [Text.encode_append, hname]

theorem parse_portLine_of_signed (spells : Signed text port.toNat) :
    parse (portLine program text) = .ok { port := some port } := by
  have line : Line [.port port] [Text.encode ("--port=" ++ text)] := by
    rw [encode_port]
    exact .cons (.joined (.port spells)) .nil
  rw [portLine, parse_of_line program line]
  rfl

theorem parse_portLine_of_fault {fault : Port.Fault} (h : Port.ofFlag text = .error fault) :
    parse (portLine program text) = .error (.badPort text fault) := by
  have hsettle : Reading.settle {} .port (some (Text.encode text)) =
      .error (.badPort text fault) := by
    simp only [Reading.settle, Option.getD_some, Reading.text_encode, bind, Except.bind, h]
    rfl
  have htake : Reading.takeFlag {} .port (some (Text.encode text)) =
      .error (.badPort text fault) := hsettle
  have hwords := Reading.takeWords_joined {} .port (Text.encode text) []
  rw [← encode_port, htake] at hwords
  exact congrArg (Except.map Reading.flags) hwords

/-- The flag is taken for the port it spells, as its value stands. -/
theorem parse_gives_iff : parse (portLine program text) = .ok { port := some port } ↔
    Signed text port.toNat := by
  refine ⟨fun h => ?_, parse_portLine_of_signed⟩
  cases hport : Port.ofFlag text with
  | error fault => simp [parse_portLine_of_fault hport] at h
  | ok read =>
    have spells := Port.ofFlag_eq_ok_iff.1 hport
    rw [parse_portLine_of_signed spells] at h
    cases h
    exact spells

theorem parse_takes_iff {z : Int} :
    (∃ port : Port, parse (portLine program text) = .ok { port := some port } ∧ port.toNat = z) ↔
      0 ≤ z ∧ z ≤ 65535 ∧ Signed text z := by
  constructor
  · rintro ⟨port, hparse, rfl⟩
    have small := Port.toNat_le port
    exact ⟨by omega, by omega, parse_gives_iff.1 hparse⟩
  · rintro ⟨low, high, spells⟩
    obtain ⟨n, rfl⟩ := Int.eq_ofNat_of_zero_le low
    obtain ⟨port, rfl⟩ := Port.exists_toNat_eq (Int.ofNat_le.1 high)
    exact ⟨port, parse_gives_iff.2 spells, rfl⟩

theorem parse_of_no_port (bad : ∀ z : Int, 0 ≤ z → z ≤ 65535 → ¬ Signed text z) :
    ∃ fault, parse (portLine program text) = .error (.badPort text fault) := by
  cases hport : Port.ofFlag text with
  | error fault => exact ⟨fault, parse_portLine_of_fault hport⟩
  | ok port =>
    have small := Port.toNat_le port
    exact absurd (Port.ofFlag_eq_ok_iff.1 hport) (bad _ (by omega) (by omega))

end Flags

-- ---------------------------------------------------------------------------
-- Documents
-- ---------------------------------------------------------------------------

theorem Value.isSection_of_setting? {value found : Value} {name : String} {place : Nat}
    (h : value.setting? name place = some found) : value.IsSection := by
  unfold setting? at h
  split at h
  next items hitems => exact .inl (by simp [hitems])
  next =>
    obtain ⟨entries, hentries, -⟩ := Option.bind_eq_some_iff.1 h
    exact .inr (by simp [hentries])

/-- A section that gives a port is read if its host is in order and the port is
an integer of the range. -/
theorem ServerConfig.ofValue?_of_port {table value : Value} {config : ServerConfig}
    (given : table.setting? "port" 1 = some value) :
    ofValue? .ignored table = some config ↔
      Gives Value.text? "0.0.0.0" (table.setting? "host" 0) config.host ∧
        value = .integer config.port.toNat := by
  rw [ofValue?_eq_some_iff]
  constructor
  · rintro ⟨-, host, port⟩
    rw [given] at port
    exact ⟨host, Decode.port_eq_some_iff.1 port⟩
  · rintro ⟨host, port⟩
    refine ⟨Value.isSection_of_setting? given, host, ?_⟩
    rw [given]
    exact Decode.port_eq_some_iff.2 port

theorem ServerConfig.exists_ofValue?_of_port {table value : Value}
    (given : table.setting? "port" 1 = some value) :
    (∃ settings, ofValue? .ignored table = some settings) ↔
      (∃ host, Gives Value.text? "0.0.0.0" (table.setting? "host" 0) host) ∧
        ∃ z : Int, 0 ≤ z ∧ z ≤ 65535 ∧ value = .integer z := by
  simp only [ofValue?_of_port given]
  constructor
  · rintro ⟨settings, host, rfl⟩
    have small := Port.toNat_le settings.port
    exact ⟨⟨_, host⟩, _, by omega, by omega, rfl⟩
  · rintro ⟨⟨host, hhost⟩, z, low, high, rfl⟩
    obtain ⟨n, rfl⟩ := Int.eq_ofNat_of_zero_le low
    obtain ⟨port, rfl⟩ := Port.exists_toNat_eq (Int.ofNat_le.1 high)
    exact ⟨{ host, port }, hhost, rfl⟩

-- ---------------------------------------------------------------------------
-- The three together
-- ---------------------------------------------------------------------------

/-- What each way to give a port takes, and for which port. An entry that is not
blank is taken if it is an unsigned numeral of at most 65535 between white space,
and is else reported as it stands. The value of the flag is taken if it is a
numeral from 0 to 65535 with any sign or none. So both take the same texts for
the same ports if nothing is blank around them, but for zeros with a minus, which
the flag alone takes. In a document the port is an integer of this range. -/
theorem Port.given_iff_in_range (program : Text.Bytes) (others : Overrides) (config : Config) :
    (∀ text, Text.Blank text →
      Config.override (others.withPort text) config =
        Config.override { others with port := none } config) ∧
    (∀ text, ¬ Text.Blank text → ∃ core, Text.Trims text core ∧
      (∀ n, (∃ settled, Config.override (others.withPort text) config = .ok settled ∧
        settled.server.port.toNat = n) ↔ n ≤ 65535 ∧ Unsigned core n) ∧
      ((∀ n ≤ 65535, ¬ Unsigned core n) →
        Config.override (others.withPort text) config =
          .error (.override "DEPLOY_HOOK_PORT" text))) ∧
    (∀ text,
      (∀ z : Int, (∃ port : Port,
        Flags.parse (Flags.portLine program text) = .ok { port := some port } ∧ port.toNat = z) ↔
          0 ≤ z ∧ z ≤ 65535 ∧ Signed text z) ∧
      ((∀ z : Int, 0 ≤ z → z ≤ 65535 → ¬ Signed text z) →
        ∃ fault, Flags.parse (Flags.portLine program text) = .error (.badPort text fault))) ∧
    (∀ text, ¬ Text.Blank text → Text.Bare text → (∀ k, text ≠ Numeral.negativeZero k) →
      ∀ port, (∃ settled, Config.override (others.withPort text) config = .ok settled ∧
        settled.server.port = port) ↔
          Flags.parse (Flags.portLine program text) = .ok { port := some port }) ∧
    (∀ k, let text := Numeral.negativeZero k
      Flags.parse (Flags.portLine program text) = .ok { port := some 0 } ∧
        Config.override (others.withPort text) config =
          .error (.override "DEPLOY_HOOK_PORT" text)) ∧
    ∀ table value, table.setting? "port" 1 = some value →
      (∀ settings, ServerConfig.ofValue? .ignored table = some settings →
        value = .integer settings.port.toNat) ∧
      ((∃ settings, ServerConfig.ofValue? .ignored table = some settings) ↔
        (∃ host, Gives Value.text? "0.0.0.0" (table.setting? "host" 0) host) ∧
          ∃ z : Int, 0 ≤ z ∧ z ≤ 65535 ∧ value = .integer z) := by
  refine ⟨fun text => Overrides.override_of_blank, fun text visible => ?_, fun text => ?_,
    fun text visible bare unsigned port => ?_, fun k => ?_, fun table value given => ?_⟩
  · have trims := Text.trims_trim text
    exact ⟨_, trims, fun n => Overrides.override_takes_iff visible trims,
      Overrides.override_of_no_port visible trims⟩
  · exact ⟨fun z => Flags.parse_takes_iff, Flags.parse_of_no_port⟩
  · rw [Overrides.override_gives_iff visible bare.trims, Flags.parse_gives_iff,
      Numeral.signed_natCast_iff]
    constructor
    · exact .inl
    · rintro (spells | ⟨⟨k, htext⟩, -⟩)
      · exact spells
      · exact absurd htext (unsigned k)
  · have spells : Signed (Numeral.negativeZero k) (0 : Port).toNat :=
      Numeral.signed_natCast_iff.2 (.inr ⟨⟨k, rfl⟩, rfl⟩)
    exact ⟨Flags.parse_gives_iff.2 spells, Overrides.override_of_negativeZero k⟩
  · exact ⟨fun settings h => ((ServerConfig.ofValue?_of_port given).1 h).2,
      ServerConfig.exists_ofValue?_of_port given⟩

end Rollout
