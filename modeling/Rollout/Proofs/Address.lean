import Rollout.Proofs.Hook
import Rollout.Proofs.Numeral
import Rollout.Proofs.Text.Splitting

/-!
# An address names host and port

An address is a host, a colon and a port. The host may have colons and digits of its
own. The port has no colon and is spelled in one way, so the two meet at the last
colon, and a program that starts tells by the address where it asks to listen.
-/

namespace Rollout

open Numeral (Canonical)
open Text (splitLast?)

namespace Http

/-- Split at its last colon, the text is this host and this port. -/
def Names (text host : String) (port : Port) : Prop :=
  ∃ digits, splitLast? ':' text = some (host, digits) ∧ Canonical digits.toList port.toNat

variable {text host other : String} {port number : Port} {a b endpoint : Endpoint}

-- ---------------------------------------------------------------------------
-- Addresses
-- ---------------------------------------------------------------------------

theorem Names.unique (h : Names text host port) (hother : Names text other number) :
    other = host ∧ number = port := by
  obtain ⟨digits, hsplit, canonical⟩ := h
  obtain ⟨others, hothers, canonical_other⟩ := hother
  cases hothers.symm.trans hsplit
  exact ⟨rfl, UInt16.toNat_inj.1 (canonical.spells.unique canonical_other.spells)⟩

theorem names_iff : Names text endpoint.host endpoint.port ↔ text = endpoint.address := by
  have hdigits : (toString endpoint.port.toNat).toList = Nat.toDigits 10 endpoint.port.toNat :=
    Nat.toList_repr
  constructor
  · rintro ⟨digits, hsplit, canonical⟩
    have hport : digits = toString endpoint.port.toNat :=
      String.toList_inj.1 (canonical.eq_toDigits.trans hdigits.symm)
    rw [Text.eq_of_splitLast? hsplit, hport]
    rfl
  · rintro rfl
    have canonical : Canonical (toString endpoint.port.toNat).toList endpoint.port.toNat :=
      Numeral.canonical_iff.2 hdigits
    have free : ':' ∉ (toString endpoint.port.toNat).toList := canonical.spells.free rfl
    exact ⟨_, Text.splitLast?_append free, canonical⟩

theorem names_address (endpoint : Endpoint) :
    Names endpoint.address endpoint.host endpoint.port :=
  names_iff.2 rfl

theorem names_address_iff : Names endpoint.address host port ↔
    host = endpoint.host ∧ port = endpoint.port := by
  constructor
  · exact (names_address endpoint).unique
  · rintro ⟨rfl, rfl⟩
    exact names_address endpoint

theorem address_eq_iff : a.address = b.address ↔ a.host = b.host ∧ a.port = b.port := by
  constructor
  · intro h
    have hb : Names b.address a.host a.port := h ▸ names_address a
    exact names_address_iff.1 hb
  · rintro ⟨hhost, hport⟩
    rw [Endpoint.address, hhost, hport, Endpoint.address]

theorem Endpoint.bind_eq (endpoint : Endpoint) (network : Network) : endpoint.bind network =
    (network endpoint.host endpoint.port).mapError (.bind endpoint.address) := by
  unfold bind
  cases network endpoint.host endpoint.port <;> rfl

end Http

open Http (Endpoint Names Network)

-- ---------------------------------------------------------------------------
-- What is told of them
-- ---------------------------------------------------------------------------

theorem Failure.message_bind_eq_iff {a b : Endpoint} {source reason : IoError} :
    (bind a.address source).message = (bind b.address reason).message ↔
      a.host = b.host ∧ a.port = b.port := by
  rw [message, message, String.append_right_inj, Http.address_eq_iff]

namespace Hook

variable {flags : Flags} {around : Surroundings} {network : Network} {config : Config}
  {address : String} {source : IoError}

theorem message_starting_eq_iff {a b : Endpoint} {deploy : DeployConfig} :
    (starting a deploy).message = (starting b deploy).message ↔
      a.host = b.host ∧ a.port = b.port := by
  simp only [starting, String.append_left_inj, String.append_right_inj, Http.address_eq_iff]

/-- A launch comes to what the network answers at the endpoint of the settings. -/
theorem listener_of_settled (h : (flags.settings around.file around.overrides).2 = .ok config) :
    (launch flags { around with network }).2.map (·.listener) =
      (network config.server.host config.server.port).mapError
        (.bind (endpoint flags config).address) := by
  rw [launch_of_settled h, Endpoint.bind_eq, endpoint]
  cases network config.server.host config.server.port <;> rfl

theorem launch_congr (h : (flags.settings around.file around.overrides).2 = .ok config)
    (hnetwork : network config.server.host config.server.port =
      around.network config.server.host config.server.port) :
    launch flags { around with network } = launch flags around := by
  have haround : launch flags { around with network := around.network } = _ := launch_of_settled h
  rw [launch_of_settled h, Endpoint.bind_eq, endpoint, hnetwork]
  rw [Endpoint.bind_eq, endpoint] at haround
  exact haround.symm

/-- Nothing but the network refuses an address. -/
theorem refused_of_launch (h : (launch flags around).2 = .error (.bind address source)) :
    ∃ config, (flags.settings around.file around.overrides).2 = .ok config ∧
      address = (endpoint flags config).address ∧
      around.network config.server.host config.server.port = .error source := by
  cases hsettings : (flags.settings around.file around.overrides).2 with
  | error error =>
    have hlaunch : launch flags { around with network := around.network } = _ :=
      launch_of_unsettled hsettings
    rw [hlaunch] at h
    cases h
  | ok config =>
    have hlistener : (launch flags { around with network := around.network }).2.map
        (·.listener) = _ := listener_of_settled hsettings
    rw [h] at hlistener
    cases hnetwork : around.network config.server.host config.server.port with
    | ok listener =>
      rw [hnetwork] at hlistener
      cases hlistener
    | error reason =>
      rw [hnetwork] at hlistener
      cases hlistener
      exact ⟨config, rfl, rfl, hnetwork⟩

/-- An address identifies the host and the port that it was made of, whatever the host
is. It is the one text that, split at its last colon, is this host and the digits of
this port without needless zeros. A start is announced with the address of what the
settings come to, the network is asked for that and nothing else, and an address that
is told to be refused names what the network refused. Two such messages, of a start
under the same deploy settings or of a refusal, differ wherever host or port do. -/
theorem address_identifies :
    (∀ (text : String) (endpoint : Endpoint),
      (∃ digits, splitLast? ':' text = some (endpoint.host, digits) ∧
        Canonical digits.toList endpoint.port.toNat) ↔ text = endpoint.address) ∧
    (∀ a b : Endpoint, a.address = b.address ↔ a.host = b.host ∧ a.port = b.port) ∧
    (∀ (a b : Endpoint) (deploy : DeployConfig),
      (starting a deploy).message = (starting b deploy).message ↔
        a.host = b.host ∧ a.port = b.port) ∧
    (∀ (a b : Endpoint) (source reason : IoError),
      (Failure.bind a.address source).message = (Failure.bind b.address reason).message ↔
        a.host = b.host ∧ a.port = b.port) ∧
    ∀ flags around,
      (∀ config, (flags.settings around.file around.overrides).2 = .ok config →
        ∃ address,
          (∀ host port, Names address host port ↔
            host = config.server.host ∧ port = config.server.port) ∧
          ∀ network, let launched := launch flags { around with network }
            launched.1.getLast? = some {
              level := .info
              message := "Starting deploy hook on " ++ address ++ " (workdir: " ++
                config.deploy.dir.display ++ ", remote: " ++ config.deploy.remote ++ ")" } ∧
            launched.2.map (·.listener) =
              (network config.server.host config.server.port).mapError (.bind address)) ∧
      ∀ address source, (launch flags around).2 = .error (.bind address source) →
        ∃ host port, (∀ other number, Names address other number ↔ other = host ∧ number = port) ∧
          around.network host port = .error source ∧
          ∀ network, network host port = around.network host port →
            launch flags { around with network } = launch flags around := by
  refine ⟨fun text endpoint => Http.names_iff, fun a b => Http.address_eq_iff,
    fun a b deploy => message_starting_eq_iff, fun a b source reason => Failure.message_bind_eq_iff,
    fun flags around => ⟨fun config h => ?_, fun address source h => ?_⟩⟩
  · refine ⟨(endpoint flags config).address, fun host port => Http.names_address_iff,
      fun network => ⟨?_, listener_of_settled h⟩⟩
    rw [launch_of_settled h, List.getLast?_concat]
    rfl
  · obtain ⟨config, hsettings, rfl, hnetwork⟩ := refused_of_launch h
    exact ⟨_, _, fun other number => Http.names_address_iff, hnetwork,
      fun network => launch_congr hsettings⟩

/-- The host has colons and ends in digits; listening there is announced, and refused
there alone. -/
theorem address_identifies_colons :
    let flags : Flags := { host := some "fe80::1:80", port := some 8080 }
    let around : Surroundings := {
      file := .missing
      overrides := {}
      network := fun host port =>
        if host = "fe80::1:80" ∧ port = 8080 then .error .accessDenied else .ok ⟨host, port⟩
      startedAt := "now" }
    (launch flags around).1.getLast? = some {
      level := .info
      message := "Starting deploy hook on fe80::1:80:8080 " ++
        "(workdir: /home/dmp/dmp-graph, remote: origin)" } ∧
    (launch flags around).2 = .error (.bind "fe80::1:80:8080" .accessDenied) ∧
    Names "fe80::1:80:8080" "fe80::1:80" 8080 ∧
    ¬ Names "fe80::1:80:8080" "fe80::1" 80 ∧
    around.network "fe80::1:80" 8080 = .error .accessDenied := by
  intro flags around
  have settled : (Flags.settings { host := some "fe80::1:80", port := some 8080 } .missing {}).2 =
      .ok { server := { host := "fe80::1:80", port := 8080 } } := by
    simp only [Flags.settings, Config.load, Config.ofFile]
    rfl
  have refused : (launch flags around).2 = .error (.bind "fe80::1:80:8080" .accessDenied) := by
    refine (congrArg Prod.snd (@launch_of_settled flags around around.network _ settled)).trans ?_
    simp only [flags, around]
    rfl
  obtain ⟨named, -, -, -, told⟩ := address_identifies
  obtain ⟨address, names_told, announced⟩ := (told flags around).1 _ settled
  obtain ⟨host, port, names, hnetwork, -⟩ := (told flags around).2 _ _ refused
  have here : Names "fe80::1:80:8080" "fe80::1:80" 8080 :=
    (named _ { host := "fe80::1:80", port := 8080 }).2 rfl
  obtain rfl : address = "fe80::1:80:8080" :=
    (named _ { host := "fe80::1:80", port := 8080 }).1 ((names_told _ _).2 ⟨rfl, rfl⟩)
  obtain ⟨rfl, rfl⟩ := (names _ _).1 here
  exact ⟨(announced around.network).1, refused, here,
    fun h => absurd ((names _ _).1 h).2 (by decide), hnetwork⟩

end Hook

end Rollout
