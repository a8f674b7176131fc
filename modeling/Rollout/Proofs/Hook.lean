import Rollout.Hook
import Rollout.Proofs.Config.Precedence
import Rollout.Proofs.Http.Serving

/-!
# The whole program, phase by phase

One set of settings is announced, listened at and served under. Where there are
none, or where nothing can listen, that is all there is to a run; else its server
says of itself where it has come to, and comes to its end once it gets a signal
and its requests get their turns.
-/

namespace Rollout.Hook

open Http (Action Listener Network Service Traffic)

variable {World : Type} {system : System World} {flags : Flags} {around : Surroundings}
  {network : Network} {actions : List Action} {world : World} {config : Config}

/-- Loading settings says no more than that the file is missing. -/
theorem settings_log (flags : Flags) (file : FileState) (overrides : Overrides) :
    ∀ event ∈ (flags.settings file overrides).1, event.level = .debug := by
  intro event hm
  have hlog : event ∈ if file = .missing then [Config.missing flags.config] else [] := hm
  split at hlog
  · rw [List.mem_singleton.1 hlog]
    rfl
  · cases hlog

section
variable {error : ConfigError}
  (h : (flags.settings around.file around.overrides).2 = .error error)
include h

theorem launch_of_unsettled :
    launch flags { around with network } =
      ((flags.settings around.file around.overrides).1, .error (.config error)) := by
  have hsettings : flags.settings around.file around.overrides =
      ((flags.settings around.file around.overrides).1, .error error) := Prod.ext rfl h
  rw [launch, hsettings]

theorem run_of_unsettled :
    run system flags { around with network } actions world =
      ((flags.settings around.file around.overrides).1, .error (.config error)) := by
  rw [run, launch_of_unsettled h]

end

section
variable (h : (flags.settings around.file around.overrides).2 = .ok config)
include h

theorem launch_of_settled :
    launch flags { around with network } =
      ((flags.settings around.file around.overrides).1 ++
          [starting (endpoint flags config) config.deploy],
        ((endpoint flags config).bind network).map fun listener =>
          { endpoint := endpoint flags config
            listener
            service := .ofConfig config.deploy around.startedAt }) := by
  have hsettings : flags.settings around.file around.overrides =
      ((flags.settings around.file around.overrides).1, .ok config) := Prod.ext rfl h
  rw [launch, hsettings]

theorem run_of_refused {source : IoError}
    (hbind : network config.server.host config.server.port = .error source) :
    run system flags { around with network } actions world =
      ((flags.settings around.file around.overrides).1 ++
          [starting (endpoint flags config) config.deploy],
        .error (.bind (endpoint flags config).address source)) := by
  have hrefused : (endpoint flags config).bind network =
      .error (.bind (endpoint flags config).address source) := by
    rw [Http.Endpoint.bind, endpoint, hbind]
  rw [run, launch_of_settled h, hrefused]
  rfl

theorem run_of_bound {listener : Listener} {traffic : Traffic World}
    (hbind : network config.server.host config.server.port = .ok listener)
    (hserve : Traffic.run system (.ofConfig config.deploy around.startedAt)
      { world, log := [listener.listening flags.debug] } actions = traffic) :
    run system flags { around with network } actions world =
      ((flags.settings around.file around.overrides).1 ++
          [starting (endpoint flags config) config.deploy] ++ traffic.log,
        .ok traffic) := by
  have hbound : (endpoint flags config).bind network = .ok listener := by
    rw [Http.Endpoint.bind, endpoint, hbind]
  rw [run, launch_of_settled h, hbound, ← hserve]
  rfl

end

/-- A run, whatever the flags, the environment and the file are and whatever
happens to its server, as long as only signals stop that. Without settings it
ends with the fault that counts, and neither says more nor listens. Else it
announces the settings that the flags, the environment and the file come to, and
then listens where they say and nowhere else. If it cannot, it ends with that
address and says no more. If it can, it serves under these settings, and is over
without a fault once its server is through. -/
theorem run_phases {World : Type} (system : System World) (flags : Flags) (around : Surroundings)
    (actions : List Action) (world : World) (signals : .stop none ∉ actions) :
    let settings := flags.settings around.file around.overrides
    (∀ event ∈ settings.1, event.level = .debug) ∧
    (∀ error, settings.2 = .error error →
      Config.Fails flags.config around.file around.overrides error ∧
      ∀ network, run system flags { around with network } actions world =
        (settings.1, .error (.config error))) ∧
    ∀ config, settings.2 = .ok config →
      (∃ base, around.file.Provides base ∧ Config.Settles flags around.overrides base config) ∧
      ∃ shown : String, Text.Reads config.deploy.dir.octets shown.toList ∧
      let address := config.server.host ++ ":" ++ toString config.server.port.toNat
      let announced := settings.1 ++ [{
        level := .info
        message := "Starting deploy hook on " ++ address ++ " (workdir: " ++ shown ++
          ", remote: " ++ config.deploy.remote ++ ")" }]
      (∀ network source, network config.server.host config.server.port = .error source →
        run system flags { around with network } actions world =
          (announced, .error (.bind address source))) ∧
      ∀ listener : Listener, ∃ (traffic : Traffic World) (asked : List (Nat × Request)),
        Http.Serves config.deploy around.startedAt {
          level := .info
          message := "HTTP server listening on http://" ++
            (listener.host ++ ":" ++ toString listener.port.toNat) ++ " (debug: " ++
            (if flags.debug then "true" else "false") ++ ")" } actions asked traffic ∧
        ∀ network, network config.server.host config.server.port = .ok listener →
          run system flags { around with network } actions world =
            (announced ++ traffic.log, .ok traffic) ∧
          run system.recording flags { around with network } actions (world, []) =
            (announced ++ traffic.log,
              .ok (traffic.inWorld (traffic.world, asked.map (·.2)))) := by
  intro settings
  refine ⟨settings_log flags around.file around.overrides, fun error h => ?_, fun config h => ?_⟩
  · exact ⟨Config.settings_eq_error_iff.1 h, fun network => run_of_unsettled h⟩
  · refine ⟨Config.settings_eq_ok_iff.1 h, _, config.deploy.dir.reads_display,
      fun network source => run_of_refused h, fun listener => ?_⟩
    let service := Service.ofConfig config.deploy around.startedAt
    let start : Traffic World := { world, log := [listener.listening flags.debug] }
    have hrecorded : Traffic.run system.recording service
        { world := (world, []), log := [listener.listening flags.debug] } actions =
        (start.run system service actions).inWorld ((start.run system service actions).world,
          (service.askedFor (start.journal system service actions)).map (·.2)) := by
      rw [Service.askedFor_map]
      exact Traffic.run_recording start actions []
    exact ⟨start.run system service actions,
      service.askedFor (start.journal system service actions),
      Http.serves system config.deploy around.startedAt listener flags.debug actions world signals,
      fun network hbind => ⟨run_of_bound h hbind rfl, run_of_bound h hbind hrecorded⟩⟩

/-- Without flags, environment and file. SIGTERM comes when a deploy is about to
begin, the deploy fails at its fourth command, and the server is through when
that is answered. -/
theorem run_phases_terminated :
    let request : Http.Request := ⟨"POST", { path := "/deploy" }, [], ""⟩
    let around : Surroundings := {
      file := .missing
      overrides := {}
      network := fun host port => .ok ⟨host, port⟩
      startedAt := "now" }
    let actions := [Action.arrive request, Action.take 0] ++
      Action.stop (some .terminate) :: ((Service.ofConfig {} "now").turns 0 ++ [Action.close])
    .stop none ∉ actions ∧
    ∃ log traffic, run (Runner.failingAt "bash") {} around actions 0 = (log, .ok traffic) ∧
      traffic.phase = .through ∧
      traffic.log.lifecycle.map (·.message) = [
        "HTTP server listening on http://0.0.0.0:4747 (debug: false)",
        "Received SIGTERM signal", "Starting graceful shutdown...",
        "Server shutdown complete"] := by
  intro request around actions
  have signals : .stop none ∉ actions := by decide
  have defaults : (Flags.settings {} .missing {}).2 = .ok {} := by
    simp only [Flags.settings, Config.load, Config.ofFile]
    rfl
  obtain ⟨-, -, hsettled⟩ := run_phases (Runner.failingAt "bash") {} around actions 0 signals
  obtain ⟨-, _, -, -, hlistens⟩ := hsettled {} defaults
  obtain ⟨traffic, asked, hserves, hrun⟩ := hlistens ⟨"0.0.0.0", 4747⟩
  have hran := (hrun around.network rfl).1
  have hlength : traffic.exchanges.length = 1 := by
    have hcount : (run (Runner.failingAt "bash") {} around actions 0).2.toOption.map
        (·.exchanges.length) = some 1 := by
      decide +kernel
    rw [hran] at hcount
    exact Option.some.inj hcount
  have through : traffic.phase = .through := by
    refine hserves.ends [.arrive request, .take 0] .terminate _ rfl fun index hlt => ?_
    obtain rfl : index = 0 := by omega
    exact List.Sublist.refl _
  refine ⟨signals, _, traffic, hran, through, ?_⟩
  have told := hserves.told
  have hsignal : actions.findSome? Action.signal? = some .terminate := by decide
  rw [through, hsignal] at told
  generalize traffic.log.lifecycle = log at told
  cases told
  decide

end Rollout.Hook
