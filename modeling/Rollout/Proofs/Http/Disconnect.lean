import Rollout.Proofs.Http.DeployRest
import Rollout.Proofs.Http.Handling
import Rollout.Proofs.Http.TrafficSteps
import Rollout.Proofs.Runner.FirstFailure

/-!
# A client that leaves

A request that deploys has two parties: its handler, which goes with its
client, and its deploy, which does not. Wherever the client leaves once the
handler has started, the deploy does what it does if the client stays, and only
the two events of the handler are missing from the log.
-/

namespace Rollout.Http

/-- What the two parties of a request do. -/
inductive Move where
  /-- The handler starts. -/
  | take
  /-- The deploy takes a step. -/
  | advance
  /-- The handler finds that the deploy has ended. -/
  | finish
  deriving DecidableEq

def Move.action : Move → Action
  | take => .take 0
  | advance => .advance 0
  | finish => .finish 0

namespace Traffic

variable {World : Type} {system : System World} {service : Service} {request : Request}
  {tag : String} {origin world : World} {log : Log} {exchange : Exchange} {deploy : Deploy}
  {connected : Bool} {record : Record} {done : List Mark}

/-- Traffic of one request. -/
def solo (world : World) (log : Log) (exchange : Exchange) : Traffic World where
  world
  log
  exchanges := [exchange]

/-- The two events of a handler that ends. -/
def farewell (request : Request) (outcome : Outcome) : Log :=
  [outcomeEvent outcome, Service.answered request (.ofOutcome outcome)]

-- ---------------------------------------------------------------------------
-- One request alone
-- ---------------------------------------------------------------------------

theorem solo_leave : (solo world log exchange).act system service (.leave 0) =
    solo world log { exchange with connected := false } := rfl

theorem solo_take (h : service.reply request = .deploy tag) :
    (solo world log { request }).act system service (.take 0) =
      solo world log { request, stage := .deploying (.start service tag) } := by
  simp [solo, act, take, h, setStage]

theorem solo_advance :
    (solo world log { request, connected, stage := .deploying deploy }).act system service
      (.advance 0) =
    let report := deploy.advance system service world
    solo report.world (log ++ report.log)
      { request, connected, stage := .deploying report.value } := by
  simp [solo, act, advance, setStage, write]

theorem solo_finish {outcome : Outcome} (h : deploy.progress = .ended (.ok outcome)) :
    (solo world log { request, stage := .deploying deploy }).act system service (.finish 0) =
      solo world (log ++ farewell request outcome)
        { request, stage := .answered (.ofOutcome outcome) } := by
  simp [solo, act, finish, h, Progress.value?, setStage, write, farewell]

section
variable (system : System World) (service : Service) (world : World) (log : Log)
  (request : Request)

/-- Nothing but its start happens to a handler that has not started, and not
even that once the client has left. -/
theorem solo_received {move : Move} (h : connected = true → move ≠ .take) :
    (solo world log { request, connected }).act system service move.action =
      solo world log { request, connected } ∧
    (solo world log { request, connected }).marks system service move.action = [] := by
  cases connected with
  | true =>
    cases move with
    | take => exact absurd rfl (h rfl)
    | advance | finish => exact ⟨rfl, rfl⟩
  | false => cases move <;> exact ⟨rfl, rfl⟩

/-- Nothing happens to a request that was answered. -/
theorem solo_answered (connected : Bool) (response : Response) (move : Move) :
    (solo world log { request, connected, stage := .answered response }).act system service
      move.action = solo world log { request, connected, stage := .answered response } ∧
    (solo world log { request, connected, stage := .answered response }).marks system service
      move.action = [] := by
  cases move <;> cases connected <;> exact ⟨rfl, rfl⟩

/-- A deploy whose handler does not end waits for its turn. -/
theorem solo_waits (deploy : Deploy) {move : Move} (hmove : move ≠ .advance)
    (h : connected = true → move ≠ .finish) :
    (solo world log { request, connected, stage := .deploying deploy }).act system service
      move.action = solo world log { request, connected, stage := .deploying deploy } ∧
    (solo world log { request, connected, stage := .deploying deploy }).marks system service
      move.action = [] := by
  cases move with
  | take => cases connected <;> exact ⟨rfl, rfl⟩
  | advance => exact absurd rfl hmove
  | finish =>
    cases connected with
    | true => exact absurd rfl (h rfl)
    | false => exact ⟨rfl, rfl⟩

theorem solo_idle {moves : List Move} (h : connected = true → .take ∉ moves) :
    (solo world log { request, connected }).run system service (moves.map Move.action) =
      solo world log { request, connected } ∧
    (solo world log { request, connected }).journal system service (moves.map Move.action) =
      [] := by
  induction moves with
  | nil => exact ⟨rfl, rfl⟩
  | cons move rest ih =>
    have hmove : connected = true → move ≠ .take :=
      fun hc heq => h hc (heq ▸ List.mem_cons_self)
    have hrest : connected = true → .take ∉ rest :=
      fun hc hm => h hc (List.mem_cons_of_mem _ hm)
    obtain ⟨hsame, hmarks⟩ := solo_received system service world log request hmove
    rw [List.map_cons, run_cons, journal, hsame, hmarks]
    exact ih hrest

end

-- ---------------------------------------------------------------------------
-- A request whose deploy was started
-- ---------------------------------------------------------------------------

/-- A request alone whose deploy was started in `origin`, with what was done
for it so far. -/
inductive Started (system : System World) (service : Service) (request : Request) (tag : String)
    (origin : World) (connected : Bool) : Traffic World → List Mark → Prop
  | deploying {deploy : Deploy} {record : Record} {done : List Mark} {log : Log} {world : World}
      (here : deploy.Continues system service tag origin record done log world) :
      Started system service request tag origin connected
        (solo world log { request, connected, stage := .deploying deploy }) done
  | answered {outcome : Outcome} {log : Log} {world : World}
      (whole : service.deploy system tag origin = ⟨world, log, .ok outcome⟩) :
      Started system service request tag origin connected
        (solo world (log ++ farewell request outcome)
          { request, connected, stage := .answered (.ofOutcome outcome) })
        (service.runner.recordOf system (service.plan.commands tag) origin).marks

theorem solo_marks_advance :
    (solo world log { request, connected, stage := .deploying deploy }).marks system service
      (.advance 0) = (deploy.marks system service world).map (Prod.mk 0) := rfl

/-- A handler that waits for its deploy is where it was or has been answered. -/
theorem Started.finish (here : deploy.Continues system service tag origin record done log world) :
    Started system service request tag origin connected
      ((solo world log { request, connected, stage := .deploying deploy }).act system service
        (.finish 0)) done := by
  cases connected with
  | false => exact .deploying here
  | true =>
    cases hvalue : deploy.progress.value? with
    | none => simpa [Traffic.act, Traffic.finish, solo, hvalue] using Started.deploying here
    | some value =>
      have hp := Progress.value?_eq_some_iff.1 hvalue
      obtain ⟨outcome, rfl, whole, rfl⟩ := here.of_ended hp
      rw [solo_finish hp]
      exact .answered whole

section
variable (captured : ∀ command ∈ service.plan.commands tag, command.redirects = false)
include captured

theorem Started.act {traffic : Traffic World} (move : Move)
    (h : Started system service request tag origin connected traffic done) :
    Started system service request tag origin connected (traffic.act system service move.action)
      (done ++ (traffic.marks system service move.action).map (·.2)) := by
  cases h with
  | @deploying deploy record _ log world here =>
    cases move with
    | take =>
      simp only [Move.action, marks, List.map_nil, List.append_nil]
      cases connected <;> exact .deploying here
    | advance =>
      rw [Move.action, solo_advance, solo_marks_advance]
      simpa [Function.comp_def] using Started.deploying (here.advance captured)
    | finish => simpa [Move.action, marks] using Started.finish here
  | @answered outcome log world whole =>
    obtain ⟨hsame, hmarks⟩ := solo_answered system service world (log ++ farewell request outcome)
      request connected (.ofOutcome outcome) move
    rw [hsame, hmarks, List.map_nil, List.append_nil]
    exact .answered whole

theorem Started.run {traffic : Traffic World} (moves : List Move)
    (h : Started system service request tag origin connected traffic done) :
    Started system service request tag origin connected
      (traffic.run system service (moves.map Move.action))
      (done ++ (traffic.journal system service (moves.map Move.action)).map (·.2)) := by
  induction moves generalizing traffic done with
  | nil => simpa [Traffic.run, journal] using h
  | cons move rest ih => simpa [run_cons, journal] using ih (h.act captured move)

variable (system origin) in
/-- Once its handler has started, a request is one whose deploy was started. -/
theorem started_of_take (reply : service.reply request = .deploy tag) {moves : List Move}
    (h : .take ∈ moves) :
    Started system service request tag origin true
      ((solo origin [] { request }).run system service (moves.map Move.action))
      (((solo origin [] { request }).journal system service (moves.map Move.action)).map
        (·.2)) := by
  obtain ⟨before, after, rfl, hbefore⟩ := List.eq_append_cons_of_mem h
  obtain ⟨hsame, hnone⟩ := solo_idle system service origin [] request fun _ => hbefore
  have hstart : Started system service request tag origin true
      (solo origin [] { request, stage := .deploying (.start service tag) }) [] :=
    .deploying (.start tag origin)
  have hmarks : (solo origin [] { request }).marks system service (.take 0) = [] := rfl
  rw [List.map_append, List.map_cons, run_append, journal_append, hsame, hnone, run_cons, journal,
    Move.action, hmarks, solo_take reply]
  simpa using hstart.run captured after

/-- A deploy whose handler does not end goes on, a step nearer to its end each
time it is its turn. -/
theorem deploying_run {moves : List Move} (h : connected = true → .finish ∉ moves)
    (here : deploy.Continues system service tag origin record done log world) :
    let start := solo world log { request, connected, stage := .deploying deploy }
    ∃ deploy' record' log' world',
      start.run system service (moves.map Move.action) =
        solo world' log' { request, connected, stage := .deploying deploy' } ∧
      deploy'.Continues system service tag origin record'
        (done ++ (start.journal system service (moves.map Move.action)).map (·.2)) log' world' ∧
      deploy'.progress.stepsLeft ≤ deploy.progress.stepsLeft - moves.count .advance := by
  induction moves generalizing deploy record done log world with
  | nil => exact ⟨deploy, record, log, world, rfl, by simpa [journal] using here, Nat.le_refl _⟩
  | cons move rest ih =>
    have hrest : connected = true → .finish ∉ rest :=
      fun hc hm => h hc (List.mem_cons_of_mem _ hm)
    by_cases hmove : move = .advance
    · subst hmove
      obtain ⟨deploy', record', log', world', hrun, hhere, hsteps⟩ :=
        ih hrest (here.advance captured)
      refine ⟨deploy', record', log', world', ?_, ?_, ?_⟩
      · rw [List.map_cons, run_cons, Move.action, solo_advance]
        exact hrun
      · rw [List.map_cons, journal, Move.action, solo_advance, solo_marks_advance]
        simpa [Function.comp_def] using hhere
      · have hstep := deploy.stepsLeft_advance system service world
        rw [List.count_cons_self]
        omega
    · obtain ⟨hsame, hmarks⟩ := solo_waits system service world log request deploy hmove
        fun hc heq => h hc (heq ▸ List.mem_cons_self)
      have hcount : (move :: rest).count .advance = rest.count .advance :=
        List.count_cons_of_ne hmove
      simp only [List.map_cons, run_cons, journal, hsame, hmarks, hcount, List.nil_append]
      exact ih hrest here

/-- After enough steps the deploy has ended with what it comes to in one go. -/
theorem deploying_ends {moves : List Move} (h : connected = true → .finish ∉ moves)
    (here : deploy.Continues system service tag origin record done log world)
    (enough : service.steps ≤ moves.count .advance) :
    let start := solo world log { request, connected, stage := .deploying deploy }
    ∃ deploy' log' world' outcome,
      start.run system service (moves.map Move.action) =
        solo world' log' { request, connected, stage := .deploying deploy' } ∧
      deploy'.progress = .ended (.ok outcome) ∧
      service.deploy system tag origin = ⟨world', log', .ok outcome⟩ ∧
      done ++ (start.journal system service (moves.map Move.action)).map (·.2) =
        (service.runner.recordOf system (service.plan.commands tag) origin).marks := by
  intro start
  obtain ⟨deploy', record', log', world', hrun, hhere, hsteps⟩ := deploying_run captured h here
  have hlength : (service.plan.commands deploy.tag).length =
      (service.plan.commands defaultTag).length := by simp [Plan.commands]
  have hle := here.follows.progress.stepsLeft_le
  have hzero : deploy'.progress.stepsLeft = 0 := by
    rw [hlength] at hle
    simp only [Service.steps] at enough
    omega
  obtain ⟨value, hp⟩ := Progress.ended_of_stepsLeft hzero
  obtain ⟨outcome, rfl, whole, hdone⟩ := hhere.of_ended hp
  exact ⟨deploy', log', world', outcome, hrun, hp, whole, hdone⟩

end

-- ---------------------------------------------------------------------------
-- The client leaves
-- ---------------------------------------------------------------------------

/-- What comes of a request that comes in alone. -/
def alone (system : System World) (service : Service) (request : Request) (world : World)
    (actions : List Action) : Traffic World :=
  run system service { world } (.arrive request :: actions)

/-- What is done with children for a request that comes in alone. -/
def marksAlone (system : System World) (service : Service) (request : Request) (world : World)
    (actions : List Action) : List Mark :=
  (journal system service { world } (.arrive request :: actions)).map (·.2)

theorem alone_eq (actions : List Action) : alone system service request world actions =
    (solo world [] { request }).run system service actions := rfl

theorem marksAlone_eq (actions : List Action) : marksAlone system service request world actions =
    ((solo world [] { request }).journal system service actions).map (·.2) := rfl

variable (system service request world) in
/-- The client leaves before the handler has started. -/
theorem alone_of_early (before after : List Move) (h : .take ∉ before) :
    alone system service request world
      (before.map Move.action ++ .leave 0 :: after.map Move.action) =
      solo world [] { request, connected := false } ∧
    marksAlone system service request world
      (before.map Move.action ++ .leave 0 :: after.map Move.action) = [] := by
  obtain ⟨hbefore, hnone⟩ := solo_idle system service world [] request fun _ => h
  have hgone : false = true → .take ∉ after := fun hfalse => nomatch hfalse
  obtain ⟨hafter, hnothing⟩ := solo_idle system service world [] request hgone
  rw [alone_eq, marksAlone_eq, run_append, journal_append, hbefore, hnone, run_cons, journal,
    solo_leave, hafter, hnothing]
  exact ⟨rfl, rfl⟩

section
variable (captured : ∀ command ∈ service.plan.commands tag, command.redirects = false)
  (reply : service.reply request = .deploy tag)
include captured reply

/-- The client leaves when the handler has started, before it has ended. -/
theorem alone_of_late {before after : List Move} (h : .take ∈ before)
    (pending : (alone system service request world
      (before.map Move.action)).exchanges.any Exchange.isOpen = true)
    (enough : service.steps ≤ after.count .advance) :
    ∃ deploy log' world' outcome,
      service.deploy system tag world = ⟨world', log', .ok outcome⟩ ∧
      alone system service request world
        (before.map Move.action ++ .leave 0 :: after.map Move.action) =
        solo world' log' { request, connected := false, stage := .deploying deploy } ∧
      marksAlone system service request world
        (before.map Move.action ++ .leave 0 :: after.map Move.action) =
        (service.runner.recordOf system (service.plan.commands tag) world).marks := by
  have hstarted := started_of_take system world captured reply h
  rw [alone_eq] at pending ⊢
  rw [marksAlone_eq, run_append, journal_append]
  generalize (solo world [] { request }).run system service (before.map Move.action) = traffic at *
  generalize (solo world [] { request }).journal system service (before.map Move.action) =
    journal at *
  rw [List.map_append]
  generalize journal.map (·.2) = done at *
  cases hstarted with
  | deploying here =>
    have hgone : false = true → .finish ∉ after := fun hfalse => nomatch hfalse
    obtain ⟨deploy', log', world', outcome, hrun, -, whole, hdone⟩ :=
      deploying_ends captured hgone here enough
    exact ⟨deploy', log', world', outcome, whole, hrun, hdone⟩
  | answered _ => simp [solo, Exchange.isOpen] at pending

/-- The client stays until its request is answered. -/
theorem alone_of_closed {moves : List Move}
    (closed : (alone system service request world
      (moves.map Move.action)).exchanges.any Exchange.isOpen = false) :
    ∃ log' world' outcome,
      service.deploy system tag world = ⟨world', log', .ok outcome⟩ ∧
      alone system service request world (moves.map Move.action) =
        solo world' (log' ++ farewell request outcome)
          { request, stage := .answered (.ofOutcome outcome) } ∧
      marksAlone system service request world (moves.map Move.action) =
        (service.runner.recordOf system (service.plan.commands tag) world).marks := by
  have hmem : .take ∈ moves := by
    refine Decidable.byContradiction fun hnot => ?_
    obtain ⟨hsame, -⟩ := solo_idle system service world [] request fun _ => hnot
    rw [alone_eq, hsame] at closed
    simp [solo, Exchange.isOpen] at closed
  have hstarted := started_of_take system world captured reply hmem
  rw [← alone_eq, ← marksAlone_eq] at hstarted
  generalize alone system service request world (moves.map Move.action) = traffic at *
  generalize marksAlone system service request world (moves.map Move.action) = done at *
  cases hstarted with
  | deploying here => simp [solo, Exchange.isOpen] at closed
  | answered whole => exact ⟨_, _, _, whole, rfl, rfl⟩

/-- A request whose client stays is answered if everybody gets their turns. -/
theorem exists_closed : ∃ moves : List Move, (alone system service request world
    (moves.map Move.action)).exchanges.any Exchange.isOpen = false := by
  have hfinish : true = true → .finish ∉ List.replicate service.steps Move.advance :=
    fun _ hm => nomatch List.eq_of_mem_replicate hm
  obtain ⟨deploy, log, last, outcome, hrun, hended, -, -⟩ :=
    deploying_ends captured hfinish (.start tag world) (Nat.le_of_eq List.count_replicate_self.symm)
  refine ⟨.take :: (List.replicate service.steps .advance ++ [.finish]), ?_⟩
  rw [alone_eq, List.map_cons, run_cons, Move.action, solo_take reply, List.map_append,
    run_append, hrun, List.map_singleton, run_cons, Move.action, solo_finish hended]
  rfl

end

/-- The client of a deploy may leave at any point before its request is
answered. If the handler has not started by then, nothing is run and nothing is
logged. Otherwise the deploy, when it has had its turns, has run the same
commands with the same endings and left the same world as wherever the client
stays for the answer, and all that is missing from the log of that are the two
events of the handler at its end. -/
theorem leave_spares_deploy {World : Type} (system : System World) (config : DeployConfig)
    (startedAt : String) (request : Request) (tag : String) (world : World)
    (before after : List Move) (deploys : request.deployTag? = some tag)
    (pending : (alone system (.ofConfig config startedAt) request world
      (before.map Move.action)).exchanges.any Exchange.isOpen = true) :
    let service := Service.ofConfig config startedAt
    let left := before.map Move.action ++ .leave 0 :: after.map Move.action
    let cut := alone system service request world left
    (.take ∉ before → marksAlone system service request world left = [] ∧ cut.world = world ∧
      cut.log = []) ∧
    (.take ∈ before → service.steps ≤ after.count .advance → ∃ outcome,
      service.handle system request world =
        ⟨cut.world, cut.log ++ farewell request outcome, .ok (.ofOutcome outcome)⟩ ∧
      (Mark.record (marksAlone system service request world left)).commands =
        service.runner.executed system (service.plan.commands tag) world ∧
      (∃ moves : List Move, (alone system service request world
        (moves.map Move.action)).exchanges.any Exchange.isOpen = false) ∧
      ∀ moves : List Move,
        let whole := alone system service request world (moves.map Move.action)
        whole.exchanges.any Exchange.isOpen = false →
        marksAlone system service request world (moves.map Move.action) =
          marksAlone system service request world left ∧
        whole.world = cut.world ∧ whole.log = cut.log ++ farewell request outcome ∧
        whole.exchanges = [{ request, stage := .answered (.ofOutcome outcome) }]) := by
  intro service left cut
  have captured := Plan.commands_captured config tag
  have reply : service.reply request = .deploy tag := Service.reply_of_deployTag? deploys
  refine ⟨fun hbefore => ?_, fun hbefore enough => ?_⟩
  · obtain ⟨hcut, hmarks⟩ := alone_of_early system service request world before after hbefore
    have hcut : cut = _ := hcut
    rw [hcut]
    exact ⟨hmarks, rfl, rfl⟩
  · obtain ⟨deploy, log, last, outcome, hdeploy, hcut, hmarks⟩ :=
      alone_of_late captured reply hbefore pending enough
    have hcut : cut = _ := hcut
    refine ⟨outcome, ?_, ?_, exists_closed captured reply, ?_⟩
    · rw [hcut]
      simp [Service.handle, Service.answer, reply, hdeploy, farewell, solo]
    · rw [hmarks, Record.record_marks, Runner.commands_recordOf]
    · intro moves whole closed
      obtain ⟨log', last', outcome', hdeploy', hwhole, hmarks'⟩ :=
        alone_of_closed captured reply closed
      have hwhole : whole = _ := hwhole
      cases hdeploy.symm.trans hdeploy'
      rw [hcut, hwhole]
      exact ⟨hmarks'.trans hmarks.symm, rfl, rfl, rfl⟩

/-- The client leaves while a child runs for the first command. The script that
fails three commands later is run all the same, and the log lacks what the
handler had to say about that. -/
theorem leave_spares_deploy_midway :
    let request : Request := ⟨"POST", { path := "/deploy", query := some "tag=v2" }, [], ""⟩
    let service := Service.ofConfig {} "now"
    let system := Runner.failingAt "bash"
    let before : List Move := [.take, .advance, .advance]
    let after : List Move := List.replicate 12 .advance
    let left := before.map Move.action ++ .leave 0 :: after.map Move.action
    let cut := alone system service request 0 left
    request.deployTag? = some "v2" ∧
    (alone system service request 0 (before.map Move.action)).exchanges.any Exchange.isOpen =
      true ∧
    service.steps ≤ after.count .advance ∧
    cut.world = 4 ∧
    ∃ outcome, (service.handle system request 0).log = cut.log ++ farewell request outcome ∧
      (service.handle system request 0).value = .ok (.ofOutcome outcome) := by
  intro request service system before after left cut
  have deploys : request.deployTag? = some "v2" := by decide
  have pending : (alone system service request 0 (before.map Move.action)).exchanges.any
      Exchange.isOpen = true := by decide +kernel
  have enough : service.steps ≤ after.count .advance := by decide
  obtain ⟨-, h⟩ := leave_spares_deploy system {} "now" request "v2" 0 before after deploys pending
  obtain ⟨outcome, hhandle, -⟩ := h (by decide) enough
  have hworld : (service.handle system request 0).world = 4 := by decide +kernel
  refine ⟨deploys, pending, enough, ?_, outcome, ?_, ?_⟩
  · rw [← hworld, hhandle]
  · rw [hhandle]
  · rw [hhandle]

end Traffic

end Rollout.Http
