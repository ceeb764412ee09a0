/-
**The moves of an engine.**

A run is a sequence of moves: one event is accepted, one message handled, one departure or join
applied, one job dispatched or run, or the run comes to an end. `Move` says once what each move is
and when it can be made; what every move keeps, every run keeps.

* `Steady` — what the moves of a pass leave alone, one lemma per operation;
* `Move` — the moves, each with its guard.
-/

import JobPool.Proofs.Chains
import JobPool.Proofs.Engine.Operations

namespace JobPool.Engine

/-! ### What the operations leave alone -/

/-- Two states of an engine that differ in what it has to do, and not in what it is. -/
structure Steady (first second : Engine) : Prop where
  options : second.options = first.options
  node : second.node = first.node
  stage : second.stage = first.stage
  phase : second.phase = first.phase
  link : second.link = first.link
  linked : second.linked = first.linked
  isMaster : second.scheduler.isMaster = first.scheduler.isMaster

theorem Steady.refl (engine : Engine) : engine.Steady engine := ⟨rfl, rfl, rfl, rfl, rfl, rfl, rfl⟩

/-- The queues hold what there is to do. -/
theorem Steady.queues {engine : Engine} {mailbox : List Event} {inbound : List Message}
    {departed joined : List NodeId} {work : List WorkRequest} :
    engine.Steady
      { engine with
        mailbox := mailbox
        inbound := inbound
        departed := departed
        joined := joined
        work := work } :=
  ⟨rfl, rfl, rfl, rfl, rfl, rfl, rfl⟩

theorem Steady.trans {first second third : Engine} (left : first.Steady second)
    (right : second.Steady third) : first.Steady third :=
  ⟨right.options.trans left.options, right.node.trans left.node, right.stage.trans left.stage,
    right.phase.trans left.phase, right.link.trans left.link, right.linked.trans left.linked,
    right.isMaster.trans left.isMaster⟩

theorem Steady.isGone {first second : Engine} (steady : first.Steady second) :
    second.isGone = first.isGone := by
  rw [Engine.isGone, Engine.isGone, steady.stage]

theorem steady_submit (engine : Engine) (ticket : Ticket) (job : Job) (input : Bytes) :
    engine.Steady (engine.submit ticket job input).value := by
  rcases engine.submit_cases ticket job input with
    ⟨_, _, _, _, value, _⟩ | ⟨_, _, _, _, _, value, _⟩
  all_goals
    rw [value]
    exact ⟨rfl, rfl, rfl, rfl, rfl, rfl, rfl⟩

theorem steady_accept (engine : Engine) (event : Event) :
    engine.Steady (engine.accept event).value := by
  rcases engine.accept_cases event with ⟨ticket, job, input, _, taken⟩ |
    ⟨_, ⟨_, _, value⟩ | ⟨_, _, value⟩ | ⟨_, _, _, value⟩ | ⟨_, _, value⟩ | ⟨_, value⟩⟩
  · rw [taken]
    exact steady_submit engine ticket job input
  all_goals
    rw [value]
    exact ⟨rfl, rfl, rfl, rfl, rfl, rfl, rfl⟩

theorem steady_complete (engine : Engine) (worker : NodeId) (request : RequestId) (result : Bytes)
    (failed : Bool) (seconds : Float) :
    engine.Steady (engine.complete worker request result failed seconds).value := by
  rcases engine.complete_cases worker request result failed seconds with
    ⟨_, _, value, _⟩ | ⟨_, _, _, _, _, _, _, _, _, value, _⟩
  all_goals
    rw [value]
    exact ⟨rfl, rfl, rfl, rfl, rfl, rfl, rfl⟩

private theorem isMaster_join (scheduler : Scheduler) (worker : NodeId) :
    (scheduler.join worker).value.isMaster = scheduler.isMaster := by
  rcases (scheduler.join_cases worker).2 with same | ⟨_, _, _, _, _, joined⟩
  · rw [same]
  · rw [joined]
    rfl

theorem steady_handle (engine : Engine) (message : Message) :
    engine.Steady (engine.handle message).value := by
  rcases engine.handle_cases message with
    ⟨_, _, _, _, _, value, _⟩ | ⟨_, _, _, _, _, _, value, _⟩ | ⟨_, _, value, _⟩ | ⟨_, _, value, _⟩
  · rw [value]
    exact ⟨rfl, rfl, rfl, rfl, rfl, rfl, rfl⟩
  · rw [value]
    have counted : engine.Steady { engine with messages := engine.messages + 1 } :=
      ⟨rfl, rfl, rfl, rfl, rfl, rfl, rfl⟩
    exact counted.trans (steady_complete _ _ _ _ _ _)
  · rw [value]
    exact ⟨rfl, rfl, rfl, rfl, rfl, rfl, isMaster_join _ _⟩
  · rw [value]
    exact ⟨rfl, rfl, rfl, rfl, rfl, rfl, rfl⟩

theorem steady_depart (engine : Engine) (node : NodeId) :
    engine.Steady (engine.depart node).value := by
  rcases engine.depart_cases node with
    ⟨_, _, _, _, _, _, value, _⟩ | ⟨worker, role, _, _, _, other, value, _⟩
  · rw [value]
    exact ⟨rfl, rfl, rfl, rfl, rfl, rfl, rfl⟩
  · rw [value]
    refine ⟨rfl, rfl, rfl, rfl, rfl, rfl, ?_⟩
    rw [worker]
    cases role with
    | master => exact (other rfl).elim
    | worker => rfl

theorem steady_arrive (engine : Engine) (node : NodeId) :
    engine.Steady (engine.arrive node).value := by
  rcases engine.arrive_cases node with ⟨_, value, _⟩ | ⟨_, value, _⟩
  · rw [value]
    exact .refl engine
  · rw [value]
    exact ⟨rfl, rfl, rfl, rfl, rfl, rfl, isMaster_join _ _⟩

theorem steady_dispatch (engine : Engine) : engine.Steady engine.dispatch.value.1 := by
  rcases engine.dispatch_cases with
    ⟨_, _, value, _⟩ | ⟨_, _, _, _, _, _, _, _, _, _, _, _, _, value, _⟩
  all_goals
    rw [value]
    exact ⟨rfl, rfl, rfl, rfl, rfl, rfl, rfl⟩

theorem steady_execute (engine : Engine) (request : WorkRequest) :
    engine.Steady (engine.execute request).value := by
  rw [(engine.execute_eq request).1]
  exact ⟨rfl, rfl, rfl, rfl, rfl, rfl, rfl⟩

/-! ### Moves -/

/-- **One move of an engine**, with its new state and its effects. -/
inductive Move : Engine → Act Engine → Prop
  | start {engine : Engine} (created : engine.stage = .created) : Move engine engine.start
  /-- The oldest event of the mailbox is accepted. -/
  | accept {engine : Engine} {event : Event} {rest : List Event} (alive : engine.isGone = false)
      (arrived : engine.mailbox = event :: rest) :
      Move engine ({ engine with mailbox := rest }.accept event)
  /-- Nobody can send events any more, and none is left. -/
  | cutOff {engine : Engine} (alive : engine.isGone = false) (empty : engine.mailbox = [])
      (connected : engine.connected = false) : Move engine (pure (engine.requestStop .disconnected))
  /-- The length of the queue of messages is noted. -/
  | measure {engine : Engine} (alive : engine.isGone = false) :
      Move engine (pure { engine with
        longestQueue := max engine.longestQueue engine.inbound.length })
  /-- The oldest message is handled, once every event is accepted. -/
  | handle {engine : Engine} {message : Message} {rest : List Message}
      (alive : engine.isGone = false) (accepted : engine.mailbox = [])
      (arrived : engine.inbound = message :: rest) :
      Move engine ({ engine with inbound := rest }.handle message)
  /-- The oldest departure is applied, once every message is handled. -/
  | depart {engine : Engine} {node : NodeId} {rest : List NodeId} (alive : engine.isGone = false)
      (running : engine.stopReason = none) (accepted : engine.mailbox = [])
      (handled : engine.inbound = []) (arrived : engine.departed = node :: rest) :
      Move engine ({ engine with departed := rest }.depart node)
  /-- The oldest join is applied, once every departure is. -/
  | arrive {engine : Engine} {node : NodeId} {rest : List NodeId} (alive : engine.isGone = false)
      (running : engine.stopReason = none) (accepted : engine.mailbox = [])
      (handled : engine.inbound = []) (departed : engine.departed = [])
      (arrived : engine.joined = node :: rest) :
      Move engine ({ engine with joined := rest }.arrive node)
  /-- At most one job is dispatched, once the membership is up to date. -/
  | dispatch {engine : Engine} (alive : engine.isGone = false)
      (running : engine.stopReason = none) (accepted : engine.mailbox = [])
      (handled : engine.inbound = []) (departed : engine.departed = [])
      (joined : engine.joined = []) :
      Move engine ⟨engine.dispatch.value.1, engine.dispatch.effects⟩
  /-- The oldest requested job is run. -/
  | run {engine : Engine} {request : WorkRequest} {rest : List WorkRequest}
      (alive : engine.isGone = false) (running : engine.stopReason = none)
      (queued : engine.work = request :: rest) :
      Move engine ({ engine with work := rest }.execute request)
  /-- The run goes on with a pass or a wait, with nothing but lines in the log. -/
  | turn {engine : Engine} {stage : Stage} {effects : List Effect} (alive : engine.isGone = false)
      (ongoing : stage = .passing ∨ stage = .waiting ∨
        stage = .holding ∧ engine.stopReason = none)
      (silent : Effect.deeds effects = []) : Move engine ⟨{ engine with stage := stage }, effects⟩
  /-- The run ends because there is a reason to stop. -/
  | finish {engine : Engine} (alive : engine.isGone = false)
      (stopped : engine.stopReason.isSome = true) : Move engine engine.finish
  /-- The run ends because nothing is left to do. -/
  | conclude {engine : Engine} (alive : engine.isGone = false)
      (running : engine.stopReason = none) (idle : engine.work = [])
      (done : engine.shouldStop = true) :
      Move engine (engine.requestStop engine.naturalReason).finish
  | breakDown {engine : Engine} {cause : Breakdown} (alive : engine.isGone = false) :
      Move engine (engine.breakDown cause)

theorem Move.chain {engine : Engine} {act : Act Engine} (move : Move engine act) :
    Chain Move engine act :=
  .single move

/-- Only an engine that is not gone makes a move. -/
theorem Move.alive {engine : Engine} {act : Act Engine} (move : Move engine act) :
    engine.isGone = false := by
  cases move with
  | start created => rw [isGone, created]
  | accept alive | cutOff alive | measure alive | handle alive | depart alive | arrive alive
  | dispatch alive | run alive | turn alive | finish alive | conclude alive | breakDown alive =>
    exact alive

end JobPool.Engine
