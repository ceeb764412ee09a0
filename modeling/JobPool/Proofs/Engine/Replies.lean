/-
**A worker answers its requests in order, each of them once.**

A worker puts every request that it handles at the end of its queue and runs the oldest one, at most
one in a pass. A run sends one reply, whatever the job does. No other step takes requests or
replies, so the requests that were handled are those that were answered, followed by those that
still wait. A worker finds by itself that its master has gone only when no request waits.

* `Effect.requested`, `Effect.replies` — the requests that were handled, and the replies;
* `WorkRequest.reply` — the reply that a request is due, for each end of its job;
* `Engine.Service`, `Stride.service` — what a step of a worker means for its requests;
* `Serving` — the requests that were answered, and those that wait;
* `Session.requests_answered` — the replies of a worker are those to a first part of its requests.
-/

import JobPool.Proofs.Engine.Closing

namespace JobPool

namespace Effect

/-- The requests that were taken to be handled, in order. -/
def requested (effects : List Effect) : List WorkRequest :=
  effects.filterMap fun
    | .handled ⟨source, .execute request job input⟩ => some ⟨source, request, job, input⟩
    | _ => none

/-- The completions that were handed to the link, accepted or not, with their destinations. -/
def replies (effects : List Effect) : List (NodeId × Payload) :=
  effects.filterMap fun
    | .sent destination (.completed request result failed seconds) _ =>
      some (destination, .completed request result failed seconds)
    | _ => none

theorem requested_append (first second : List Effect) :
    requested (first ++ second) = requested first ++ requested second :=
  List.filterMap_append

theorem replies_append (first second : List Effect) :
    replies (first ++ second) = replies first ++ replies second :=
  List.filterMap_append

theorem requested_deeds (effects : List Effect) : requested (deeds effects) = requested effects :=
  filterMap_deeds _ (fun _ => rfl) effects

theorem replies_deeds (effects : List Effect) : replies (deeds effects) = replies effects :=
  filterMap_deeds _ (fun _ => rfl) effects

/-- The effect takes a message from its queue or hands one to the link. -/
def isSpoken : Effect → Bool
  | handled _ | sent .. => true
  | log _ | resolved .. | applied _ | admitted .. | queued .. | issued .. | ran .. | answered ..
  | linkClosed | brokeDown _ => false

/-- Without messages there are neither requests nor replies. -/
theorem unspoken {effects : List Effect}
    (silent : ∀ effect ∈ deeds effects, effect.isSpoken = false) :
    requested effects = [] ∧ replies effects = [] := by
  rw [← requested_deeds, ← replies_deeds]
  refine ⟨List.filterMap_eq_nil_iff.mpr fun effect member => ?_,
    List.filterMap_eq_nil_iff.mpr fun effect member => ?_⟩
  all_goals
    have quiet := silent effect member
    cases effect <;> first | rfl | cases quiet

end Effect

/-- The reply that a request is due: what the job returns, or nothing when it fails or panics. -/
def WorkRequest.reply (node : NodeId) (request : WorkRequest) : NodeId × Payload :=
  let execution := request.job.run node request.input
  let seconds := execution.duration.toSeconds
  match execution.ending with
  | .returned result => (request.source, .completed request.request result false seconds)
  | .failed _ | .panicked _ => (request.source, .completed request.request [] true seconds)

namespace Engine

theorem replyTo_eq (engine : Engine) (request : WorkRequest) :
    (request.source, engine.replyTo request) = request.reply engine.node := by
  simp only [replyTo, WorkRequest.reply]
  cases (request.job.run engine.node request.input).ending <;> rfl

/-! ### Steps -/

/-- **What a step of a worker means for its requests.** -/
inductive Service (engine next : Engine) (effects : List Effect) : Prop
  /-- Requests, none or one, are put at the end of the queue. -/
  | takes (taken : List WorkRequest) (work : next.work = engine.work ++ taken)
      (executed : next.executed = engine.executed)
      (requested : Effect.requested effects = taken) (replies : Effect.replies effects = [])
  /-- The oldest request is run and answered, if the engine still has its link. -/
  | runs (request : WorkRequest) (running : engine.stopReason = none)
      (work : engine.work = request :: next.work)
      (executed : next.executed = engine.executed + 1) (requested : Effect.requested effects = [])
      (replies : Effect.replies effects =
        if engine.linked then [request.reply engine.node] else [])

section Moves

variable {engine next : Engine} {effects : List Effect}

/-- A step that neither takes requests nor replies. -/
theorem Service.rests (work : next.work = engine.work)
    (executed : next.executed = engine.executed) (requested : Effect.requested effects = [])
    (replies : Effect.replies effects = []) : Service engine next effects :=
  .takes [] (work.trans (List.append_nil _).symm) executed requested replies

/-- A step without messages. -/
private theorem Service.unspoken (work : next.work = engine.work)
    (executed : next.executed = engine.executed)
    (silent : ∀ effect ∈ Effect.deeds effects, effect.isSpoken = false) :
    Service engine next effects := by
  obtain ⟨requested, replies⟩ := Effect.unspoken silent
  exact .rests work executed requested replies

private theorem service_accept (event : Event) :
    Service engine (engine.accept event).value (engine.accept event).effects := by
  rcases engine.accept_cases event with ⟨ticket, job, input, _, taken⟩ | ⟨silent, sorted⟩
  · rw [taken]
    rcases engine.submit_cases ticket job input with
      ⟨_, _, _, _, value, deeds⟩ | ⟨_, _, _, _, _, value, deeds⟩
    · rw [value]
      refine .unspoken rfl rfl ?_
      rw [deeds]
      exact List.forall_mem_singleton.mpr rfl
    · rw [value]
      refine .unspoken rfl rfl ?_
      rw [deeds]
      exact List.forall_mem_cons.mpr ⟨rfl, List.forall_mem_singleton.mpr rfl⟩
  · have quiet : ∀ effect ∈ Effect.deeds (engine.accept event).effects,
        effect.isSpoken = false := by
      rw [silent]
      exact List.forall_mem_nil _
    rcases sorted with ⟨_, _, value⟩ | ⟨_, _, value⟩ | ⟨_, _, _, value⟩ | ⟨_, _, value⟩ |
      ⟨_, value⟩
    all_goals
      rw [value]
      exact .unspoken rfl rfl quiet

private theorem service_handle (engine : Engine) (worker : engine.scheduler.isMaster = false)
    (message : Message) :
    Service engine (engine.handle message).value (engine.handle message).effects := by
  have requested := Effect.requested_deeds (engine.handle message).effects
  have replies := Effect.replies_deeds (engine.handle message).effects
  rcases engine.handle_cases message with
    ⟨request, job, input, execution, _, value, deeds⟩ | ⟨_, _, _, _, _, master, _⟩ |
    ⟨_, master, _⟩ | ⟨_, other, value, deeds⟩
  · obtain ⟨source, payload⟩ := message
    cases execution
    rw [deeds] at requested replies
    rw [value]
    exact .takes [⟨source, request, job, input⟩] rfl rfl requested.symm replies.symm
  · cases worker.symm.trans master
  · cases worker.symm.trans master
  · obtain ⟨source, payload⟩ := message
    rw [deeds] at requested replies
    rw [value]
    cases payload with
    | execute request job input => cases worker.symm.trans (other request job input rfl)
    | completed | register => exact .rests rfl rfl requested.symm replies.symm

private theorem service_depart (engine : Engine) (worker : engine.scheduler.isMaster = false)
    (node : NodeId) :
    Service engine (engine.depart node).value (engine.depart node).effects := by
  rcases engine.depart_cases node with
    ⟨master, _⟩ | ⟨_, _, _, told, reported, _, value, deeds⟩
  · cases worker.symm.trans master
  · rw [value]
    refine .unspoken rfl rfl ?_
    rw [deeds]
    refine List.forall_mem_cons.mpr ⟨rfl, fun effect member => ?_⟩
    obtain ⟨ticket, outcome, rfl, _⟩ := reported.answered effect member
    rfl

private theorem service_arrive (node : NodeId) :
    Service engine (engine.arrive node).value (engine.arrive node).effects := by
  rcases engine.arrive_cases node with ⟨_, value, deeds⟩ | ⟨_, value, deeds⟩
  · rw [value]
    refine .unspoken rfl rfl ?_
    rw [deeds]
    exact List.forall_mem_nil _
  · rw [value]
    refine .unspoken rfl rfl ?_
    rw [deeds]
    exact List.forall_mem_singleton.mpr rfl

private theorem service_dispatch (worker : engine.scheduler.isMaster = false) :
    Service engine engine.dispatch.value.1 engine.dispatch.effects := by
  rcases engine.dispatch_cases with
    ⟨_, _, value, deeds⟩ | ⟨_, _, _, _, _, _, _, _, _, master, _⟩
  · rw [value]
    refine .unspoken rfl rfl ?_
    rw [deeds]
    exact List.forall_mem_nil _
  · cases worker.symm.trans master

private theorem service_execute {request : WorkRequest} {rest : List WorkRequest}
    (running : engine.stopReason = none) (queued : engine.work = request :: rest) :
    let act := { engine with work := rest }.execute request
    Service engine act.value act.effects := by
  intro act
  obtain ⟨value, deeds⟩ := execute_eq { engine with work := rest } request
  rw [value]
  refine .runs request running queued rfl ?_ ?_
  · rw [← Effect.requested_deeds, deeds]
    cases engine.linked <;> rfl
  · rw [← Effect.replies_deeds, deeds, ← replyTo_eq]
    cases engine.linked <;> rfl

/-- Shutting down leaves the requests in the queue. -/
private theorem service_shutdown (engine : Engine) :
    Service engine engine.shutdown.value engine.shutdown.effects := by
  obtain ⟨_, _, work, executed⟩ := engine.kept_shutdown
  exact .unspoken work executed
    (unselected_of_ending rfl (fun _ => rfl) fun _ => mem_deeds_shutdown)

private theorem service_finish (engine : Engine) :
    Service engine engine.finish.value engine.finish.effects := by
  obtain ⟨_, _, work, executed⟩ := engine.kept_finish
  exact .unspoken work executed
    (unselected_of_ending rfl (fun _ => rfl) fun _ => mem_deeds_finish)

end Moves

/-- A step that only gives the engine other queues or a reason to stop before it rests. -/
private theorem Service.of_same {engine before next : Engine} {effects : List Effect}
    (service : Service before next effects) (work : before.work = engine.work)
    (executed : before.executed = engine.executed) (linked : before.linked = engine.linked)
    (node : before.node = engine.node)
    (stopReason : before.stopReason = none → engine.stopReason = none) :
    Service engine next effects := by
  cases service with
  | takes taken same still requested replies =>
    exact .takes taken (work ▸ same) (still.trans executed) requested replies
  | runs request running same still requested replies =>
    exact .runs request (stopReason running) (work ▸ same) (executed ▸ still) requested
      (linked ▸ node ▸ replies)

/-- **Every move of a worker takes requests, none or one, or runs one.** -/
theorem Move.service {engine : Engine} {act : Act Engine}
    (worker : engine.scheduler.isMaster = false) (move : Move engine act) :
    Service engine act.value act.effects := by
  cases move with
  | start created =>
    obtain ⟨value, deeds⟩ := engine.start_eq
    rw [value]
    refine .rests rfl rfl ?_ ?_
    · rw [← Effect.requested_deeds, deeds]
      cases engine.scheduler.role with
      | master => rfl
      | worker => cases engine.linked <;> rfl
    · rw [← Effect.replies_deeds, deeds]
      cases engine.scheduler.role with
      | master => rfl
      | worker => cases engine.linked <;> rfl
  | @accept event rest alive arrived => exact (service_accept event).of_same rfl rfl rfl rfl id
  | cutOff alive | measure alive => exact .rests rfl rfl rfl rfl
  | @handle message rest alive =>
    exact (service_handle { engine with inbound := rest } worker message).of_same rfl rfl rfl rfl id
  | @depart node rest alive =>
    exact (service_depart { engine with departed := rest } worker node).of_same rfl rfl rfl rfl id
  | @arrive node rest alive => exact (service_arrive node).of_same rfl rfl rfl rfl id
  | dispatch alive => exact service_dispatch worker
  | run alive running queued => exact service_execute running queued
  | turn alive ongoing silent =>
    refine .unspoken rfl rfl ?_
    rw [silent]
    exact List.forall_mem_nil _
  | finish alive => exact engine.service_finish
  | conclude alive running =>
    exact (service_finish _).of_same rfl rfl rfl rfl fun _ => running
  | @breakDown cause alive =>
    have silent : ∀ effect ∈ Effect.deeds (engine.breakDown cause).effects,
        effect.isSpoken = false :=
      unselected_of_ending rfl (fun _ => rfl) fun _ => mem_deeds_breakDown alive
    rw [(engine.breakDown_eq cause alive).1]
    exact .unspoken rfl rfl silent

/-- **A node keeps its part in the pool.** -/
theorem Move.isMaster {engine : Engine} {act : Act Engine} (move : Move engine act) :
    act.value.scheduler.isMaster = engine.scheduler.isMaster := by
  cases move with
  | start created => rw [engine.value_start]
  | @accept event rest alive arrived => exact (steady_accept _ event).isMaster
  | cutOff alive | measure alive | turn alive => rfl
  | @handle message rest alive => exact (steady_handle _ message).isMaster
  | @depart node rest alive => exact (steady_depart _ node).isMaster
  | @arrive node rest alive => exact (steady_arrive _ node).isMaster
  | dispatch alive => exact engine.steady_dispatch.isMaster
  | @run request rest alive => exact (steady_execute _ request).isMaster
  | finish alive => rw [engine.kept_finish.1]
  | conclude alive => exact congrArg Scheduler.isMaster (kept_finish _).1
  | @breakDown cause alive => rw [(engine.breakDown_eq cause alive).1]

/-! ### The departure of the master -/

/-- A reason to stop that was asked for is the one that there was or the new one. -/
private theorem requestStop_eq {engine : Engine} {asked reason : StopReason}
    (stated : (engine.requestStop asked).stopReason = some reason) :
    engine.stopReason = some reason ∨ asked = reason := by
  rcases Option.or_eq_some_iff.mp stated with kept | ⟨_, found⟩
  · exact .inl kept
  · exact .inr (Option.some.inj found)

private theorem stopReason_shutdown {engine : Engine}
    (stated : engine.shutdown.value.stopReason = some .masterDeparted) :
    engine.stopReason = some .masterDeparted := by
  rcases engine.shutdown_cases with ⟨_, value, _⟩ | ⟨_, same⟩
  · rw [value] at stated
    exact (requestStop_eq stated).resolve_right nofun
  · rw [same] at stated
    exact stated

/-- **A worker takes the departure of its master for a reason to stop only when no request waits**,
and then its run ends. -/
theorem Move.masterDeparted {engine : Engine} {act : Act Engine} (move : Move engine act)
    (stated : act.value.stopReason = some .masterDeparted) :
    engine.stopReason = some .masterDeparted ∨ act.value.work = [] ∧ act.value.isGone = true := by
  cases move with
  | start created =>
    rw [engine.value_start] at stated
    exact .inl stated
  | @accept event rest alive arrived =>
    rw [stopReason_accept] at stated
    refine (Option.or_eq_some_iff.mp stated).imp_right ?_
    rintro ⟨_, cause⟩
    cases event with
    | membership change =>
      cases change with
      | departed node =>
        rw [stopCause?] at cause
        split at cause <;> cases cause
      | joined node => cases cause
      | poolTerminated => cases cause
    | message | submit | endSubmissions | shutdown => cases cause
  | cutOff alive => exact .inl ((requestStop_eq stated).resolve_right (by decide))
  | measure alive | turn alive => exact .inl stated
  | @handle message rest alive =>
    rw [(handle_same _ message).stopReason] at stated
    exact .inl stated
  | @depart node rest alive =>
    rw [(depart_same _ node).stopReason] at stated
    exact .inl stated
  | @arrive node rest alive =>
    rw [(arrive_same _ node).stopReason] at stated
    exact .inl stated
  | dispatch alive =>
    rw [engine.dispatch_same.stopReason] at stated
    exact .inl stated
  | @run request rest alive =>
    rw [(execute_same _ request).stopReason] at stated
    exact .inl stated
  | finish alive =>
    rw [engine.finish_cases.1] at stated
    exact .inl (stopReason_shutdown stated)
  | conclude alive running idle =>
    exact .inr ⟨(kept_finish _).2.2.1.trans idle, rfl⟩
  | @breakDown cause alive =>
    rw [(engine.breakDown_eq cause alive).1] at stated
    exact .inl stated

end Engine

namespace Session

/-! ### Sessions -/

section Runs

variable {node : NodeId} {history : List Effect} {session : Session} {act : Act Session}

/-- **Every stride of a worker takes requests, none or one, or runs one.** -/
theorem Stride.service (worker : session.engine.scheduler.isMaster = false)
    (stride : Stride session act) :
    Engine.Service session.engine act.value.engine act.effects := by
  cases stride with
  | turn fresh turn =>
    cases turn with
    | move move => exact move.service worker
    | surround | post | submit => exact .rests rfl rfl rfl rfl
    | drop gone silent =>
      refine .unspoken rfl rfl ?_
      rw [silent]
      exact List.forall_mem_nil _
    | dismiss gone told =>
      refine .unspoken rfl rfl ?_
      rw [told]
      exact List.forall_mem_singleton.mpr rfl
  | begin => exact .rests rfl rfl rfl rfl
  | shutdown => exact session.engine.service_shutdown

theorem Stride.isMaster (stride : Stride session act) :
    act.value.engine.scheduler.isMaster = session.engine.scheduler.isMaster := by
  cases stride with
  | turn fresh turn =>
    cases turn with
    | move move => exact move.isMaster
    | surround | post | submit | drop | dismiss => rfl
  | begin => rfl
  | shutdown => rw [Session.change, session.engine.kept_shutdown.1]

/-- What a stride of a worker means for the departure of its master. -/
theorem Stride.masterDeparted (stride : Stride session act)
    (stated : act.value.engine.stopReason = some .masterDeparted) :
    session.engine.stopReason = some .masterDeparted ∨
      act.value.engine.work = [] ∧ act.value.engine.isGone = true := by
  cases stride with
  | turn fresh turn =>
    cases turn with
    | move move => exact move.masterDeparted stated
    | surround | post | submit | drop | dismiss => exact .inl stated
  | begin => exact .inl stated
  | shutdown => exact .inl (Engine.stopReason_shutdown stated)

/-- Only an engine that is not gone takes or runs requests. -/
theorem Stride.work_of_gone (stride : Stride session act) (gone : session.engine.isGone = true) :
    act.value.engine.work = session.engine.work := by
  have alive : ∀ {engine : Engine}, engine = session.engine → engine.isGone = false → False := by
    intro engine same alive
    cases (same ▸ alive).symm.trans gone
  cases stride with
  | turn fresh turn =>
    cases turn with
    | move move => exact (alive rfl move.alive).elim
    | surround | drop | dismiss => rfl
    | post present | submit present => exact (alive rfl present).elim
  | begin => rfl
  | shutdown present => exact (alive rfl present).elim

/-- **The requests that a worker has handled are those that it has answered and those that wait.** A
worker without a reason to stop has its link, and one whose master has departed has answered all. -/
structure Serving (node : NodeId) (history : List Effect) (session : Session)
    (served : List WorkRequest) : Prop where
  own : session.engine.node = node
  worker : session.engine.scheduler.isMaster = false
  linked : session.engine.stopReason = none → session.engine.linked = true
  requested : Effect.requested history = served ++ session.engine.work
  replies : Effect.replies history = served.map (WorkRequest.reply node)
  executed : session.engine.executed = served.length
  finished : session.engine.stopReason = some .masterDeparted →
    session.engine.work = [] ∧ session.engine.isGone = true

theorem serving_create (options : Options) {node master : NodeId} (link : Link)
    (other : node ≠ master) : Serving node [] (create options node master link) [] := by
  refine ⟨rfl, ?_, fun _ => rfl, rfl, rfl, rfl, nofun⟩
  change Scheduler.isMaster (.create options.policy node master) = false
  rw [Scheduler.create, Scheduler.isMaster, if_neg other]

/-- **Every stride adds to the answered requests what it answers.** -/
theorem Serving.stride {served : List WorkRequest} (serving : Serving node history session served)
    (stride : Stride session act) :
    ∃ more, Serving node (history ++ act.effects) act.value (served ++ more) := by
  obtain ⟨same, kept, _, passage, _⟩ := stride.course
  have worker := stride.isMaster.trans serving.worker
  have linked : act.value.engine.stopReason = none → act.value.engine.linked = true := by
    intro running
    cases passage with
    | stays phase linked unclosed =>
      rw [linked]
      refine serving.linked (Option.eq_none_iff_forall_ne_some.mpr fun reason stated => ?_)
      cases running.symm.trans (kept reason stated)
    | stops began stopped unlinked closed stated =>
      rw [running] at stated
      cases stated
  have finished : act.value.engine.stopReason = some .masterDeparted →
      act.value.engine.work = [] ∧ act.value.engine.isGone = true := by
    intro stated
    refine (stride.masterDeparted stated).elim (fun before => ?_) id
    obtain ⟨none, gone⟩ := serving.finished before
    exact ⟨(stride.work_of_gone gone).trans none, stride.isGone gone⟩
  cases stride.service serving.worker with
  | takes taken work executed requested replies =>
    refine ⟨[], same.trans serving.own, worker, linked, ?_, ?_, ?_, finished⟩
    · rw [Effect.requested_append, requested, serving.requested, work, List.append_nil,
        List.append_assoc]
    · rw [Effect.replies_append, replies, serving.replies, List.append_nil, List.append_nil]
    · rw [executed, serving.executed, List.append_nil]
  | runs request running work executed requested replies =>
    refine ⟨[request], same.trans serving.own, worker, linked, ?_, ?_, ?_, finished⟩
    · rw [Effect.requested_append, requested, serving.requested, work, List.append_nil,
        List.append_assoc, List.singleton_append]
    · rw [serving.linked running, serving.own] at replies
      rw [Effect.replies_append, replies, serving.replies, List.map_append]
      rfl
    · rw [executed, serving.executed, List.length_append]
      rfl

end Runs

/-- **A worker answers the requests that it handles in order, each of them once.** Its replies are
those that a first part of the requests is due, one for every job that it has run. Once it stops for
the departure of its master, that part is the whole. -/
theorem requests_answered (options : Options) {node master : NodeId} (link : Link)
    (other : node ≠ master) (handlings : List Handling) :
    let act := (create options node master link).handleAll handlings
    ∃ served, served <+: Effect.requested act.effects ∧
      Effect.replies act.effects = served.map (WorkRequest.reply node) ∧
      act.value.engine.executed = served.length ∧
      (act.value.engine.stopReason = some .masterDeparted →
        served = Effect.requested act.effects) := by
  intro act
  have kept : ∀ {history : List Effect} {session : Session} {next : Act Session},
      (∃ served, Serving node history session served) → Stride session next →
      ∃ served, Serving node (history ++ next.effects) next.value served := by
    rintro history session next ⟨served, serving⟩ stride
    obtain ⟨more, still⟩ := serving.stride stride
    exact ⟨served ++ more, still⟩
  obtain ⟨served, serving⟩ := @Chain.keeps _ _ _ _ _
    (fun history session => ∃ served, Serving node history session served) kept []
    (chain_owned options node master link handlings) ⟨[], serving_create options link other⟩
  have requested : Effect.requested act.effects = served ++ act.value.engine.work :=
    serving.requested
  refine ⟨served, ⟨_, requested.symm⟩, serving.replies, serving.executed, fun stated => ?_⟩
  rw [requested, (serving.finished stated).1, List.append_nil]

/-- A job that doubles every byte. -/
def doubling : Job := .ofFunction "double" fun input => .returned (input.map (2 * ·))

/-- A job that panics. -/
def panicking : Job := .ofFunction "panic" fun _ => .panicked (some "boom")

/-- A worker is given a job that returns, one that fails and, by another node, one that panics. Its
link refuses the first reply, and a registration and the departure of its master come between. -/
def orphaning : List Handling :=
  [.meet (.advance true),
    .meet (.deliver ⟨1, .execute 0 doubling [1, 2]⟩), .meet (.deliver ⟨3, .register⟩),
    .meet (.deliver ⟨1, .execute 1 (.failing 0) [3]⟩), .meet (.announce (.departed 1)),
    .meet (.deliver ⟨3, .execute 7 panicking []⟩),
    .meet (.relink { refusal := some .poolTerminated }), .meet (.advance true),
    .meet (.relink {}), .meet (.advance true), .meet (.advance true), .meet (.advance true)]

/-- All three requests are answered in order, the refused reply among them. -/
theorem requests_answered_orphaned :
    let requests : List WorkRequest :=
      [⟨1, 0, doubling, [1, 2]⟩, ⟨1, 1, .failing 0, [3]⟩, ⟨3, 7, panicking, []⟩]
    let act := (create ({} : Settings).options 2 1 {}).handleAll orphaning
    (2 : NodeId) ≠ 1 ∧ act.value.engine.stopReason = some .masterDeparted ∧
      act.value.engine.executed = 3 ∧
      Effect.replies act.effects = requests.map (WorkRequest.reply 2) := by
  obtain ⟨served, _, replies, executed, whole⟩ :=
    requests_answered ({} : Settings).options {} (show (2 : NodeId) ≠ 1 by decide) orphaning
  have served := whole rfl
  subst served
  exact ⟨by decide, rfl, executed, replies⟩

end Session

end JobPool
