/-
**One pass of an engine.**

A pass does all that can be done without waiting, in a fixed order: it accepts every event in the
mailbox, handles every message, applies every departure and then every join, dispatches at most one
job and runs at most one. Commands take effect as they are accepted. Once the engine has a reason to
stop, the pass ends after the messages.

* `Engine.beginPass` is the pass up to the dispatch, `Engine.runOne` the rest;
* `Engine.tick` is the whole pass, with whether it brought progress.
-/

import JobPool.Engine.State

namespace JobPool.Engine

/-! ## Submitters -/

/-- Answers a submitter. -/
def answer (ticket : Ticket) (result : Answer) : Act Unit :=
  Traced.emit (.answered ticket result)

/-- Tells the submitter of a job how it ended, if one still waits. -/
def notify (engine : Engine) (job : JobId) (outcome : Outcome) : Act Engine := do
  match engine.subscribers.get? job with
  | none => return engine
  | some ticket =>
    answer ticket (.ok outcome)
    if engine.abandonedTickets.contains ticket then
      Act.debug s!"the submitter of job {job} is no longer waiting"
    return { engine with subscribers := engine.subscribers.erase job }

/-- Takes in a submission, or tells its submitter why not. -/
def submit (engine : Engine) (ticket : Ticket) (job : Job) (input : Bytes) : Act Engine := do
  if !engine.acceptsSubmissions then
    answer ticket (.error .submissionsEnded)
    return engine
  match engine.jobIds.take with
  | none =>
    answer ticket (.error (.idsExhausted .job))
    return engine
  | some (id, source) =>
    let engine := { engine with jobIds := source }
    match ← engine.scheduler.submit { id := id, job := job, input := input } with
    | .error fault =>
      answer ticket (.error fault)
      return engine
    | .ok scheduler =>
      Traced.emit (.admitted ticket id)
      return { engine with
        scheduler := scheduler
        subscribers := engine.subscribers.insert id ticket }

/-! ## Events -/

/-- Sorts an event into the queue of the step that handles it. Commands take effect at once. -/
def accept (engine : Engine) : Event → Act Engine
  | .message message => return { engine with inbound := engine.inbound ++ [message] }
  | .membership (.joined node) => return { engine with joined := engine.joined ++ [node] }
  | .membership (.departed node) => do
    if node = engine.node then
      Act.error s!"node {node} has been declared dead"
      return engine.requestStop .declaredDead
    return { engine with departed := engine.departed ++ [node] }
  | .membership .poolTerminated => do
    Act.warn "the pool has been terminated"
    return engine.requestStop .poolTerminated
  | .submit ticket job input => engine.submit ticket job input
  | .endSubmissions => do
    Act.debug s!"no more submissions are expected on node {engine.node}"
    return { engine with acceptsSubmissions := false }
  | .shutdown => do
    Act.info s!"shutdown requested on node {engine.node}"
    return engine.requestStop .shutdownRequested

/-- Handles a completion. The first completion of an outstanding request answers its submitter; a
departed worker is still learned from, and anything else is ignored. -/
def complete (engine : Engine) (worker : NodeId) (request : RequestId) (result : Bytes)
    (failed : Bool) (seconds : Float) : Act Engine := do
  let (resolved, ledger) ← engine.ledger.resolve worker request failed
  Traced.emit (.resolved worker request resolved.isSome)
  let engine := { engine with ledger := ledger }
  match resolved with
  | none =>
    if ledger.isDeparted worker then
      let scheduler ← engine.scheduler.complete worker seconds failed
      return { engine with scheduler := scheduler }
    return engine
  | some submission =>
    let scheduler ← engine.scheduler.complete worker seconds failed
    let engine := { engine with scheduler := scheduler }
    let duration := (Duration.ofSeconds? seconds).getD {}
    let outcome : Outcome :=
      if failed then .failed submission.id worker duration submission.attempt
      else .succeeded submission.id worker result duration submission.attempt
    engine.notify submission.id outcome

/-- Handles a message. A message for the other role is only logged. -/
def handle (engine : Engine) (message : Message) : Act Engine := do
  Traced.emit (.handled message)
  let source := message.source
  let engine := { engine with messages := engine.messages + 1 }
  match message.payload, engine.scheduler.isMaster with
  | .execute .., true =>
    Act.error s!"unexpected {message.payload.name} message from node {source} on the master"
    return engine
  | .execute request job input, false =>
    return { engine with work := engine.work ++ [⟨source, request, job, input⟩] }
  | .completed .., false | .register, false =>
    Act.error s!"unexpected {message.payload.name} message from node {source} on a worker"
    return engine
  | .completed request result failed seconds, true =>
    engine.complete source request result failed seconds
  | .register, true =>
    Act.info s!"worker {source} registered"
    let ledger ← engine.ledger.register source
    let scheduler ← engine.scheduler.join source
    return { engine with ledger := ledger, scheduler := scheduler }

/-- Accepts every event in the mailbox, then handles every message. -/
def receive (engine : Engine) : Act (Engine × Bool) := do
  let events := engine.mailbox
  let engine ← events.foldlM accept { engine with mailbox := [] }
  let engine := if engine.connected then engine else engine.requestStop .disconnected
  let messages := engine.inbound
  let engine ← messages.foldlM handle { engine with
    longestQueue := max engine.longestQueue messages.length
    inbound := [] }
  return (engine, !events.isEmpty || !messages.isEmpty)

/-! ## Membership -/

/-- Applies the departure of another node. -/
def depart (engine : Engine) (node : NodeId) : Act Engine := do
  Traced.emit (.applied (.departed node))
  let engine := { engine with activePeers := engine.activePeers - 1 }
  let engine ← (do
    if !engine.scheduler.isMaster then return engine
    let (_, scheduler, ledger) ← engine.scheduler.reclaim engine.ledger node
    return { engine with scheduler := scheduler, ledger := ledger } : Act Engine)
  let scheduler ← engine.scheduler.leave node
  let (abandoned, scheduler) := scheduler.takeAbandoned
  abandoned.foldlM
    (fun engine submission =>
      engine.notify submission.id (.abandoned submission.id submission.attempt))
    { engine with scheduler := scheduler }

/-- Applies the join of a node. -/
def arrive (engine : Engine) (node : NodeId) : Act Engine := do
  if node = engine.node then return engine
  Traced.emit (.applied (.joined node))
  let scheduler ← engine.scheduler.join node
  return { engine with activePeers := engine.activePeers + 1, scheduler := scheduler }

/-- Applies every departure, then every join. -/
def applyMembership (engine : Engine) : Act (Engine × Bool) := do
  let departures := engine.departed
  let engine ← departures.foldlM depart { engine with departed := [] }
  let joins := engine.joined
  let engine ← joins.foldlM arrive { engine with joined := [] }
  return (engine, !departures.isEmpty || !joins.isEmpty)

/-! ## Dispatching and running -/

/-- Dispatches at most one job. -/
def dispatch (engine : Engine) : Act (Engine × Bool) := do
  if !engine.linked then return (engine, false)
  let (dispatched, scheduler, ledger) ← engine.scheduler.maintain engine.ledger engine.link
  return ({ engine with scheduler := scheduler, ledger := ledger }, dispatched)

/-- The line that the end of a run leaves in the log. -/
def logEnding (source : NodeId) (request : RequestId) : Ending → Act Unit
  | .returned _ => return
  | .failed reason =>
    Act.warn s!"request {request} from node {source} failed: {Ending.failureText reason}"
  | .panicked reason =>
    Act.error s!"request {request} from node {source} panicked: {Ending.panicText reason}"

/-- Runs a requested job and sends back its completion. -/
def execute (engine : Engine) (request : WorkRequest) : Act Engine := do
  let execution := request.job.run engine.node request.input
  let engine := { engine with executed := engine.executed + 1 }
  Traced.emit (.ran request.source request.request)
  logEnding request.source request.request execution.ending
  if !engine.linked then
    Act.warn s!"cannot report request {request.request} without a transport"
    return engine
  let (result, failed) := execution.ending.reply
  match ← engine.link.send request.source
    (.completed request.request result failed execution.duration.toSeconds) with
  | .ok () => return engine
  | .error fault =>
    Act.warn (s!"failed to report request {request.request} to node {request.source}: " ++
      fault.message)
    return engine

/-- Runs at most one requested job. -/
def runOne (engine : Engine) : Act (Engine × Bool) := do
  match engine.work with
  | [] => return (engine, false)
  | request :: rest =>
    let engine ← execute { engine with work := rest } request
    return (engine, true)

/-! ## The pass -/

/-- The pass up to the dispatch, with whether it brought progress. -/
def beginPass (engine : Engine) : Act (Engine × Bool) := do
  let (engine, received) ← engine.receive
  if engine.stopReason.isSome then return (engine, received)
  let (engine, moved) ← engine.applyMembership
  let (engine, dispatched) ← engine.dispatch
  return (engine, received || moved || dispatched)

/-- One pass, with whether it brought progress. -/
def tick (engine : Engine) : Act (Engine × Bool) := do
  let (engine, progress) ← engine.beginPass
  if engine.stopReason.isSome then return (engine, progress)
  let (engine, ran) ← engine.runOne
  return (engine, progress || ran)

end JobPool.Engine
