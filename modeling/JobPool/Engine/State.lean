/-
**The state of an engine.**

An engine is the control loop of one node. It owns the scheduler and the ledger, takes events from
its mailbox and sorts them into queues, and keeps which submitter waits for which job. Its stages
say where its run stands; its phase says whether its link is in use. Times that an engine would only
measure are not part of its state.
-/

import JobPool.Scheduler

namespace JobPool

/-- Whether the link of an engine is in use. -/
inductive Phase where
  | running
  /-- The link delivers what it has accepted. -/
  | draining
  | stopped
  deriving DecidableEq, Repr

def Phase.name : Phase → String
  | running => "Running"
  | draining => "Draining"
  | stopped => "Stopped"

/-- Why an engine stops. -/
inductive StopReason where
  /-- All jobs have been answered and no more are expected. -/
  | completed
  | masterDeparted
  | shutdownRequested
  | poolTerminated
  /-- The pool took the node for dead. -/
  | declaredDead
  /-- Nobody can send events any more. -/
  | disconnected
  deriving DecidableEq, Repr

def StopReason.name : StopReason → String
  | completed => "Completed"
  | masterDeparted => "MasterDeparted"
  | shutdownRequested => "ShutdownRequested"
  | poolTerminated => "PoolTerminated"
  | declaredDead => "DeclaredDead"
  | disconnected => "Disconnected"

/-- Where the run of an engine stands. -/
inductive Stage where
  | created
  /-- The engine makes passes as long as they bring progress. -/
  | passing
  /-- A pass has come to its job, which blocks. -/
  | holding
  /-- The engine waits for an event. -/
  | waiting
  /-- The run has ended with a report. -/
  | finished
  /-- The engine went away without a report. -/
  | discarded
  deriving DecidableEq, Repr

/-- A job that a master asked this node to run. -/
structure WorkRequest where
  source : NodeId
  request : RequestId
  job : Job
  input : Bytes

/-- The control loop of one node. -/
structure Engine where
  options : Options
  node : NodeId
  scheduler : Scheduler
  ledger : Ledger := {}
  stage : Stage := .created
  phase : Phase := .running
  link : Link := {}
  /-- The engine still holds its link. -/
  linked : Bool := true
  /-- The events that have arrived and not been accepted. -/
  mailbox : List Event := []
  /-- Somebody can still send events. -/
  connected : Bool := true
  inbound : List Message := []
  departed : List NodeId := []
  joined : List NodeId := []
  work : List WorkRequest := []
  /-- The submitters that wait for the outcome of a job. -/
  subscribers : Roster JobId Ticket := .empty
  /-- The tickets whose submitters have stopped waiting. -/
  abandonedTickets : List Ticket := []
  jobIds : IdSource := {}
  acceptsSubmissions : Bool := true
  stopReason : Option StopReason := none
  /-- The nodes that have joined and not departed, other than this one. -/
  activePeers : Nat := 0
  /-- The messages handled. -/
  messages : Nat := 0
  /-- The most messages that one pass found waiting. -/
  longestQueue : Nat := 0
  /-- The jobs run. -/
  executed : Nat := 0

/-- What is known about an engine after it has stopped. -/
structure Report where
  node : NodeId
  role : Role
  stopReason : StopReason
  messages : Nat
  longestQueue : Nat
  executed : Nat
  departedNodes : Nat
  workers : List WorkerSummary

namespace Engine

/-- The engine of a node in a pool with the given master. -/
def create (options : Options) (node master : NodeId) (link : Link) : Engine :=
  { options := options
    node := node
    scheduler := .create options.policy node master
    link := link }

/-- The reason for which the engine stops; without one it counts as asked to. -/
def finalReason (engine : Engine) : StopReason := engine.stopReason.getD .shutdownRequested

def report (engine : Engine) : Report :=
  { node := engine.node
    role := engine.scheduler.role
    stopReason := engine.finalReason
    messages := engine.messages
    longestQueue := engine.longestQueue
    executed := engine.executed
    departedNodes := engine.scheduler.departed.length
    workers := engine.scheduler.summaries }

/-- Asks the engine to stop. The first reason stays. -/
def requestStop (engine : Engine) (reason : StopReason) : Engine :=
  { engine with stopReason := engine.stopReason.or (some reason) }

/-- The engine takes no more events. -/
def isGone (engine : Engine) : Bool :=
  match engine.stage with
  | .finished | .discarded => true
  | .created | .passing | .holding | .waiting => false

/-! ## The log -/

/-- The statistics of a stopped engine in the log. -/
def logStatistics (engine : Engine) : Act Unit := do
  Act.info s!"engine on node {engine.node} stopped ({engine.finalReason.name})"
  let none := Decimal.fixed 3 0
  Act.info (s!"  message handling {none}s, request handling {none}s, idle {none}s, " ++
    s!"executed {engine.executed} job(s)")
  Act.info (s!"  receive queue linger: {TimeTally.unmeasuredText engine.messages}, " ++
    s!"max length {engine.longestQueue}")

/-- The state of a waiting engine in the log. -/
def logState (engine : Engine) : Act Unit := do
  Act.debug (s!"engine on node {engine.node} ({engine.phase.name}): " ++
    s!"{engine.activePeers} active peer(s), {engine.work.length} queued work request(s), " ++
    s!"{engine.subscribers.size} waiting submitter(s)")
  Act.debug (s!"  receive queue linger: {TimeTally.unmeasuredText engine.messages}, " ++
    s!"max length {engine.longestQueue}, {engine.scheduler.departed.length} departed node(s)")
  engine.scheduler.report
  engine.ledger.report

end Engine

end JobPool
