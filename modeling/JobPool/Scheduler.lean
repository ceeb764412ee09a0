/-
**The scheduler.**

On the master the scheduler keeps the pending jobs in the order in which they are to be dispatched,
and a record of every worker it has seen, with a forecaster of its own. On a worker it only keeps
whether the master has departed.

* `Scheduler.join` and `Scheduler.leave` follow the membership. A worker that has departed never
  gets a record again.
* `Scheduler.maintain` dispatches the first pending job to a ready worker, if there is one.
* `Scheduler.reclaim` closes the account of a departed worker and returns its jobs to the end of the
  queue, except those that have used up their attempts.
* `Scheduler.complete` learns from a completion.
-/

import JobPool.Forecast.Forecaster
import JobPool.Ledger
import JobPool.Selection
import JobPool.Settings.Options

namespace JobPool

/-! ## Links -/

/-- The way out of a node. A link in order accepts every message. -/
structure Link where
  /-- The fault with which messages are refused. -/
  refusal : Option Fault := none
  /-- The fault with which the link is joined after its shutdown. -/
  joinFault : Option Fault := none

/-- Hands a message to the link, which accepts or refuses it. -/
def Link.send (link : Link) (destination : NodeId) (payload : Payload) :
    Act (Except Fault Unit) := do
  Traced.emit (.sent destination payload link.refusal.isNone)
  match link.refusal with
  | some fault => return .error fault
  | none => return .ok ()

/-! ## State -/

/-- The part of a node in the pool. -/
inductive Role where
  | master
  | worker (master : NodeId) (masterGone : Bool)
  deriving DecidableEq, Repr

def Role.text : Role → String
  | master => "master"
  | worker leader _ => s!"worker of master {leader}"

/-- What the master knows about a worker. -/
structure WorkerRecord where
  forecaster : Forecaster
  departed : Bool := false
  dispatched : Nat := 0
  completed : Nat := 0
  failed : Nat := 0

/-- The pending jobs and the records of the workers. -/
structure Scheduler where
  policy : Policy
  node : NodeId
  role : Role
  queue : List Submission := []
  records : Roster NodeId WorkerRecord := .empty
  /-- The workers that have departed, seen or not, each listed once. -/
  departed : List NodeId := []
  rule : SelectionRule
  /-- The stream from which the records take theirs. -/
  seeds : Random.Stream
  /-- Jobs that ran out of attempts and are still to be reported. -/
  abandoned : List Submission := []

/-- What a record says to the outside. -/
structure WorkerSummary where
  worker : NodeId
  dispatched : Nat
  completed : Nat
  failed : Nat
  samples : Nat
  average : Float
  departed : Bool

namespace Scheduler

/-- The selection rule of a policy, before its first choice. -/
def initialRule (policy : Policy) : SelectionRule :=
  match policy.selector with
  | .learning => .learning policy.accountQueuedWork
  | .roundRobin => .roundRobin none

/-- The scheduler of a node, which is the master when it is named as such. -/
def create (policy : Policy) (node master : NodeId) : Scheduler :=
  { policy := policy
    node := node
    role := if node = master then .master else .worker master false
    rule := initialRule policy
    seeds := match policy.seed with
      | some seed => .ofSeed seed
      | none => policy.entropy }

def isMaster (scheduler : Scheduler) : Bool :=
  match scheduler.role with
  | .master => true
  | .worker .. => false

def summaries (scheduler : Scheduler) : List WorkerSummary :=
  scheduler.records.entries.map fun (worker, record) =>
    { worker := worker
      dispatched := record.dispatched
      completed := record.completed
      failed := record.failed
      samples := record.forecaster.model.count
      average := record.forecaster.model.average
      departed := record.departed }

/-- Nothing is left to do: on the master no job is pending or outstanding, on a worker the master
has departed. -/
def isDone (scheduler : Scheduler) (ledger : Ledger) : Bool :=
  match scheduler.role with
  | .master => scheduler.queue.isEmpty && ledger.isEmpty
  | .worker _ masterGone => masterGone

/-! ## The queue -/

/-- Puts a job at the end of the queue. -/
def enqueue (scheduler : Scheduler) (submission : Submission) : Act Scheduler := do
  Traced.emit (.queued submission.id submission.attempt)
  return { scheduler with queue := scheduler.queue ++ [submission] }

/-- Accepts a new job on the master. -/
def submit (scheduler : Scheduler) (submission : Submission) : Act (Except Fault Scheduler) := do
  match scheduler.role with
  | .master => return .ok (← scheduler.enqueue submission)
  | .worker .. => return .error (.submittedToWorker submission.id)

/-- The job has used up the attempts that the policy allows. -/
def isExhausted (scheduler : Scheduler) (submission : Submission) : Bool :=
  match scheduler.policy.maxAttempts with
  | some limit => limit ≤ submission.attempt
  | none => false

/-- Takes a job back whose worker departed. -/
def giveBack (scheduler : Scheduler) (submission : Submission) : Act Scheduler := do
  if !scheduler.isMaster then
    Act.error s!"cannot return job {submission.id} to a worker node"
    return scheduler
  if scheduler.isExhausted submission then
    Act.warn s!"abandoning job {submission.id} after {submission.attempt} attempt(s)"
    return { scheduler with abandoned := scheduler.abandoned ++ [submission] }
  scheduler.enqueue submission.retry

/-- Hands over the abandoned jobs. -/
def takeAbandoned (scheduler : Scheduler) : List Submission × Scheduler :=
  (scheduler.abandoned, { scheduler with abandoned := [] })

/-! ## Membership -/

/-- Gives a worker a record when it is first seen. -/
def join (scheduler : Scheduler) (worker : NodeId) : Act Scheduler := do
  if worker = scheduler.node || !scheduler.isMaster then return scheduler
  if scheduler.departed.contains worker then
    Act.warn s!"worker {worker} has departed and cannot join again"
    return scheduler
  if scheduler.records.contains worker then return scheduler
  let (own, seeds) := scheduler.seeds.child
  let forecaster := Forecaster.create scheduler.policy.kind scheduler.policy.alpha own
  Act.info s!"worker {worker} joined"
  return { scheduler with
    records := scheduler.records.insert worker { forecaster := forecaster }
    seeds := seeds }

/-- Notes that a node has departed. -/
def leave (scheduler : Scheduler) (worker : NodeId) : Act Scheduler := do
  match scheduler.role with
  | .worker master _ =>
    if worker ≠ master then return scheduler
    Act.warn s!"master {worker} has departed"
    return { scheduler with role := .worker master true }
  | .master =>
    if scheduler.records.contains worker then Act.info s!"worker {worker} left"
    return { scheduler with
      departed := if scheduler.departed.contains worker then scheduler.departed
        else scheduler.departed ++ [worker]
      records := scheduler.records.modify worker fun record => { record with departed := true } }

/-- Closes the account of a departed worker and takes its jobs back in order. The result begins with
the number of jobs. -/
def reclaim (scheduler : Scheduler) (ledger : Ledger) (worker : NodeId) :
    Act (Nat × Scheduler × Ledger) := do
  match ledger.accounts.get? worker with
  | some (.active requests) =>
    let scheduler ← requests.foldlM
      (fun scheduler request => scheduler.giveBack request.submission) scheduler
    let count := requests.length
    Act.info s!"worker {worker} removed with {count} outstanding request(s) returned"
    return (count, scheduler, ledger.close worker)
  | some .closed =>
    Act.warn s!"worker {worker} is already removed"
    return (0, scheduler, ledger.close worker)
  | none =>
    Act.debug s!"worker {worker} departed before registering"
    return (0, scheduler, ledger.close worker)

/-! ## Dispatching -/

/-- The workers that are ready for another job, in the order in which they were first seen. -/
def candidates (scheduler : Scheduler) (ledger : Ledger) : List Candidate :=
  scheduler.records.entries.zipIdx.filterMap fun ((worker, record), position) =>
    if !record.departed && ledger.hasCapacity worker scheduler.policy.maxOutstanding then
      some
        { worker := worker
          position := position
          outstanding := ledger.outstandingOn worker
          high := record.forecaster.model.high }
    else none

/-- Asks the forecaster in a candidate's record. -/
def ask (candidate : Candidate) : StateM (Roster NodeId WorkerRecord) Float := fun records =>
  match records.get? candidate.worker with
  | none => (1 / 0, records)
  | some record =>
    let (value, forecaster) := record.forecaster.likely
    (value, records.modify candidate.worker fun record => { record with forecaster := forecaster })

/-- Dispatches the first pending job to a ready worker. The result begins with whether a job was
dispatched; a message that the link refuses leaves the request outstanding until its worker
departs. -/
def maintain (scheduler : Scheduler) (ledger : Ledger) (link : Link) :
    Act (Bool × Scheduler × Ledger) := do
  if !scheduler.isMaster then return (false, scheduler, ledger)
  match scheduler.queue with
  | [] => return (false, scheduler, ledger)
  | submission :: rest =>
    let ((chosen, rule), records) :=
      (scheduler.rule.select ask (scheduler.candidates ledger)).run scheduler.records
    let scheduler := { scheduler with rule := rule, records := records }
    match chosen with
    | none => return (false, scheduler, ledger)
    | some worker =>
      match ← ledger.issue worker submission with
      | .error rejection =>
        Act.error (s!"failed to dispatch job {submission.id} to worker {worker}: " ++
          rejection.fault.message)
        return (false, scheduler, ledger)
      | .ok (request, ledger) =>
        let scheduler := { scheduler with
          queue := rest
          records := scheduler.records.modify worker fun record =>
            { record with dispatched := record.dispatched + 1 } }
        Act.debug (s!"dispatching job {submission.id} (attempt {submission.attempt}) to worker " ++
          s!"{worker} as request {request}")
        match ← link.send worker (.execute request submission.job submission.input) with
        | .ok () => return (true, scheduler, ledger)
        | .error fault =>
          Act.warn s!"failed to send request {request} to worker {worker}: {fault.message}"
          return (true, scheduler, ledger)

/-- Learns from a completion that a worker reported, with the seconds it took. -/
def complete (scheduler : Scheduler) (worker : NodeId) (seconds : Float) (failed : Bool) :
    Act Scheduler := do
  if !scheduler.records.contains worker then
    Act.warn s!"worker {worker} not found"
    return scheduler
  let learns := !failed || scheduler.policy.learnFromFailures
  return { scheduler with
    records := scheduler.records.modify worker fun record =>
      { record with
        completed := record.completed + 1
        failed := if failed then record.failed + 1 else record.failed
        forecaster := if learns then record.forecaster.add (Scale.clamp seconds)
          else record.forecaster } }

/-- The scheduler in the log. -/
def report (scheduler : Scheduler) : Act Unit := do
  Act.debug (s!"scheduler ({scheduler.role.text}, {scheduler.rule.name} selector): " ++
    s!"{scheduler.queue.length} pending job(s), {scheduler.records.size} worker(s)")
  scheduler.records.entries.forM fun (worker, record) => do
    let model := record.forecaster.model
    Act.debug (s!"  worker {worker}: {model.name} estimate {Decimal.fixed 3 model.average}s " ++
      s!"(+{Decimal.fixed 3 model.deviation}s) from {model.count} sample(s), " ++
      s!"dispatched {record.dispatched}, completed {record.completed}, failed {record.failed}" ++
      (if record.departed then ", departed" else ""))

end Scheduler

end JobPool
