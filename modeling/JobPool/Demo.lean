/-
**A demonstration.**

A demonstration runs simulated jobs on a pool of one master and some workers. A job takes a base
duration, scaled by the slowdown of the worker that runs it, returns its own number, and fails on
purpose when that number is a multiple of a given one. The result counts the outcomes and says what
the master has learned about its workers. Jobs take their time in name only: the busiest worker's
total stands for the time of the whole run.
-/

import JobPool.Pool.Run
import JobPool.Text.Quoted

namespace JobPool

/-- What a demonstration is asked to do. -/
structure DemoPlan where
  workers : Nat := 3
  jobs : Nat := 30
  /-- The base duration of a job in milliseconds. -/
  jobMillis : Nat := 300
  /-- The slowdown factors of the first workers. -/
  slowdown : List Float := []
  /-- Every so many jobs one fails, none for zero. -/
  failEvery : Nat := 0

/-- What a demonstration has shown. -/
structure DemoResult where
  jobs : Nat
  outcomes : List Outcome
  report : Report

namespace DemoPlan

/-- The largest slowdown of a worker. -/
def largestSlowdown : Float := 1000

/-- Refuses a plan without workers or with a slowdown out of range. -/
def validate (plan : DemoPlan) : Except Fault Unit :=
  if plan.workers = 0 then .error .noWorkers
  else
    match plan.slowdown.find? fun factor => !(0 ≤ factor && factor ≤ largestSlowdown) with
    | some factor => .error (.slowdownOutOfRange factor largestSlowdown)
    | none => .ok ()

/-- The slowdown of the worker in a position. -/
def factorAt (plan : DemoPlan) (position : Nat) : Float := plan.slowdown[position]?.getD 1

/-- The number of a job as its input: eight bytes, the least significant first. -/
def encodeNumber (number : Nat) : Bytes :=
  (List.range 8).map fun place => UInt8.ofNat (number >>> (8 * place))

/-- The number of a job from its input. -/
def decodeNumber? (input : Bytes) : Option Nat :=
  if input.length = 8 then some (input.foldr (fun byte value => byte.toNat + 256 * value) 0)
  else none

/-- The job of a demonstration, with the slowdown of each worker. -/
def job (plan : DemoPlan) (factors : List (NodeId × Float)) : Job where
  description := "DemoJob"
  run node input :=
    let factor := (factors.lookup node).getD 1
    let seconds := (Duration.ofMillis plan.jobMillis).toSeconds * factor
    match Duration.ofSeconds seconds with
    | .error fault =>
      { ending := .failed
          (s!"invalid slowdown factor {Decimal.plain factor}: " ++ fault.message) }
    | .ok duration =>
      match decodeNumber? input with
      | none => { ending := .failed "the input is not a job index", duration := duration }
      | some number =>
        if plan.failEvery ≠ 0 ∧ number % plan.failEvery = 0 then
          { ending := .failed s!"job {number} failed on purpose", duration := duration }
        else { ending := .returned input, duration := duration }

/-- Launches the workers from a position on. -/
def launchWorkers (plan : DemoPlan) (options : Options) (pool : Pool) :
    List Nat → PoolAct (Except Fault (List (NodeId × Float)) × Pool)
  | [] => return (.ok [], pool)
  | position :: rest => do
    let (launched, pool) ← pool.launch options
    match launched with
    | .error fault => return (.error fault, pool)
    | .ok node =>
      let factor := plan.factorAt position
      PoolAct.log .info s!"worker {node} has slowdown factor {Decimal.plain factor}"
      let (others, pool) ← launchWorkers plan options pool rest
      return (others.map ((node, factor) :: ·), pool)

/-- Submits the jobs to the master. -/
def submitJobs (plan : DemoPlan) (master : NodeId) (job : Job) (pool : Pool) : PoolAct Pool :=
  (List.range plan.jobs).foldlM
    (fun pool number => return (← pool.submit master job (encodeNumber number)).2) pool

/-- Runs the jobs of a plan on a pool of its own. -/
def run (plan : DemoPlan) (options : Options) : PoolAct (Except Fault Pool) := do
  match plan.validate with
  | .error fault => return .error fault
  | .ok () =>
    let (launched, pool) ← ({} : Pool).launch options
    match launched with
    | .error fault => return .error fault
    | .ok master =>
      let (workers, pool) ← plan.launchWorkers options pool (List.range plan.workers)
      match workers with
      | .error fault => return .error fault
      | .ok factors =>
        let pool ← plan.submitJobs master (plan.job factors) pool
        let pool ← pool.endSubmissions master
        return .ok (← pool.settle)

/-- The outcomes of all submissions, in their order, unless one was refused. -/
def outcomes (effects : List PoolEffect) (tickets : List Ticket) : Except Fault (List Outcome) :=
  let answers := Pool.answers effects
  tickets.mapM fun ticket => (answers.lookup ticket).getD (.error .engineStopped)

/-- The result of a plan, with what happened on the way. -/
def demonstrate (plan : DemoPlan) (options : Options) : PoolAct (Except Fault DemoResult) :=
  let run := plan.run options
  let result := do
    let pool ← run.value
    let outcomes ← outcomes run.effects (List.range plan.jobs)
    match pool.founder.bind pool.report? with
    | none => .error .noReport
    | some report => .ok { jobs := plan.jobs, outcomes := outcomes, report := report }
  ⟨result, run.effects⟩

end DemoPlan

namespace DemoResult

/-- The time that a worker spent on its jobs. -/
def busy (result : DemoResult) (worker : NodeId) : Duration :=
  let spent := result.outcomes.filterMap fun outcome =>
    if outcome.worker? = some worker then outcome.duration? else none
  ⟨spent.foldr (fun duration sum => duration.nanoseconds + sum) 0⟩

/-- The time of the busiest worker. -/
def elapsed (result : DemoResult) : Duration :=
  ⟨(result.report.workers.map fun summary => (result.busy summary.worker).nanoseconds).foldl
    max 0⟩

/-- What the master has learned about a worker, with its share of all completions. -/
def workerLine (total : Nat) (summary : WorkerSummary) : String :=
  let share := Float.ofNat summary.completed * 100 / Float.ofNat total
  s!"worker {summary.worker}: {summary.completed} job(s) ({Decimal.fixed 1 share}%), " ++
    s!"average {Decimal.fixed 3 summary.average}s over {summary.samples} sample(s)"

/-- The result in lines. -/
def lines (result : DemoResult) : List String :=
  let failed := result.outcomes.countP fun
    | .failed .. => true
    | .succeeded .. | .abandoned .. => false
  let abandoned := result.outcomes.countP fun
    | .abandoned .. => true
    | .succeeded .. | .failed .. => false
  let succeeded := result.outcomes.countP Outcome.isSuccess
  let total := max 1 (result.report.workers.foldr (fun summary sum => summary.completed + sum) 0)
  let none := Decimal.fixed 3 0
  (s!"{result.jobs} job(s) in {Decimal.fixed 3 result.elapsed.toSeconds}s: " ++
      s!"{succeeded} succeeded, {failed} failed, {abandoned} abandoned") ::
    result.report.workers.map (workerLine total) ++
    [s!"master: message handling {none}s, request handling {none}s, idle {none}s"]

end DemoResult

end JobPool
