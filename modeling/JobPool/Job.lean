/-
**Jobs.**

A job is a unit of work that a node runs on a sequence of bytes. Every run ends: it returns bytes,
reports a failure, or panics with a reason that may not be a text. A run also says how long it
takes, which is what its worker is judged by.

* `Job.sleep`, `Job.failing` and `Job.ofFunction` are the jobs that come with the pool. Any other job
  can be submitted as well, one that blocks among them.
-/

import JobPool.Duration
import JobPool.Identity

namespace JobPool

/-- Input and output of jobs. -/
abbrev Bytes := List UInt8

/-- How the run of a job ends. -/
inductive Ending where
  | returned (result : Bytes)
  | failed (reason : String)
  | panicked (reason : Option String)
  deriving DecidableEq, Repr

namespace Ending

/-- The words of a reported failure. -/
def failureText (reason : String) : String := "job failed: " ++ reason

/-- The words of a panic, whose reason may not be a text. -/
def panicText (reason : Option String) : String := reason.getD "unknown panic"

/-- What is sent back: the result, empty after a failure, and whether the run failed. -/
def reply : Ending → Bytes × Bool
  | returned result => (result, false)
  | failed _ | panicked _ => ([], true)

end Ending

/-- One run of a job. -/
structure Execution where
  ending : Ending
  duration : Duration := {}
  deriving DecidableEq, Repr

/-- A unit of work, which may depend on the node that runs it. -/
structure Job where
  description : String
  run : NodeId → Bytes → Execution
  /-- The run blocks until something outside the pool lets it go on. -/
  gated : Bool := false

namespace Job

/-- A job given by a function of its input. -/
def ofFunction (name : String) (ending : Bytes → Ending) : Job :=
  { description := s!"FnJob \x7b name: \"{name}\" \x7d"
    run := fun _ input => { ending := ending input } }

/-- A job that takes some time and returns its input. -/
def sleep (millis : Nat) : Job :=
  { description := s!"SleepJob \x7b duration: {millis}ms \x7d"
    run := fun _ input => { ending := .returned input, duration := .ofMillis millis } }

/-- A job that takes some time and fails. -/
def failing (millis : Nat) : Job :=
  { description := "FailingJob \x7b delay: " ++ (if millis = 0 then "0ns" else s!"{millis}ms") ++
      " \x7d"
    run := fun _ _ =>
      { ending := .failed "the job was configured to fail", duration := .ofMillis millis } }

end Job

end JobPool
