/-
**Submissions and their outcomes.**

A submission is a job with its input and the number of its next or current dispatch, which is the
only part that changes on the way between the queue and the ledger. Its outcome is reported to the
submitter once: the job succeeded or failed on a worker, or was abandoned after its last attempt.
-/

import JobPool.Job

namespace JobPool

/-- A submitted job together with its input. -/
structure Submission where
  id : JobId
  job : Job
  input : Bytes
  /-- The number of the next or current dispatch, from one. -/
  attempt : Nat := 1

/-- The submission after an attempt that was lost. -/
def Submission.retry (submission : Submission) : Submission :=
  { submission with attempt := submission.attempt + 1 }

/-- The final state of a submitted job. -/
inductive Outcome where
  | succeeded (job : JobId) (worker : NodeId) (result : Bytes) (duration : Duration)
      (attempts : Nat)
  | failed (job : JobId) (worker : NodeId) (duration : Duration) (attempts : Nat)
  | abandoned (job : JobId) (attempts : Nat)
  deriving DecidableEq, Repr

namespace Outcome

def job : Outcome → JobId
  | succeeded job .. | failed job .. | abandoned job _ => job

def result? : Outcome → Option Bytes
  | succeeded _ _ result .. => some result
  | failed .. | abandoned .. => none

/-- The worker that ran the job to its end. -/
def worker? : Outcome → Option NodeId
  | succeeded _ worker .. | failed _ worker .. => some worker
  | abandoned .. => none

/-- The time the worker took. -/
def duration? : Outcome → Option Duration
  | succeeded _ _ _ duration _ | failed _ _ duration _ => some duration
  | abandoned .. => none

def attempts : Outcome → Nat
  | succeeded _ _ _ _ attempts | failed _ _ _ attempts | abandoned _ attempts => attempts

def isSuccess : Outcome → Bool
  | succeeded .. => true
  | failed .. | abandoned .. => false

end Outcome

end JobPool
