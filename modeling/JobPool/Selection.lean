/-
**Selecting a worker.**

Candidates are the workers that are ready for another job, in the order in which they were first
seen. Two rules choose among them.

* The learning rule asks every candidate once, in order, for a likely completion time, adds the
  expected time of the work already queued there if the pool is set up so, and takes the first
  candidate with the smallest score. Scores that are no number count as unbounded.
* The round-robin rule takes the first candidate behind the one it took last, or the first of all.

A rule asks through any monad, so the same rule runs on live forecasters and on prepared answers.
-/

import JobPool.Identity

namespace JobPool

/-- A worker that is ready for another job. -/
structure Candidate where
  worker : NodeId
  /-- The place of the worker in the order in which workers were first seen. -/
  position : Nat
  outstanding : Nat
  /-- A pessimistic estimate of its completion time. -/
  high : Float

/-- How a worker is selected, with what the rule remembers. -/
inductive SelectionRule where
  | learning (accountQueuedWork : Bool)
  | roundRobin (last : Option Nat)
  deriving DecidableEq, Repr

namespace SelectionRule

def name : SelectionRule → String
  | learning _ => "learning"
  | roundRobin _ => "round-robin"

/-- The score of a candidate from its likely completion time. -/
def score (accountQueuedWork : Bool) (candidate : Candidate) (likely : Float) : Float :=
  let score := if accountQueuedWork && 0 < candidate.outstanding then
    likely + Float.ofNat candidate.outstanding * candidate.high else likely
  if score.isNaN then 1 / 0 else score

/-- The earlier of two scored candidates unless the later one scores less. -/
def better (best next : Candidate × Float) : Candidate × Float :=
  if best.2 ≤ next.2 then best else next

/-- The first candidate with the smallest score. -/
def firstLeast : List (Candidate × Float) → Option Candidate
  | [] => none
  | first :: rest => some (rest.foldl better first).1

/-- The first candidate behind a position, or the first of all. -/
def firstBehind (last : Option Nat) (candidates : List Candidate) : Option Candidate :=
  match last with
  | none => candidates.head?
  | some last => (candidates.find? fun candidate => last < candidate.position).or candidates.head?

/-- Selects a worker and updates what the rule remembers. -/
def select {m : Type → Type} [Monad m] (likely : Candidate → m Float)
    (candidates : List Candidate) : SelectionRule → m (Option NodeId × SelectionRule)
  | learning accountQueuedWork => do
    let scored ← candidates.mapM fun candidate => do
      let drawn ← likely candidate
      return (candidate, score accountQueuedWork candidate drawn)
    return ((firstLeast scored).map Candidate.worker, learning accountQueuedWork)
  | roundRobin last =>
    match firstBehind last candidates with
    | none => return (none, roundRobin last)
    | some chosen => return (some chosen.worker, roundRobin (some chosen.position))

end SelectionRule

end JobPool
