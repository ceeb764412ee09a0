/-
**What a departure gives back.**

The jobs that a departed worker held exist nowhere but in its account. The account is closed and the
jobs are handed to the scheduler one by one, which decides for each whether it may be tried again;
after that the record of the worker is marked. Taken together the two steps divide the account:
every job goes to the end of the queue or to the abandoned jobs, in the order of the requests, and
nothing else moves.

* `Scheduler.dismiss` — both steps of a departure;
* `Scheduler.dismiss_eq` — the scheduler and the ledger after them, as a whole;
* `Scheduler.Returns` — what has become of the jobs of the worker;
* `Scheduler.departure_returns` — the division, and that a second departure finds nothing to do.
-/

import JobPool.Proofs.Records
import JobPool.Proofs.Requests

namespace JobPool

/-! ### The ledger without an account -/

namespace Ledger

/-- A ledger agrees with its count if the count is the number of requests. -/
theorem isConsistent_iff {ledger : Ledger} :
    ledger.isConsistent = true ↔ ledger.outstanding = ledger.held.length := by
  rw [isConsistent, decide_eq_true_eq, total_eq_length_held, eq_comm]

/-- A ledger that calls lead to agrees with its count. -/
theorem isConsistent_run (calls : List Call) :
    (({} : Ledger).run calls).value.isConsistent = true :=
  isConsistent_iff.mpr (regular_run calls).sound.counted

/-- **Closing an account takes its requests off the count, which had them.** -/
theorem close_consistent {ledger : Ledger} (worker : NodeId)
    (consistent : ledger.isConsistent = true) :
    (ledger.close worker).outstanding + ledger.outstandingOn worker = ledger.outstanding ∧
      (ledger.close worker).isConsistent = true := by
  rw [isConsistent_iff] at consistent ⊢
  have split := (ledger.held_close worker).length_eq
  rw [List.length_append] at split
  have count : (ledger.close worker).outstanding =
      ledger.outstanding - (ledger.requests worker).length := rfl
  rw [outstandingOn]
  omega

/-- A closed account is closed. -/
theorem isDeparted_close (ledger : Ledger) (worker : NodeId) :
    (ledger.close worker).isDeparted worker = true :=
  isDeparted_iff.mpr ((ledger.closed?_close worker worker).trans (if_pos rfl))

end Ledger

namespace Scheduler

variable {scheduler : Scheduler}

/-! ### The two steps of a departure -/

/-- The departure of a worker: its account is closed and its jobs are taken back, then its record is
marked. The result begins with the number of jobs. -/
def dismiss (scheduler : Scheduler) (ledger : Ledger) (worker : NodeId) :
    Act (Nat × Scheduler × Ledger) := do
  let (count, scheduler, ledger) ← scheduler.reclaim ledger worker
  let scheduler ← scheduler.leave worker
  return (count, scheduler, ledger)

/-- The scheduler that knows of a departure. -/
def marking (scheduler : Scheduler) (worker : NodeId) : Scheduler :=
  { scheduler with
    departed := if scheduler.departed.contains worker then scheduler.departed
      else scheduler.departed ++ [worker]
    records := scheduler.records.modify worker fun record => { record with departed := true } }

theorem leave_eq_marking (worker : NodeId) (master : scheduler.isMaster = true) :
    (scheduler.leave worker).value = scheduler.marking worker := by
  rcases scheduler.leave_exact worker with ⟨_, left⟩ | ⟨other, _⟩
  · exact left
  · cases other.symm.trans master

/-- A departure is noted once. -/
theorem marking_marking (scheduler : Scheduler) (worker : NodeId) :
    (scheduler.marking worker).marking worker = scheduler.marking worker := by
  have listed : (scheduler.marking worker).departed.contains worker = true := by
    unfold marking
    split
    · assumption
    · simp
  have marked : (scheduler.marking worker).records.modify worker
      (fun record => { record with departed := true }) = (scheduler.marking worker).records := by
    ext1
    show List.map _ (List.map _ scheduler.records.entries) = List.map _ scheduler.records.entries
    rw [List.map_map]
    refine List.map_congr_left fun entry _ => ?_
    by_cases own : entry.1 = worker
    · simp [own]
    · simp [own]
  rw [marking, if_pos listed, marked]

/-- **A departure on the master takes the jobs back and marks the record.** -/
theorem dismiss_eq (ledger : Ledger) (worker : NodeId) (master : scheduler.isMaster = true) :
    (scheduler.dismiss ledger worker).value =
        (ledger.outstandingOn worker,
          (scheduler.returning ((ledger.requests worker).map Request.submission)).marking worker,
          ledger.close worker) ∧
      Effect.deeds (scheduler.dismiss ledger worker).effects =
        (scheduler.retried ((ledger.requests worker).map Request.submission)).map
          fun submission => .queued submission.id submission.attempt := by
  obtain ⟨value, deeds⟩ := reclaim_eq ledger worker master
  have still : (scheduler.returning
      ((ledger.requests worker).map Request.submission)).isMaster = true := master
  unfold dismiss
  simp only [Traced.value_bind, Traced.effects_bind, Traced.value_pure, Traced.effects_pure,
    Effect.deeds_append, value, deeds, leave_eq_marking worker still, (leave_cases _ worker).1]
  exact ⟨trivial, by simp⟩

/-! ### What becomes of the jobs -/

/-- The policy allows another attempt of a job: it sets no limit, or one above the attempt. -/
def allowsRetry (policy : Policy) (submission : Submission) : Bool :=
  policy.maxAttempts.all fun limit => submission.attempt < limit

theorem isExhausted_eq (scheduler : Scheduler) :
    scheduler.isExhausted = fun submission => !allowsRetry scheduler.policy submission := by
  funext submission
  unfold isExhausted allowsRetry
  cases scheduler.policy.maxAttempts with
  | none => rfl
  | some limit => by_cases spent : limit ≤ submission.attempt <;> simp [spent, Nat.lt_of_not_le]

/-- **The jobs of a worker have gone back.** Those with attempts left are at the end of the queue,
each with the next attempt, the others with the abandoned jobs, both in the order of the requests.
The worker is known as departed and holds nothing. -/
structure Returns (scheduler : Scheduler) (ledger : Ledger) (worker : NodeId)
    (result : Nat × Scheduler × Ledger) : Prop where
  count : result.1 = (ledger.requests worker).length
  queue : result.2.1.queue = scheduler.queue ++
    (((ledger.requests worker).map Request.submission).filter (allowsRetry scheduler.policy)).map
      fun submission => { submission with attempt := submission.attempt + 1 }
  abandoned : result.2.1.abandoned = scheduler.abandoned ++
    ((ledger.requests worker).map Request.submission).filter
      fun submission => !allowsRetry scheduler.policy submission
  keys : result.2.1.records.keys = scheduler.records.keys
  /-- The forecaster and the numbers of every record are as they were. -/
  records : ∀ other, result.2.1.records.get? other =
    (scheduler.records.get? other).map fun record =>
      if other = worker then { record with departed := true } else record
  departed : ∀ other, other ∈ result.2.1.departed ↔ other = worker ∨ other ∈ scheduler.departed
  others : result.2.1 = { scheduler with
    queue := result.2.1.queue
    abandoned := result.2.1.abandoned
    records := result.2.1.records
    departed := result.2.1.departed }
  closed : result.2.2.accounts = ledger.accounts.insert worker .closed
  requests : ∀ other,
    result.2.2.requests other = if other = worker then [] else ledger.requests other
  outstanding : result.2.2.outstanding = ledger.outstanding - (ledger.requests worker).length
  ids : result.2.2.requestIds = ledger.requestIds

/-- **A departure returns the jobs of its worker.** -/
theorem returns_dismiss (ledger : Ledger) (worker : NodeId) (master : scheduler.isMaster = true) :
    scheduler.Returns ledger worker (scheduler.dismiss ledger worker).value := by
  have exhausted := scheduler.isExhausted_eq
  have entered : (ledger.close worker).accounts = ledger.accounts.insert worker .closed := rfl
  rw [(dismiss_eq ledger worker master).1]
  refine
    { count := rfl, queue := ?_, abandoned := ?_, keys := Roster.keys_modify _ _ _
      records := fun other => ?_, departed := fun other => ?_, others := rfl, closed := entered
      requests := fun other => Ledger.requests_of_insert entered other, outstanding := rfl
      ids := rfl }
  · show scheduler.queue ++ scheduler.retried _ = _
    rw [retried, exhausted]
    simp only [Bool.not_not]
    rfl
  · show scheduler.abandoned ++ scheduler.exhausted _ = _
    rw [Scheduler.exhausted, exhausted]
  · refine (Roster.get?_modify _ _ _ _).trans ?_
    split
    · rfl
    · exact Option.map_id'.symm
  · show other ∈ (if scheduler.departed.contains worker then _ else _) ↔ _
    split
    next listed =>
      refine ⟨.inr, fun either => either.elim (fun same => ?_) id⟩
      rw [same]
      exact List.contains_iff_mem.mp listed
    next => rw [List.mem_append, List.mem_singleton, or_comm]; rfl

/-- A second departure finds a closed account and a marked record. -/
theorem dismiss_again (ledger : Ledger) (worker : NodeId) (master : scheduler.isMaster = true) :
    let first := (scheduler.dismiss ledger worker).value
    let second := first.2.1.dismiss first.2.2 worker
    second.value = (0, first.2.1, first.2.2) ∧ Effect.deeds second.effects = [] := by
  intro first second
  have value : first = _ := (dismiss_eq ledger worker master).1
  have departed : first.2.2.isDeparted worker = true := by
    rw [value]
    exact ledger.isDeparted_close worker
  have still : first.2.1.isMaster = true := by
    rw [value]
    exact master
  obtain ⟨again, deeds⟩ := dismiss_eq first.2.2 worker still
  have nothing : first.2.2.requests worker = [] := Ledger.requests_of_isDeparted departed
  rw [Ledger.outstandingOn, nothing, Ledger.close_of_isDeparted departed] at again
  rw [nothing] at deeds
  refine ⟨again.trans ?_, deeds⟩
  rw [List.map_nil, returning_nil, value, marking_marking]
  rfl

/-- **A departure returns exactly the jobs of its worker.** On the master, whatever the ledger
holds: the jobs of the worker go back in the order of their requests, those with attempts left to
the end of the queue and the others to the abandoned jobs, and nothing else changes but the marks on
the worker. The result is the number of jobs, which the count of the ledger had, as it has in every
ledger that calls lead to. A second departure of the worker leaves everything as it is. -/
theorem departure_returns (scheduler : Scheduler) (ledger : Ledger) (worker : NodeId)
    (master : scheduler.isMaster = true) :
    let first := scheduler.dismiss ledger worker
    let count := first.value.1
    let after := first.value.2.1
    let rest := first.value.2.2
    let second := after.dismiss rest worker
    scheduler.Returns ledger worker first.value ∧
    (ledger.isConsistent = true →
      rest.outstanding + count = ledger.outstanding ∧ rest.isConsistent = true) ∧
    (∀ calls, (({} : Ledger).run calls).value = ledger → ledger.isConsistent = true) ∧
    second.value = (0, after, rest) ∧ Effect.deeds second.effects = [] := by
  intro first count after rest second
  have value : first.value = _ := (dismiss_eq ledger worker master).1
  refine ⟨returns_dismiss ledger worker master, fun consistent => ?_, ?_,
    dismiss_again ledger worker master⟩
  · show first.value.2.2.outstanding + first.value.1 = _ ∧ first.value.2.2.isConsistent = true
    rw [value]
    exact Ledger.close_consistent worker consistent
  · rintro calls rfl
    exact Ledger.isConsistent_run calls

/-- With two attempts at most, a worker departs that holds a first, a second and another first
attempt. -/
theorem departure_returns_divided :
    let scheduler : Scheduler := { Scheduler.create
      { Settings.policy {} with maxAttempts := some 2 } 1 1 with queue := [⟨4, .sleep 0, [], 1⟩] }
    let ledger := (({} : Ledger).run [.register 2, .register 3, .issue 2 ⟨1, .sleep 0, [], 1⟩,
      .issue 3 ⟨5, .sleep 0, [], 1⟩, .issue 2 ⟨2, .sleep 0, [], 2⟩,
      .issue 2 ⟨3, .sleep 0, [], 1⟩]).value
    let first := scheduler.dismiss ledger 2
    scheduler.isMaster = true ∧ first.value.1 = 3 ∧ first.value.2.2.outstanding + 3 = 4 ∧
      (first.value.2.1.queue.map fun job => (job.id, job.attempt)) = [(4, 1), (1, 2), (3, 2)] ∧
      (first.value.2.1.abandoned.map fun job => (job.id, job.attempt)) = [(2, 2)] ∧
      (first.value.2.1.dismiss first.value.2.2 2).value =
        (0, first.value.2.1, first.value.2.2) := by
  intro scheduler ledger first
  obtain ⟨returns, counted, reached, again, _⟩ := departure_returns scheduler ledger 2 rfl
  refine ⟨rfl, rfl, (counted (reached _ rfl)).1, ?_, ?_, again⟩
  · rw [returns.queue]
    rfl
  · rw [returns.abandoned]
    rfl

end Scheduler

end JobPool
