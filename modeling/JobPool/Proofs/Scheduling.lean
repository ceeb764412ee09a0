/-
**What the operations of the scheduler do.**

Each operation is described once, by its new state and its deeds. Following the membership and
learning from completions leave the queue and the abandoned jobs alone. Taking jobs back splits them
in order: those with attempts left go to the end of the queue with their attempt raised by one, the
others to the abandoned jobs. A dispatch moves the first job of the queue to an active account.

* `join_cases`, `leave_cases`, `complete_eq` — the membership and the completions;
* `reclaim_eq` — the departure of a worker, request by request;
* `maintain_cases` — a dispatch, or nothing that anybody else could notice.
-/

import JobPool.Scheduler
import JobPool.Proofs.Accounts

namespace JobPool

/-- Handing a message to a link is the deed of sending it. -/
theorem Link.deeds_send (link : Link) (destination : NodeId) (payload : Payload) :
    Effect.deeds (link.send destination payload).effects =
      [.sent destination payload link.refusal.isNone] := by
  unfold send
  rw [Traced.effects_bind]
  split <;> rfl

namespace Scheduler

variable {scheduler : Scheduler}

/-! ### New jobs -/

/-- **The master puts a new job at the end of the queue, a worker refuses it.** -/
theorem submit_cases (scheduler : Scheduler) (submission : Submission) :
    (scheduler.isMaster = true ∧
      (scheduler.submit submission).value =
        .ok { scheduler with queue := scheduler.queue ++ [submission] } ∧
      Effect.deeds (scheduler.submit submission).effects =
        [.queued submission.id submission.attempt]) ∨
    (scheduler.isMaster = false ∧
      (scheduler.submit submission).value = .error (.submittedToWorker submission.id) ∧
      Effect.deeds (scheduler.submit submission).effects = []) := by
  unfold submit isMaster
  split
  · exact .inl ⟨rfl, rfl, rfl⟩
  · exact .inr ⟨rfl, rfl, rfl⟩

/-! ### The membership -/

/-- **Joining gives a record to a worker that is new, or does nothing.** -/
theorem join_cases (scheduler : Scheduler) (worker : NodeId) :
    Effect.deeds (scheduler.join worker).effects = [] ∧
      ((scheduler.join worker).value = scheduler ∨
        ∃ record seeds, scheduler.records.get? worker = none ∧
          scheduler.departed.contains worker = false ∧ worker ≠ scheduler.node ∧
          (scheduler.join worker).value = { scheduler with
            records := scheduler.records.insert worker record, seeds := seeds }) := by
  unfold join
  split
  · exact ⟨rfl, .inl rfl⟩
  next other =>
    split
    · exact ⟨rfl, .inl rfl⟩
    next present =>
      split
      · exact ⟨rfl, .inl rfl⟩
      next unseen =>
        rw [Bool.or_eq_true, decide_eq_true_eq, not_or] at other
        refine ⟨rfl, .inr ⟨_, _, ?_, Bool.eq_false_iff.mpr present, other.1, rfl⟩⟩
        rw [Roster.get?_eq_none_iff, ← Roster.contains_iff]
        exact unseen

/-- Joining leaves the jobs of the scheduler as they are. -/
theorem queue_join (scheduler : Scheduler) (worker : NodeId) :
    (scheduler.join worker).value.queue = scheduler.queue ∧
      (scheduler.join worker).value.abandoned = scheduler.abandoned := by
  rcases (scheduler.join_cases worker).2 with same | ⟨_, _, _, _, _, joined⟩
  · rw [same]
    exact ⟨rfl, rfl⟩
  · rw [joined]
    exact ⟨rfl, rfl⟩

/-- **Leaving tells a worker that its master has gone, and the master that a worker has.** -/
theorem leave_cases (scheduler : Scheduler) (worker : NodeId) :
    Effect.deeds (scheduler.leave worker).effects = [] ∧
      ((∃ departed records, scheduler.role = .master ∧
          records.keys = scheduler.records.keys ∧
          (scheduler.leave worker).value =
            { scheduler with departed := departed, records := records }) ∨
        ∃ master gone, scheduler.role = .worker master gone ∧
          (scheduler.leave worker).value =
            { scheduler with role := .worker master (gone || decide (worker = master)) }) := by
  unfold leave
  split
  next master gone part =>
    split
    next other =>
      refine ⟨rfl, .inr ⟨master, gone, part, ?_⟩⟩
      rw [decide_eq_false other, Bool.or_false, ← part]
      rfl
    next same =>
      refine ⟨rfl, .inr ⟨master, gone, part, ?_⟩⟩
      rw [decide_eq_true (Decidable.not_not.mp same), Bool.or_true]
      rfl
  next part =>
    cases scheduler.records.contains worker <;>
      exact ⟨rfl, .inl ⟨_, _, part, Roster.keys_modify _ _ _, rfl⟩⟩

/-- The part of a node stays through a departure. -/
theorem isMaster_leave (scheduler : Scheduler) (worker : NodeId) :
    (scheduler.leave worker).value.isMaster = scheduler.isMaster := by
  rcases (scheduler.leave_cases worker).2 with ⟨_, _, part, _, left⟩ | ⟨_, _, part, left⟩
  · rw [left]
    rfl
  · rw [left, isMaster, isMaster, part]

/-- Learning from a completion changes the records only. -/
theorem complete_eq (scheduler : Scheduler) (worker : NodeId) (seconds : Float) (failed : Bool) :
    Effect.deeds (scheduler.complete worker seconds failed).effects = [] ∧
      ∃ records, (scheduler.complete worker seconds failed).value =
        { scheduler with records := records } := by
  unfold complete
  split
  · exact ⟨rfl, _, rfl⟩
  · exact ⟨rfl, _, rfl⟩

/-! ### Taking jobs back -/

/-- The jobs that may be dispatched again, with the next attempt. -/
def retried (scheduler : Scheduler) (submissions : List Submission) : List Submission :=
  (submissions.filter fun submission => !scheduler.isExhausted submission).map Submission.retry

/-- The jobs that have used up their attempts. -/
def exhausted (scheduler : Scheduler) (submissions : List Submission) : List Submission :=
  submissions.filter scheduler.isExhausted

/-- A job that is taken back is either retried or exhausted. -/
theorem retried_append_exhausted (scheduler : Scheduler) (submissions : List Submission) :
    ((scheduler.retried submissions ++ scheduler.exhausted submissions).map Submission.id).Perm
      (submissions.map Submission.id) := by
  rw [List.map_append, retried, List.map_map]
  have same : Submission.id ∘ Submission.retry = Submission.id := rfl
  rw [same, ← List.map_append]
  refine List.Perm.map _ (List.perm_append_comm.trans ?_)
  exact List.filter_append_perm scheduler.isExhausted submissions

/-- The scheduler after jobs have been taken back. -/
def returning (scheduler : Scheduler) (submissions : List Submission) : Scheduler :=
  { scheduler with
    queue := scheduler.queue ++ scheduler.retried submissions
    abandoned := scheduler.abandoned ++ scheduler.exhausted submissions }

@[simp] theorem isExhausted_returning (scheduler : Scheduler) (submissions : List Submission) :
    (scheduler.returning submissions).isExhausted = scheduler.isExhausted := rfl

@[simp] theorem returning_nil (scheduler : Scheduler) : scheduler.returning [] = scheduler := by
  simp [returning, retried, exhausted]

private theorem returning_cons (scheduler : Scheduler) (submission : Submission)
    (rest : List Submission) :
    scheduler.returning (submission :: rest) =
      (scheduler.returning [submission]).returning rest := by
  have queue : scheduler.retried (submission :: rest) =
      scheduler.retried [submission] ++ (scheduler.returning [submission]).retried rest := by
    rw [retried, retried, retried, isExhausted_returning, ← List.map_append, ← List.filter_append]
    rfl
  have abandoned : scheduler.exhausted (submission :: rest) =
      scheduler.exhausted [submission] ++ (scheduler.returning [submission]).exhausted rest := by
    rw [exhausted, exhausted, exhausted, isExhausted_returning, ← List.filter_append]
    rfl
  rw [returning, queue, abandoned, ← List.append_assoc, ← List.append_assoc]
  rfl

/-- Taking one job back. -/
private theorem giveBack_eq (submission : Submission) (master : scheduler.isMaster = true) :
    (scheduler.giveBack submission).value = scheduler.returning [submission] ∧
      Effect.deeds (scheduler.giveBack submission).effects =
        (scheduler.retried [submission]).map fun submission =>
          .queued submission.id submission.attempt := by
  unfold giveBack
  rw [if_neg (by simp [master])]
  split
  next spent => exact ⟨by simp [returning, retried, exhausted, spent], by simp [retried, spent]⟩
  next fresh =>
    rw [Bool.not_eq_true] at fresh
    exact ⟨by simp [enqueue, returning, retried, exhausted, fresh],
      by simp [enqueue, retried, fresh]⟩

/-- **Jobs are taken back in order**, each one retried or abandoned. -/
theorem giveBack_all (submissions : List Submission) (master : scheduler.isMaster = true) :
    (submissions.foldlM giveBack scheduler).value = scheduler.returning submissions ∧
      Effect.deeds (submissions.foldlM giveBack scheduler).effects =
        (scheduler.retried submissions).map fun submission =>
          .queued submission.id submission.attempt := by
  induction submissions generalizing scheduler with
  | nil => exact ⟨(returning_nil scheduler).symm, rfl⟩
  | cons submission rest hypothesis =>
    obtain ⟨first, told⟩ := giveBack_eq submission master
    have still : (scheduler.returning [submission]).isMaster = true := master
    obtain ⟨value, deeds⟩ := hypothesis still
    rw [List.foldlM_cons, Traced.value_bind, Traced.effects_bind, Effect.deeds_append, first,
      told, value, deeds, ← returning_cons, ← List.map_append]
    refine ⟨rfl, congrArg _ ?_⟩
    rw [retried, retried, retried, isExhausted_returning, ← List.map_append, ← List.filter_append]
    rfl

/-- **A departure closes the account of the worker and takes all its jobs back.** -/
theorem reclaim_eq (ledger : Ledger) (worker : NodeId) (master : scheduler.isMaster = true) :
    (scheduler.reclaim ledger worker).value =
        (ledger.outstandingOn worker,
          scheduler.returning ((ledger.requests worker).map Request.submission),
          ledger.close worker) ∧
      Effect.deeds (scheduler.reclaim ledger worker).effects =
        (scheduler.retried ((ledger.requests worker).map Request.submission)).map
          fun submission => .queued submission.id submission.attempt := by
  unfold reclaim Ledger.outstandingOn
  split
  next requests active =>
    rw [Ledger.requests_of_get? active, Account.requests]
    obtain ⟨value, deeds⟩ := giveBack_all (requests.map Request.submission) master
    rw [List.foldlM_map] at value deeds
    simp only [Traced.value_bind, Traced.effects_bind, Effect.deeds_append, value, deeds]
    exact ⟨rfl, by simp⟩
  next closed =>
    rw [Ledger.requests_of_get? closed, Account.requests]
    exact ⟨by simp, rfl⟩
  next absent =>
    rw [Ledger.requests_eq, absent]
    exact ⟨by simp, rfl⟩

/-- Taking jobs back touches the jobs only. -/
theorem giveBack_frame (scheduler : Scheduler) (submission : Submission) :
    ∃ queue abandoned, (scheduler.giveBack submission).value =
      { scheduler with queue := queue, abandoned := abandoned } := by
  unfold giveBack
  split
  · exact ⟨_, _, rfl⟩
  · split <;> exact ⟨_, _, rfl⟩

theorem reclaim_frame (scheduler : Scheduler) (ledger : Ledger) (worker : NodeId) :
    ∃ queue abandoned, (scheduler.reclaim ledger worker).value.2.1 =
      { scheduler with queue := queue, abandoned := abandoned } := by
  unfold reclaim
  split
  next requests _ =>
    refine @Traced.foldlM_preserves _ _ _ (fun state : Scheduler => ∃ queue abandoned,
      state = { scheduler with queue := queue, abandoned := abandoned }) _ requests
      (fun state request _ given => ?_) _ ⟨_, _, rfl⟩
    obtain ⟨_, _, rfl⟩ := given
    obtain ⟨_, _, frame⟩ := giveBack_frame _ request.submission
    exact ⟨_, _, frame⟩
  next => exact ⟨_, _, rfl⟩
  next => exact ⟨_, _, rfl⟩

/-- A departure closes the account of the worker, whoever takes its jobs back. -/
theorem ledger_reclaim (scheduler : Scheduler) (ledger : Ledger) (worker : NodeId) :
    (scheduler.reclaim ledger worker).value.1 = ledger.outstandingOn worker ∧
      (scheduler.reclaim ledger worker).value.2.2 = ledger.close worker := by
  unfold reclaim Ledger.outstandingOn
  split
  next requests active => exact ⟨by rw [Ledger.requests_of_get? active]; rfl, rfl⟩
  next closed => exact ⟨by rw [Ledger.requests_of_get? closed]; rfl, rfl⟩
  next absent => exact ⟨by rw [Ledger.requests_eq, absent]; rfl, rfl⟩

/-! ### Dispatching -/

/-- **A dispatch moves the first job of the queue to an active account and sends it there.**
Without a dispatch neither the queue nor the ledger changes and nothing is sent. -/
theorem maintain_cases (scheduler : Scheduler) (ledger : Ledger) (link : Link) :
    (∃ rule records, (scheduler.maintain ledger link).value =
        (false, { scheduler with rule := rule, records := records }, ledger) ∧
      Effect.deeds (scheduler.maintain ledger link).effects = []) ∨
    ∃ submission rest worker requests id source rule records,
      scheduler.isMaster = true ∧ scheduler.queue = submission :: rest ∧
      ledger.accounts.get? worker = some (.active requests) ∧
      ledger.requestIds.take = some (id, source) ∧
      (scheduler.maintain ledger link).value =
        (true, { scheduler with queue := rest, rule := rule, records := records },
          { accounts := ledger.accounts.insert worker (.active (requests ++ [⟨id, submission⟩]))
            outstanding := ledger.outstanding + 1
            requestIds := source }) ∧
      Effect.deeds (scheduler.maintain ledger link).effects =
        [.issued id worker submission.id submission.attempt,
          .sent worker (.execute id submission.job submission.input) link.refusal.isNone] := by
  unfold maintain
  split
  · exact .inl ⟨_, _, rfl, rfl⟩
  next master =>
    split
    · exact .inl ⟨_, _, rfl, rfl⟩
    next submission rest queued =>
      generalize (scheduler.rule.select ask (scheduler.candidates ledger)).run scheduler.records =
        result
      obtain ⟨⟨chosen, rule⟩, records⟩ := result
      cases chosen with
      | none => exact .inl ⟨rule, records, rfl, rfl⟩
      | some worker =>
        simp only [Traced.value_bind, Traced.effects_bind, Effect.deeds_append]
        rcases ledger.issue_cases worker submission with ⟨fault, refused, silent⟩ |
          ⟨requests, id, source, active, taken, issued, told⟩
        · rw [refused, silent]
          exact .inl ⟨rule, records, rfl, rfl⟩
        · refine .inr ⟨submission, rest, worker, requests, id, source, rule,
            records.modify worker fun record => { record with dispatched := record.dispatched + 1 },
            by simpa using master, queued, active, taken, ?_, ?_⟩
          · rw [issued]
            simp only [Traced.value_bind]
            split <;> rfl
          · rw [issued, told]
            simp only [Traced.effects_bind, Effect.deeds_append, Act.deeds_debug, Link.deeds_send]
            split <;> rfl

end Scheduler

end JobPool
