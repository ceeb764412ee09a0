/-
**What a dispatch changes.**

A dispatch touches the queue, the records, the rule, the ledger and the link, and it can give up in
between. It is described by the whole state after it: either nothing differs, not even a forecaster,
or one job has gone from the head of the queue to the end of one account, and everything else is as
it was up to the draws of the forecasters.

* `Scheduler.Ready` — a worker that may be given a job;
* `Scheduler.Dispatches` — the state after a job was dispatched, and what was sent;
* `Scheduler.maintain_ready_cases` — a dispatch, or a state that has not changed at all;
* `Scheduler.maintain_effect` — when a dispatch happens, and that the link does not matter.
-/

import JobPool.Proofs.Dispatching
import JobPool.Proofs.Requests

namespace JobPool

namespace Ledger

/-- An identity that the calls before have given out is below the next one. -/
theorem issuedIds_lt_next {calls : List Call} {id : RequestId}
    (given : id ∈ issuedIds (({} : Ledger).run calls).effects) :
    id < (({} : Ledger).run calls).value.requestIds.next := by
  have regular := regular_run calls
  rw [regular.numbered, List.mem_range'_1] at given
  exact Nat.lt_of_lt_of_eq given.2 (Nat.add_sub_cancel' regular.positive)

end Ledger

namespace Scheduler

variable {scheduler : Scheduler} {ledger : Ledger} {link : Link}

/-! ### Workers that are ready -/

/-- **The worker is ready for another job**: its record is not marked as departed, and it is active
in the ledger with fewer requests than the policy allows. -/
def Ready (scheduler : Scheduler) (ledger : Ledger) (worker : NodeId) : Prop :=
  (∃ record, scheduler.records.get? worker = some record ∧ record.departed = false) ∧
    ∃ requests, ledger.accounts.get? worker = some (.active requests) ∧
      requests.length < scheduler.policy.maxOutstanding

theorem mem_candidates_iff_ready {worker : NodeId} :
    worker ∈ (scheduler.candidates ledger).map Candidate.worker ↔
      scheduler.Ready ledger worker := by
  refine mem_candidates_iff.trans (and_congr_right fun _ => ?_)
  unfold Ledger.hasCapacity
  constructor
  · intro room
    split at room
    next requests active => exact ⟨requests, active, of_decide_eq_true room⟩
    all_goals cases room
  · rintro ⟨requests, active, room⟩
    rw [active]
    exact decide_eq_true room

theorem candidates_eq_nil_iff :
    scheduler.candidates ledger = [] ↔ ∀ worker, ¬ scheduler.Ready ledger worker := by
  rw [← List.map_eq_nil_iff, List.eq_nil_iff_forall_not_mem]
  exact forall_congr' fun worker => not_congr mem_candidates_iff_ready

/-- A registered worker that is present and not ready has as many requests as it may have. -/
theorem le_outstandingOn_of_not_ready {worker : NodeId}
    (unready : ¬ scheduler.Ready ledger worker) (registered : ledger.isRegistered worker = true)
    (present : ∃ record, scheduler.records.get? worker = some record ∧ record.departed = false) :
    scheduler.policy.maxOutstanding ≤ ledger.outstandingOn worker := by
  unfold Ledger.isRegistered at registered
  split at registered
  next requests active =>
    rw [Ledger.outstandingOn, Ledger.requests_of_get? active]
    exact Nat.le_of_not_lt fun room => unready ⟨present, requests, active, room⟩
  all_goals cases registered

/-! ### The state after a dispatch -/

/-- **The first pending job has gone to a worker under an identity.** The rule and the streams of
the forecasters may have moved on; one dispatch is counted; nothing else has changed. -/
structure Dispatches (scheduler : Scheduler) (ledger : Ledger) (link : Link)
    (submission : Submission) (worker : NodeId) (id : RequestId)
    (act : Act (Bool × Scheduler × Ledger)) : Prop where
  queue : scheduler.queue = submission :: act.value.2.1.queue
  others : act.value.2.1 = { scheduler with
    queue := act.value.2.1.queue
    rule := act.value.2.1.rule
    records := act.value.2.1.records }
  keys : act.value.2.1.records.keys = scheduler.records.keys
  records : ∀ other, (act.value.2.1.records.get? other).map WorkerRecord.rewound =
    (scheduler.records.get? other).map fun record =>
      if other = worker then { record.rewound with dispatched := record.dispatched + 1 }
      else record.rewound
  /-- On the ledger it is one call, which gives out the identity. -/
  issued : ledger.perform (.issue worker submission) = ⟨act.value.2.2, [.issued id]⟩
  requests : ∀ other, act.value.2.2.requests other =
    if other = worker then ledger.requests other ++ [⟨id, submission⟩] else ledger.requests other
  counted : act.value.2.2.outstanding = ledger.outstanding + 1
  next : act.value.2.2.requestIds.next = id + 1
  /-- One message is handed to the link, which takes it or refuses it. -/
  deeds : Effect.deeds act.effects =
    [.issued id worker submission.id submission.attempt,
      .sent worker (.execute id submission.job submission.input) link.refusal.isNone]

/-- The records after draws and one more dispatch, apart from the draws. -/
private theorem rewound_dispatched {first second : Roster NodeId WorkerRecord}
    (redrawn : Redrawn first second) (worker other : NodeId) :
    ((second.modify worker fun record =>
        { record with dispatched := record.dispatched + 1 }).get? other).map
        WorkerRecord.rewound =
      (first.get? other).map fun record =>
        if other = worker then { record.rewound with dispatched := record.dispatched + 1 }
        else record.rewound := by
  rw [Roster.get?_modify]
  split
  · rw [Option.map_map]
    have blind : ∀ record : WorkerRecord,
        { record.rewound.rewound with dispatched := record.dispatched + 1 } =
          { record.rewound with dispatched := record.dispatched + 1 } := fun _ => rfl
    exact redrawn.map_eq blind other
  · exact redrawn.rewound other

/-- Issuing to an active account under the next identity. -/
private theorem perform_issue {submission : Submission} {worker : NodeId}
    {requests : List Request} {id : RequestId} {source : IdSource}
    (active : ledger.accounts.get? worker = some (.active requests))
    (taken : ledger.requestIds.take = some (id, source)) :
    ledger.perform (.issue worker submission) =
      ⟨{ accounts := ledger.accounts.insert worker (.active (requests ++ [⟨id, submission⟩]))
         outstanding := ledger.outstanding + 1
         requestIds := source }, [.issued id]⟩ := by
  rw [Ledger.perform, Ledger.issue, active]
  simp only [taken]
  rfl

/-- The new state does not depend on what the link does with the message. -/
theorem value_maintain_congr (scheduler : Scheduler) (ledger : Ledger) (first second : Link) :
    (scheduler.maintain ledger first).value = (scheduler.maintain ledger second).value := by
  unfold maintain
  split
  · rfl
  cases scheduler.queue with
  | nil => rfl
  | cons submission rest =>
    generalize (scheduler.rule.select ask (scheduler.candidates ledger)).run scheduler.records =
      result
    obtain ⟨⟨chosen, rule⟩, records⟩ := result
    cases chosen with
    | none => rfl
    | some worker =>
      simp only [Traced.value_bind]
      cases (ledger.issue worker submission).value with
      | error rejection => rfl
      | ok issued =>
        simp only [Traced.value_bind]
        -- Whichever way either link decides, the branches end in the same state.
        split <;> split <;> rfl

/-! ### When a dispatch happens -/

/-- While identities are left, a dispatch takes place with all its effects, or there is nobody or
nothing to dispatch and the whole state is as it was. -/
theorem maintain_ready_cases (scheduler : Scheduler) (ledger : Ledger) (link : Link)
    (left : ledger.requestIds.next < IdSource.limit) :
    ((scheduler.isMaster = false ∨ scheduler.queue = [] ∨
        ∀ worker, ¬ scheduler.Ready ledger worker) ∧
      scheduler.maintain ledger link = ⟨(false, scheduler, ledger), []⟩) ∨
    scheduler.isMaster = true ∧ scheduler.queue ≠ [] ∧
      (scheduler.maintain ledger link).value.1 = true ∧
      ∃ submission worker, scheduler.Ready ledger worker ∧
        scheduler.Dispatches ledger link submission worker ledger.requestIds.next
          (scheduler.maintain ledger link) := by
  rcases scheduler.maintain_exact ledger link with
    ⟨idle, same⟩ | ⟨submission, rest, worker, requests, rule, records, master, queued, listed,
      active, redrawn, moved⟩
  · exact .inl ⟨idle.imp_right (.imp_right candidates_eq_nil_iff.mp), same⟩
  · rcases moved with ⟨exhausted, _⟩ | ⟨id, source, taken, value, deeds⟩
    · rw [IdSource.take, if_pos left] at exhausted
      cases exhausted
    obtain ⟨rfl, next⟩ := IdSource.take_next taken
    refine .inr ⟨master, by rw [queued]; exact List.cons_ne_nil _ _, by rw [value],
      submission, worker, mem_candidates_iff_ready.mp listed, ?_⟩
    refine { queue := ?_, others := ?_, keys := ?_, records := fun other => ?_, issued := ?_,
             requests := fun other => ?_, counted := ?_, next := ?_, deeds := deeds }
    all_goals rw [value]
    · exact queued
    · exact (Roster.keys_modify _ _ _).trans redrawn.keys
    · exact rewound_dispatched redrawn worker other
    · exact perform_issue active taken
    · rw [Ledger.requests_of_insert rfl]
      split
      next same => rw [same, Ledger.requests_of_get? active]; rfl
      next => rfl
    · exact next

/-- **The exact effect of a dispatch**, while identities are left. A job is dispatched if and only
if the node is the master, a job is pending and a worker is ready. Otherwise the whole state is as
it was and nothing is sent. If so, the first pending job goes to the end of the account of one ready
worker, under an identity above all that were given out before. The link decides on the fate of the
message only. -/
theorem maintain_effect (scheduler : Scheduler) (ledger : Ledger) (link : Link)
    (left : ledger.requestIds.next < IdSource.limit) :
    let act := scheduler.maintain ledger link
    (act.value.1 = true ↔
      scheduler.isMaster = true ∧ scheduler.queue ≠ [] ∧
        ∃ worker, scheduler.Ready ledger worker) ∧
    (act.value.1 = false → act = ⟨(false, scheduler, ledger), []⟩) ∧
    (act.value.1 = true →
      ∃ submission worker, scheduler.Ready ledger worker ∧
        scheduler.Dispatches ledger link submission worker ledger.requestIds.next act) ∧
    (∀ calls, (({} : Ledger).run calls).value = ledger →
      ∀ id ∈ Ledger.issuedIds (({} : Ledger).run calls).effects, id < ledger.requestIds.next) ∧
    ∀ other : Link, (scheduler.maintain ledger other).value = act.value := by
  intro act
  have earlier : ∀ calls, (({} : Ledger).run calls).value = ledger →
      ∀ id ∈ Ledger.issuedIds (({} : Ledger).run calls).effects, id < ledger.requestIds.next := by
    rintro calls rfl id given
    exact Ledger.issuedIds_lt_next given
  have accepted := fun other => scheduler.value_maintain_congr ledger other link
  rcases scheduler.maintain_ready_cases ledger link left with
    ⟨idle, same⟩ | ⟨master, pending, happens, submission, worker, ready, dispatches⟩
  · have refused : act.value.1 = false := by rw [show act = _ from same]
    refine ⟨?_, fun _ => same, fun happens => ?_, earlier, accepted⟩
    · refine iff_of_false (ne_true_of_eq_false refused) ?_
      rintro ⟨master, pending, worker, ready⟩
      rcases idle with other | empty | none
      · exact ne_true_of_eq_false other master
      · exact pending empty
      · exact none worker ready
    · cases refused.symm.trans happens
  · refine ⟨iff_of_true happens ⟨master, pending, worker, ready⟩, fun refused => ?_,
      fun _ => ⟨submission, worker, ready, dispatches⟩, earlier, accepted⟩
    cases happens.symm.trans refused

/-- A master with one pending job and two workers, of which one is registered, over a link that
refuses everything; and the same master without the job. -/
theorem maintain_effect_refused :
    let joined := do
      let scheduler ← (Scheduler.create (Settings.policy {}) 1 1).join 2
      scheduler.join 3
    let idle := joined.value
    let pending := { idle with queue := [⟨7, .sleep 0, [], 1⟩] }
    let ledger := (({} : Ledger).run [.register 3]).value
    let link : Link := { refusal := some .channelClosed }
    (pending.maintain ledger link).value.1 = true ∧
      (pending.maintain ledger {}).value = (pending.maintain ledger link).value ∧
      Effect.deeds (pending.maintain ledger link).effects =
        [.issued 1 3 7 1, .sent 3 (.execute 1 (.sleep 0) []) false] ∧
      idle.maintain ledger link = ⟨(false, idle, ledger), []⟩ := by
  intro joined idle pending ledger link
  have ready : pending.Ready ledger 3 := ⟨⟨_, rfl, rfl⟩, [], rfl, by decide⟩
  obtain ⟨dispatched, _, moved, _, accepted⟩ := maintain_effect pending ledger link (by decide)
  have happens := dispatched.mpr ⟨rfl, List.cons_ne_nil _ _, 3, ready⟩
  refine ⟨happens, accepted {}, ?_, ?_⟩
  · obtain ⟨submission, worker, ⟨_, requests, active, _⟩, dispatches⟩ := moved happens
    have only : worker = 3 := Decidable.byContradiction fun other => by
      have absent : ledger.accounts.get? worker = none := by
        show (Roster.insert .empty 3 (Account.active [])).get? worker = none
        rw [Roster.get?_insert, if_neg other]
        rfl
      rw [absent] at active
      cases active
    have first : submission = ⟨7, .sleep 0, [], 1⟩ := (List.cons.inj dispatches.queue).1.symm
    rw [dispatches.deeds, first, only]
    rfl
  · obtain ⟨waits, unchanged, _⟩ := maintain_effect idle ledger link (by decide)
    refine unchanged (Bool.eq_false_iff.mpr fun sent => ?_)
    exact (waits.mp sent).2.1 rfl

end Scheduler

end JobPool
