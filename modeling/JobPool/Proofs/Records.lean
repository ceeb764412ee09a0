/-
**How the workers stand with the scheduler and with the ledger.**

The scheduler marks the record of a worker that departs and lists its identity, and the ledger
closes its account. `Scheduler.gone?` and `Ledger.closed?` read these marks off both. Only three
operations change them: a join, a registration and a departure. All other operations keep to the
records and accounts that are there.

* `Ledger.closed?_register`, `closed?_close` — what the ledger does to an account;
* `Scheduler.join_exact`, `leave_exact` — what the scheduler does to a record;
* `Scheduler.Alike` — what all other operations keep: `alike_giveBack`, `alike_reclaim`,
  `alike_complete`, `alike_maintain`.
-/

import JobPool.Proofs.Dispatching

namespace JobPool

/-! ### Accounts -/

namespace Ledger

variable {ledger after : Ledger} {worker : NodeId} {account : Account}

/-- Whether the account of a worker is closed, none without an account. -/
def closed? (ledger : Ledger) (worker : NodeId) : Option Bool :=
  (ledger.accounts.get? worker).map Account.isClosed

theorem isRegistered_iff :
    ledger.isRegistered worker = true ↔ ledger.closed? worker = some false := by
  unfold isRegistered closed?
  rcases ledger.accounts.get? worker with _ | (_ | _) <;> simp [Account.isClosed]

theorem isDeparted_iff : ledger.isDeparted worker = true ↔ ledger.closed? worker = some true := by
  unfold isDeparted closed?
  rcases ledger.accounts.get? worker with _ | (_ | _) <;> simp [Account.isClosed]

theorem closed?_of_insert (entered : after.accounts = ledger.accounts.insert worker account)
    (other : NodeId) :
    after.closed? other =
      if other = worker then some account.isClosed else ledger.closed? other := by
  rw [closed?, entered, Roster.get?_insert]
  split <;> rfl

/-- What happens to the requests of an active account leaves it active. -/
theorem closed?_of_active {old requests : List Request}
    (active : ledger.accounts.get? worker = some (.active old))
    (entered : after.accounts = ledger.accounts.insert worker (.active requests)) :
    after.closed? = ledger.closed? := by
  funext other
  rw [closed?_of_insert entered]
  split
  next same =>
    rw [same, closed?, active]
    rfl
  next => rfl

/-- **A registration opens an account unless there is one.** -/
theorem closed?_register (ledger : Ledger) (worker other : NodeId) :
    (ledger.register worker).value.closed? other =
      if other = worker then (ledger.closed? worker).or (some false) else ledger.closed? other := by
  have known : ∀ account, ledger.accounts.get? worker = some account →
      ledger.closed? other = if other = worker then (ledger.closed? worker).or (some false)
        else ledger.closed? other := by
    intro account found
    split
    next same =>
      rw [same, closed?, found]
      rfl
    next => rfl
  unfold register
  split
  next found => exact known _ found
  next found => exact known _ found
  next absent =>
    have none : ledger.closed? worker = none := by
      rw [closed?, absent]
      rfl
    rw [Traced.value_pure, closed?_of_insert rfl, none]
    rfl

/-- **A departure closes the account**, even where there was none. -/
theorem closed?_close (ledger : Ledger) (worker other : NodeId) :
    (ledger.close worker).closed? other =
      if other = worker then some true else ledger.closed? other := by
  rw [close, closed?_of_insert rfl]
  rfl

/-- A completion leaves every account as open as it was. -/
theorem closed?_resolve (ledger : Ledger) (worker : NodeId) (id : RequestId) (failed : Bool) :
    (ledger.resolve worker id failed).value.2.closed? = ledger.closed? := by
  rcases (ledger.resolve_cases worker id failed).2 with
    ⟨ignored, _⟩ | ⟨before, request, later, active, _, resolved⟩
  · rw [ignored]
  · rw [resolved]
    exact closed?_of_active active rfl

end Ledger

/-! ### Records -/

namespace Scheduler

/-- Whether the record of a worker is marked as departed, none without a record. -/
def gone? (scheduler : Scheduler) (worker : NodeId) : Option Bool :=
  (scheduler.records.get? worker).map WorkerRecord.departed

theorem gone?_eq_false_iff {scheduler : Scheduler} {worker : NodeId} :
    scheduler.gone? worker = some false ↔
      ∃ record, scheduler.records.get? worker = some record ∧ record.departed = false :=
  Option.map_eq_some_iff

/-- The scheduler gives a record to the worker when it joins. -/
structure Admits (scheduler : Scheduler) (worker : NodeId) : Prop where
  other : worker ≠ scheduler.node
  master : scheduler.isMaster = true
  present : worker ∉ scheduler.departed
  unseen : scheduler.gone? worker = none

/-- **A worker that joins gets a new record without a mark, unless it has one, has departed or is
the node itself.** -/
theorem join_exact (scheduler : Scheduler) (worker : NodeId) :
    (¬ scheduler.Admits worker ∧ (scheduler.join worker).value = scheduler) ∨
      scheduler.Admits worker ∧ ∃ stream seeds, (scheduler.join worker).value =
        { scheduler with
          records := scheduler.records.insert worker
            { forecaster := .create scheduler.policy.kind scheduler.policy.alpha stream }
          seeds := seeds } := by
  have known : scheduler.records.contains worker = false ↔ scheduler.gone? worker = none := by
    rw [Roster.contains, gone?, Option.map_eq_none_iff, Option.isSome_eq_false_iff,
      Option.isNone_iff_eq_none]
  unfold join
  split
  next excluded =>
    refine .inl ⟨fun admits => ?_, rfl⟩
    simp [admits.other, admits.master] at excluded
  next free =>
    rw [Bool.or_eq_true, decide_eq_true_eq, not_or, Bool.not_eq_true', Bool.not_eq_false] at free
    split
    next departed => exact .inl ⟨fun admits => admits.present (by simpa using departed), rfl⟩
    next present =>
      split
      next seen =>
        refine .inl ⟨fun admits => ?_, rfl⟩
        rw [known.mpr admits.unseen] at seen
        cases seen
      next unseen =>
        refine .inr ⟨⟨free.1, free.2, by simpa using present, ?_⟩, _, _, rfl⟩
        exact known.mp (Bool.eq_false_iff.mpr unseen)

/-- A worker that is admitted gets a forecaster with a stream of its own. -/
theorem join_of_admits {scheduler : Scheduler} {worker : NodeId}
    (admits : scheduler.Admits worker) :
    (scheduler.join worker).value =
      { scheduler with
        records := scheduler.records.insert worker
          { forecaster := .create scheduler.policy.kind scheduler.policy.alpha
              scheduler.seeds.child.1 }
        seeds := scheduler.seeds.child.2 } := by
  have absent : scheduler.records.get? worker = none := Option.map_eq_none_iff.mp admits.unseen
  have unseen : scheduler.records.contains worker = false := by
    rw [Roster.contains, absent]
    rfl
  unfold join
  rw [if_neg (by simp [admits.other, admits.master]), if_neg (by simpa using admits.present),
    if_neg (by simp [unseen])]
  rfl

/-- **A departure marks the record of the worker and lists the worker.** Elsewhere than on the
master no mark changes. -/
theorem leave_exact (scheduler : Scheduler) (worker : NodeId) :
    (scheduler.isMaster = true ∧ (scheduler.leave worker).value =
      { scheduler with
        departed := if scheduler.departed.contains worker then scheduler.departed
          else scheduler.departed ++ [worker]
        records := scheduler.records.modify worker fun record =>
          { record with departed := true } }) ∨
      scheduler.isMaster = false ∧ ∃ master gone,
        (scheduler.leave worker).value = { scheduler with role := .worker master gone } := by
  unfold leave
  split
  next master gone part =>
    refine .inr ⟨by rw [isMaster, part], ?_⟩
    split
    · refine ⟨master, gone, ?_⟩
      rw [← part]
      rfl
    · exact ⟨master, true, rfl⟩
  next part =>
    refine .inl ⟨by rw [isMaster, part], ?_⟩
    cases scheduler.records.contains worker <;> rfl

/-! ### What keeps the records -/

/-- **Two states of a scheduler that know the same workers** and mark the same as departed. -/
structure Alike (first second : Scheduler) : Prop where
  policy : second.policy = first.policy
  node : second.node = first.node
  isMaster : second.isMaster = first.isMaster
  departed : second.departed = first.departed
  gone? : second.gone? = first.gone?

namespace Alike

theorem refl (scheduler : Scheduler) : scheduler.Alike scheduler := ⟨rfl, rfl, rfl, rfl, rfl⟩

theorem trans {first second third : Scheduler} (left : first.Alike second)
    (right : second.Alike third) : first.Alike third :=
  ⟨right.policy.trans left.policy, right.node.trans left.node, right.isMaster.trans left.isMaster,
    right.departed.trans left.departed, right.gone?.trans left.gone?⟩

end Alike

theorem alike_giveBack (scheduler : Scheduler) (submission : Submission) :
    scheduler.Alike (scheduler.giveBack submission).value := by
  unfold giveBack
  split
  · exact .refl scheduler
  · split <;> exact ⟨rfl, rfl, rfl, rfl, rfl⟩

/-- Taking jobs back leaves the records as they are. -/
theorem alike_reclaim (scheduler : Scheduler) (ledger : Ledger) (worker : NodeId) :
    scheduler.Alike (scheduler.reclaim ledger worker).value.2.1 := by
  unfold reclaim
  split
  next requests _ =>
    refine Traced.foldlM_preserves _ requests (fun state request _ alike => ?_) (.refl scheduler)
    exact alike.trans (state.alike_giveBack request.submission)
  next => exact .refl scheduler
  next => exact .refl scheduler

/-- What does not see a change of one record sees no change of the records. -/
theorem view_modify {α : Type} {records : Roster NodeId WorkerRecord} {worker : NodeId}
    {view : WorkerRecord → α} {change : WorkerRecord → WorkerRecord}
    (blind : ∀ record, view (change record) = view record) (other : NodeId) :
    ((records.modify worker change).get? other).map view = (records.get? other).map view := by
  rw [Roster.get?_modify]
  split
  · rw [Option.map_map]
    exact congrArg (Option.map · _) (funext blind)
  · rfl

theorem alike_complete (scheduler : Scheduler) (worker : NodeId) (seconds : Float)
    (failed : Bool) : scheduler.Alike (scheduler.complete worker seconds failed).value := by
  unfold complete
  split
  · exact .refl scheduler
  · exact ⟨rfl, rfl, rfl, rfl, funext (view_modify fun _ => rfl)⟩

/-- A dispatch counts in the record of its worker and marks none. -/
theorem alike_maintain (scheduler : Scheduler) (ledger : Ledger) (link : Link) :
    scheduler.Alike (scheduler.maintain ledger link).value.2.1 := by
  rcases scheduler.maintain_exact ledger link with ⟨_, nothing⟩ |
    ⟨_, _, worker, _, rule, records, _, _, _, _, redrawn, ⟨_, value, _⟩ | ⟨_, _, _, value, _⟩⟩
  · rw [nothing]
    exact .refl scheduler
  · rw [value]
    exact ⟨rfl, rfl, rfl, rfl, funext (redrawn.map_eq fun _ => rfl)⟩
  · rw [value]
    refine ⟨rfl, rfl, rfl, rfl, funext fun other => ?_⟩
    refine Eq.trans (view_modify ?_ other) (redrawn.map_eq (fun _ => rfl) other)
    exact fun _ => rfl

end Scheduler

end JobPool
