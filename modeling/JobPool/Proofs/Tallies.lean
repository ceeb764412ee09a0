/-
**What the record of a worker counts.**

A record counts the requests that were dispatched to its worker, the completions that were handled
and how many of them failed, and its forecaster counts its samples. Which jobs these were and how
long they took is not in the numbers, and neither are the draws of the forecasters. Every operation
of the scheduler is described by what it does to the numbers of one worker.

* `Model.count_add`, `Forecaster.count_create` — each sample counts once, and a new forecaster has
  one;
* `Tally`, `Scheduler.tally?` — the numbers of a worker;
* `Tally.Sound`, `Tally.adds_complete` — the numbers that are possible, and what keeps them so;
* `tally?_join`, `tally?_leave`, `tally?_complete`, `tally?_dispatched` — the operations.
-/

import JobPool.Proofs.Records

namespace JobPool

/-! ### Samples -/

/-- **A model takes in every sample once**, whatever it is. -/
theorem Model.count_add {α : Type} [Scale α] (model : Model α) (sample : α) :
    (model.add sample).count = model.count + 1 := by
  induction model generalizing sample with
  | exact moments => rfl
  | decay trend =>
    rw [add, count, count, Trend.add]
    split
    next first => rw [first]
    next => rfl
  | log inner hypothesis => exact hypothesis _

/-- A model of any kind begins without samples. -/
theorem ModelKind.count_model {α : Type} [Scale α] (kind : ModelKind) (alpha : α) :
    (kind.model alpha).count = 0 := by
  cases kind <;> rfl

theorem Forecaster.count_create (kind : ModelKind) (alpha : Float) (stream : Random.Stream) :
    (create kind alpha stream).model.count = 1 := by
  rw [create, Model.count_add, ModelKind.count_model]

/-! ### Numbers -/

/-- The numbers in the record of a worker. -/
structure Tally where
  departed : Bool
  dispatched : Nat
  completed : Nat
  failed : Nat
  samples : Nat

namespace Tally

/-- The numbers of a worker that has just been seen. -/
def fresh : Tally := ⟨false, 0, 0, 0, 1⟩

/-- One more request is dispatched. -/
def dispatch (tally : Tally) : Tally := { tally with dispatched := tally.dispatched + 1 }

/-- The worker departs. -/
def depart (tally : Tally) : Tally := { tally with departed := true }

/-- One more completion is handled. The forecaster takes no sample from a failure that it is not to
learn from. -/
def complete (learns failed : Bool) (tally : Tally) : Tally :=
  { tally with
    completed := tally.completed + 1
    failed := if failed then tally.failed + 1 else tally.failed
    samples := if !failed || learns then tally.samples + 1 else tally.samples }

/-- **The numbers are possible.** No more completions failed than there were, and each of them gave
one sample, except for the failures that the forecaster is not to learn from. -/
structure Sound (learns : Bool) (tally : Tally) : Prop where
  failed : tally.failed ≤ tally.completed
  samples : tally.samples + (if learns then 0 else tally.failed) = 1 + tally.completed

theorem sound_fresh (learns : Bool) : fresh.Sound learns := by
  refine ⟨Nat.le_refl 0, ?_⟩
  cases learns <;> rfl

/-- A way of counting adds to the requests and to the completions, and may note a departure. -/
structure Adds (learns : Bool) (count : Tally → Tally) (dispatched completed : Nat)
    (leaves : Bool) : Prop where
  departed : ∀ tally, (count tally).departed = (tally.departed || leaves)
  dispatched : ∀ tally, (count tally).dispatched = tally.dispatched + dispatched
  completed : ∀ tally, (count tally).completed = tally.completed + completed
  sound : ∀ tally, tally.Sound learns → (count tally).Sound learns

theorem adds_id (learns : Bool) : Adds learns id 0 0 false :=
  ⟨fun _ => (Bool.or_false _).symm, fun _ => rfl, fun _ => rfl, fun _ => id⟩

theorem adds_dispatch (learns : Bool) : Adds learns dispatch 1 0 false :=
  ⟨fun _ => (Bool.or_false _).symm, fun _ => rfl, fun _ => rfl,
    fun _ sound => ⟨sound.failed, sound.samples⟩⟩

theorem adds_depart (learns : Bool) : Adds learns depart 0 0 true :=
  ⟨fun _ => (Bool.or_true _).symm, fun _ => rfl, fun _ => rfl,
    fun _ sound => ⟨sound.failed, sound.samples⟩⟩

/-- **A completion keeps the numbers possible**, whether or not it failed. -/
theorem adds_complete (learns failed : Bool) : Adds learns (complete learns failed) 0 1 false := by
  refine ⟨fun _ => (Bool.or_false _).symm, fun _ => rfl, fun _ => rfl, fun tally sound => ?_⟩
  have bound := sound.failed
  have balance := sound.samples
  constructor
  · cases failed <;> simp [complete] <;> omega
  · cases failed <;> cases learns <;> simp [complete] at balance ⊢ <;> omega

end Tally

def WorkerRecord.tally (record : WorkerRecord) : Tally :=
  ⟨record.departed, record.dispatched, record.completed, record.failed,
    record.forecaster.model.count⟩

namespace Scheduler

/-- The numbers of a worker, none without a record. -/
def tally? (scheduler : Scheduler) (worker : NodeId) : Option Tally :=
  (scheduler.records.get? worker).map WorkerRecord.tally

variable {scheduler next : Scheduler} {worker : NodeId}

/-- A worker that is admitted has no numbers yet. -/
theorem Admits.tally? (admits : scheduler.Admits worker) : scheduler.tally? worker = none :=
  Option.map_eq_none_iff.mpr (Option.map_eq_none_iff.mp admits.unseen)

/-- A change of one record changes the numbers of its worker. -/
private theorem tally?_of_modify {records : Roster NodeId WorkerRecord}
    {change : WorkerRecord → WorkerRecord} {count : Tally → Tally}
    (same : ∀ record, (change record).tally = count record.tally)
    (changed : next.records = records.modify worker change)
    (before : ∀ other, (records.get? other).map WorkerRecord.tally = scheduler.tally? other) :
    next.tally? = fun other =>
      if other = worker then (scheduler.tally? worker).map count else scheduler.tally? other := by
  funext other
  rw [tally?, changed, Roster.get?_modify]
  split
  next own =>
    subst own
    rw [← before, Option.map_map, Option.map_map]
    exact congrArg (Option.map · _) (funext same)
  next => exact before other

/-! ### Operations -/

/-- **A worker that is admitted begins with fresh numbers.** -/
theorem tally?_join (scheduler : Scheduler) (worker : NodeId) :
    (¬ scheduler.Admits worker ∧ (scheduler.join worker).value.tally? = scheduler.tally?) ∨
      scheduler.Admits worker ∧ (scheduler.join worker).value.tally? = fun other =>
        if other = worker then some .fresh else scheduler.tally? other := by
  rcases scheduler.join_exact worker with ⟨refused, same⟩ | ⟨admits, stream, seeds, joined⟩
  · exact .inl ⟨refused, by rw [same]⟩
  · refine .inr ⟨admits, funext fun other => ?_⟩
    rw [joined, tally?, Roster.get?_insert]
    split
    · rw [Option.map_some, WorkerRecord.tally, Forecaster.count_create]
      rfl
    · rfl

/-- A departure leaves the counts as they are. -/
theorem tally?_leave (master : scheduler.isMaster = true) (worker : NodeId) :
    (scheduler.leave worker).value.tally? = fun other =>
      if other = worker then (scheduler.tally? worker).map .depart
      else scheduler.tally? other := by
  rcases scheduler.leave_exact worker with ⟨_, left⟩ | ⟨part, _⟩
  · have changed : (scheduler.leave worker).value.records = scheduler.records.modify worker
        fun record => { record with departed := true } := by rw [left]
    exact tally?_of_modify (fun _ => rfl) changed fun _ => rfl
  · cases part.symm.trans master

/-- **A completion counts once in the record of its worker**, and at most one sample. -/
theorem tally?_complete (scheduler : Scheduler) (worker : NodeId) (seconds : Float)
    (failed : Bool) :
    (scheduler.complete worker seconds failed).value.tally? = fun other =>
      if other = worker then
        (scheduler.tally? worker).map (.complete scheduler.policy.learnFromFailures failed)
      else scheduler.tally? other := by
  by_cases known : scheduler.records.contains worker = true
  · let learns := !failed || scheduler.policy.learnFromFailures
    have changed : (scheduler.complete worker seconds failed).value.records =
        scheduler.records.modify worker fun record =>
          { record with
            completed := record.completed + 1
            failed := if failed then record.failed + 1 else record.failed
            forecaster := if learns then record.forecaster.add (Scale.clamp seconds)
              else record.forecaster } := by
      rw [complete, known]
      rfl
    refine tally?_of_modify (fun record => ?_) changed fun _ => rfl
    have samples : (if learns then record.forecaster.add (Scale.clamp seconds)
        else record.forecaster).model.count =
        if learns then record.forecaster.model.count + 1 else record.forecaster.model.count := by
      split
      · exact Model.count_add _ _
      · rfl
    exact congrArg (Tally.mk _ _ _ _) samples
  · have absent : scheduler.records.get? worker = none := by simpa [Roster.contains] using known
    have same : (scheduler.complete worker seconds failed).value = scheduler := by
      rw [complete, Bool.eq_false_iff.mpr known]
      rfl
    funext other
    rw [same]
    split
    next own => rw [own, tally?, absent]; rfl
    next => rfl

/-- A dispatch counts in the record of its worker, and the draws before it do not. -/
theorem tally?_dispatched {records : Roster NodeId WorkerRecord}
    (redrawn : Redrawn scheduler.records records)
    (changed : next.records = records.modify worker fun record =>
      { record with dispatched := record.dispatched + 1 }) :
    next.tally? = fun other =>
      if other = worker then (scheduler.tally? worker).map .dispatch
      else scheduler.tally? other := by
  exact tally?_of_modify (fun _ => rfl) changed (redrawn.map_eq fun _ => rfl)

theorem tally?_redrawn {records : Roster NodeId WorkerRecord}
    (redrawn : Redrawn scheduler.records records) (changed : next.records = records) :
    next.tally? = scheduler.tally? := by
  funext worker
  rw [tally?, changed]
  exact redrawn.map_eq (fun _ => rfl) worker

end Scheduler

end JobPool
