/-
**No admitted job is lost, duplicated or separated from its submitter.**

Between two moves every unsettled job of an engine in use has one place, in the pending queue or
among the requests of the ledger, and one submitter who waits for it. A job leaves this bookkeeping
only together with the answer to its submitter, which carries the identity of the job.

* `Conserved` — the bookkeeping of an engine, together with the history of its answers;
* `Conserved.settling` — each of the four ways of settling keeps it;
* `unsettledJobs_conserved` — it holds on a master after any sequence of stimuli.
-/

import JobPool.Proofs.Engine.Sessions
import JobPool.Proofs.Engine.Settling

namespace JobPool

/-- The submitter of a job was told its outcome. -/
def Settled (history : List Effect) (ticket : Ticket) (job : JobId) : Prop :=
  ∃ outcome : Outcome, outcome.job = job ∧ .answered ticket (.ok outcome) ∈ history

theorem Settled.append {history : List Effect} {ticket : Ticket} {job : JobId}
    (settled : Settled history ticket job) (more : List Effect) :
    Settled (history ++ more) ticket job := by
  obtain ⟨outcome, own, told⟩ := settled
  exact ⟨outcome, own, List.mem_append_left more told⟩

namespace Engine

/-- **Every unsettled job has one place and one submitter**, and the submitter of a job that is no
longer unsettled has its outcome. -/
structure Conserved (history : List Effect) (engine : Engine) : Prop where
  distinct : engine.unsettledJobs.Nodup
  known : ∀ job ∈ engine.unsettledJobs, job < engine.jobIds.next
  awaited : engine.isGone = false →
    ∀ job, job ∈ engine.subscribers.keys ↔ job ∈ engine.unsettledJobs
  tracked : engine.isGone = false → ∀ ticket job, .admitted ticket job ∈ history →
    engine.subscribers.get? job = some ticket ∨ Settled history ticket job
  completed : engine.stopReason = some .completed → ∀ ticket job, .admitted ticket job ∈ history →
    Settled history ticket job

theorem conserved_create (options : Options) (node master : NodeId) (link : Link) :
    (Engine.create options node master link).Conserved [] :=
  ⟨List.nodup_nil, nofun, fun _ _ => .rfl, fun _ => nofun, nofun⟩

/-- Nothing changes for the jobs that were admitted before. -/
private theorem admitted_before {history effects : List Effect} {ticket : Ticket} {job : JobId}
    (admitted : .admitted ticket job ∈ history ++ effects)
    (silent : Effect.admissions effects = []) : .admitted ticket job ∈ history := by
  refine (List.mem_append.mp admitted).resolve_right fun late => ?_
  have listed := Effect.mem_admissions.mpr late
  rw [silent] at listed
  cases listed

section Ways

variable {history effects : List Effect} {engine next : Engine}

/-- The next identity is not in use. -/
theorem Conserved.fresh (conserved : engine.Conserved history) :
    engine.jobIds.next ∉ engine.unsettledJobs :=
  fun member => Nat.lt_irrefl _ (conserved.known _ member)

/-- A job whose submitter waits is unsettled. -/
theorem Conserved.unsettled_of_waiting (conserved : engine.Conserved history)
    (alive : engine.isGone = false) {job : JobId} {ticket : Ticket}
    (waits : engine.subscribers.get? job = some ticket) : job ∈ engine.unsettledJobs := by
  rw [← conserved.awaited alive, ← Roster.contains_iff, Roster.contains, waits]
  rfl

/-- Jobs that are settled leave the bookkeeping with the answers to their submitters. -/
private theorem Conserved.reports (conserved : engine.Conserved history)
    (alive : engine.isGone = false) (ongoing : next.stopReason ≠ some .completed)
    {jobs : List JobId} {told : List Effect}
    (reported : Told engine.subscribers next.subscribers jobs told)
    (split : engine.unsettledJobs.Perm (jobs ++ next.unsettledJobs))
    (ids : next.jobIds = engine.jobIds)
    (answers : Effect.answers effects = Effect.answers told)
    (admissions : Effect.admissions effects = []) : next.Conserved (history ++ effects) := by
  have distinct := conserved.distinct
  rw [split.nodup_iff, List.nodup_append] at distinct
  refine ⟨distinct.2.1, ?_, ?_, ?_, fun stated => (ongoing stated).elim⟩
  · intro job member
    rw [ids]
    exact conserved.known job (split.symm.subset (List.mem_append_right jobs member))
  · intro _ job
    rw [reported.mem_keys, conserved.awaited alive, split.mem_iff, List.mem_append]
    constructor
    · exact fun ⟨member, other⟩ => member.resolve_left other
    · exact fun member => ⟨.inr member, fun settled => distinct.2.2 _ settled _ member rfl⟩
  · intro _ ticket job admitted
    rcases conserved.tracked alive ticket job (admitted_before admitted admissions) with
      waits | settled
    · by_cases settles : job ∈ jobs
      · obtain ⟨outcome, own, sent⟩ := reported.reached job settles ticket waits
        rw [← Effect.mem_answers, ← answers, Effect.mem_answers] at sent
        exact .inr ⟨outcome, own, List.mem_append_right history sent⟩
      · exact .inl (by rw [reported.kept, if_neg settles, waits])
    · exact .inr (settled.append effects)

/-- A refused submission leaves the jobs and their submitters as they are. -/
private theorem Conserved.refuses (conserved : engine.Conserved history)
    (alive : engine.isGone = false) (ongoing : next.stopReason ≠ some .completed)
    (jobs : next.unsettledJobs = engine.unsettledJobs)
    (ids : engine.jobIds.next ≤ next.jobIds.next)
    (submitters : next.subscribers = engine.subscribers)
    (admissions : Effect.admissions effects = []) : next.Conserved (history ++ effects) := by
  refine ⟨jobs ▸ conserved.distinct, ?_, ?_, ?_, fun stated => (ongoing stated).elim⟩
  · intro job member
    rw [jobs] at member
    exact Nat.lt_of_lt_of_le (conserved.known job member) ids
  · intro _ job
    rw [submitters, jobs]
    exact conserved.awaited alive job
  · intro _ ticket job admitted
    have before := admitted_before admitted admissions
    rw [submitters]
    exact (conserved.tracked alive ticket job before).imp_right fun settled =>
      settled.append effects

/-- An admitted job enters the bookkeeping under an identity that is not in use. -/
private theorem Conserved.admits (conserved : engine.Conserved history)
    (alive : engine.isGone = false) (ongoing : next.stopReason ≠ some .completed)
    {ticket : Ticket}
    (jobs : next.unsettledJobs.Perm (engine.jobIds.next :: engine.unsettledJobs))
    (ids : next.jobIds.next = engine.jobIds.next + 1)
    (submitters : next.subscribers = engine.subscribers.insert engine.jobIds.next ticket)
    (admissions : Effect.admissions effects = [(ticket, engine.jobIds.next)]) :
    next.Conserved (history ++ effects) := by
  refine ⟨?_, ?_, ?_, ?_, fun stated => (ongoing stated).elim⟩
  · rw [jobs.nodup_iff, List.nodup_cons]
    exact ⟨conserved.fresh, conserved.distinct⟩
  · intro job member
    rw [ids]
    rcases List.mem_cons.mp (jobs.subset member) with rfl | old
    · exact Nat.lt_succ_self _
    · exact Nat.lt_succ_of_lt (conserved.known job old)
  · intro _ job
    rw [submitters, ← Roster.contains_iff, Roster.contains, Roster.get?_insert, jobs.mem_iff,
      List.mem_cons, ← conserved.awaited alive, ← Roster.contains_iff, Roster.contains]
    by_cases same : job = engine.jobIds.next <;> simp [same]
  · intro _ other job admitted
    rw [submitters, Roster.get?_insert]
    rcases List.mem_append.mp admitted with early | late
    · rcases conserved.tracked alive other job early with waits | settled
      · have differs : job ≠ engine.jobIds.next := by
          intro same
          exact conserved.fresh (same ▸ conserved.unsettled_of_waiting alive waits)
        rw [if_neg differs]
        exact .inl waits
      · exact .inr (settled.append effects)
    · have listed := Effect.mem_admissions.mpr late
      rw [admissions, List.mem_singleton] at listed
      cases listed
      exact .inl (if_pos rfl)

/-- When a run is complete at its end, every admitted job was settled before. -/
private theorem Conserved.ends (conserved : engine.Conserved history)
    (alive : engine.isGone = false) (gone : next.isGone = true)
    (jobs : next.unsettledJobs = engine.unsettledJobs) (ids : next.jobIds = engine.jobIds)
    (completed : next.stopReason = some .completed → engine.unsettledJobs = [])
    (admissions : Effect.admissions effects = []) : next.Conserved (history ++ effects) := by
  refine ⟨jobs ▸ conserved.distinct, ?_, ?_, ?_, ?_⟩
  · rw [jobs, ids]
    exact conserved.known
  · intro present
    cases gone.symm.trans present
  · intro present
    cases gone.symm.trans present
  · intro stated ticket job admitted
    have before := admitted_before admitted admissions
    rcases conserved.tracked alive ticket job before with waits | settled
    · have listed := conserved.unsettled_of_waiting alive waits
      rw [completed stated] at listed
      cases listed
    · exact settled.append effects

/-- **Each of the four ways of settling keeps the bookkeeping.** -/
theorem Conserved.settling (conserved : engine.Conserved history) (alive : engine.isGone = false)
    (orderly : next.Orderly) (settling : Settling engine next effects) :
    next.Conserved (history ++ effects) := by
  cases settling with
  | reports jobs told reported split ids tickets present answers admissions =>
    exact conserved.reports alive (orderly.ongoing present) reported split ids answers admissions
  | refuses ticket fault refusal jobs ids submitters tickets present answers admissions =>
    exact conserved.refuses alive (orderly.ongoing present) jobs ids submitters admissions
  | admits ticket jobs ids submitters tickets present answers admissions =>
    exact conserved.admits alive (orderly.ongoing present) jobs ids submitters admissions
  | ends gone tickets jobs ids completed answers admissions =>
    exact conserved.ends alive gone jobs ids completed admissions

end Ways

/-- Without a move the bookkeeping stays as it is. -/
private theorem Conserved.still {history effects : List Effect} {engine next : Engine}
    (conserved : engine.Conserved history) (jobs : next.unsettledJobs = engine.unsettledJobs)
    (ids : next.jobIds = engine.jobIds) (submitters : next.subscribers = engine.subscribers)
    (stage : next.stage = engine.stage) (reason : next.stopReason = engine.stopReason)
    (silent : Effect.admissions effects = []) : next.Conserved (history ++ effects) := by
  obtain ⟨distinct, known, awaited, tracked, completed⟩ := conserved
  have gone : next.isGone = engine.isGone := by rw [isGone, isGone, stage]
  refine ⟨jobs ▸ distinct, ?_, ?_, ?_, ?_⟩
  · rw [jobs, ids]
    exact known
  · intro alive
    rw [jobs, submitters]
    exact awaited (gone.symm.trans alive)
  · intro alive ticket job admitted
    rw [submitters]
    exact (tracked (gone.symm.trans alive) ticket job (admitted_before admitted silent)).imp_right
      fun settled => settled.append effects
  · intro stated ticket job admitted
    exact (completed (reason.symm.trans stated) ticket job
      (admitted_before admitted silent)).append effects

end Engine

namespace Session

/-- The bookkeeping of a session. -/
def Kept (history : List Effect) (session : Session) : Prop :=
  session.engine.Orderly ∧ session.engine.Conserved history

/-- Every turn keeps the bookkeeping. -/
theorem Kept.turn {history : List Effect} {session : Session} {act : Act Session}
    (kept : Kept history session) (turn : Turn session act) :
    Kept (history ++ act.effects) act.value := by
  obtain ⟨orderly, conserved⟩ := kept
  cases turn with
  | move move =>
    obtain ⟨still, settling⟩ := orderly.move move
    exact ⟨still, conserved.settling move.alive still settling⟩
  | surround | post alive other | submit alive =>
    exact ⟨orderly.same rfl rfl rfl rfl orderly.settled orderly.ledger,
      conserved.still rfl rfl rfl rfl rfl rfl⟩
  | drop gone silent =>
    refine ⟨orderly, conserved.still rfl rfl rfl rfl rfl ?_⟩
    rw [← Effect.admissions_deeds, silent]
    rfl
  | dismiss gone told =>
    refine ⟨orderly, conserved.still rfl rfl rfl rfl rfl ?_⟩
    rw [← Effect.admissions_deeds, told]
    rfl

theorem kept_create (options : Options) (node master : NodeId) (link : Link) :
    Kept [] (create options node master link) :=
  ⟨Engine.orderly_create options node master link,
    Engine.conserved_create options node master link⟩

/-- **Job conservation on the master.** Whatever is submitted, delivered and announced to a master
in whatever order, and whatever its link accepts or refuses: as long as it has not shut down, every
job is at most once in the queue and the ledger together, exactly these jobs have a waiting
submitter, and none is left between two owners. Every job that was admitted still waits under its
own submitter or was answered to it. -/
theorem unsettledJobs_conserved (options : Options) (node : NodeId) (link : Link)
    (stimuli : List Stimulus) :
    let act := (create options node node link).run stimuli
    let engine := act.value.engine
    engine.phase = .running → engine.stage ≠ .discarded →
      engine.unsettledJobs.Nodup ∧
      (∀ job, job ∈ engine.subscribers.keys ↔ job ∈ engine.unsettledJobs) ∧
      engine.scheduler.abandoned = [] ∧
      ∀ ticket job, .admitted ticket job ∈ act.effects →
        engine.subscribers.get? job = some ticket ∨ Settled act.effects ticket job := by
  intro act engine running present
  obtain ⟨orderly, conserved⟩ : Kept act.effects act.value :=
    @run_keeps Kept Kept.turn (create options node node link) nofun
      (kept_create options node node link) stimuli
  have alive : engine.isGone = false := by
    unfold Engine.isGone
    cases stage : engine.stage with
    | finished => cases (orderly.closed stage).symm.trans running
    | discarded => exact (present stage).elim
    | created | passing | holding | waiting => rfl
  exact ⟨conserved.distinct, conserved.awaited alive, orderly.settled, conserved.tracked alive⟩

/-- One of two jobs has been dispatched and the other one is queued; both still wait. -/
theorem unsettledJobs_conserved_midway :
    let engine := ((create ({ scheduler := { selector := .roundRobin } } : Settings).options 1 1
      {}).run [.advance true, .submit (.sleep 0) [], .submit (.sleep 1) [],
        .deliver ⟨2, .register⟩, .advance true]).value.engine
    engine.phase = .running ∧ engine.stage ≠ .discarded ∧ engine.unsettledJobs = [2, 1] ∧
      engine.unsettledJobs.Nodup ∧
      ∀ job, job ∈ engine.subscribers.keys ↔ job ∈ engine.unsettledJobs := by
  have conserved := unsettledJobs_conserved
    ({ scheduler := { selector := .roundRobin } } : Settings).options 1 {}
    [.advance true, .submit (.sleep 0) [], .submit (.sleep 1) [], .deliver ⟨2, .register⟩,
      .advance true] rfl (by decide)
  exact ⟨rfl, by decide, rfl, conserved.1, conserved.2.1⟩

end Session

end JobPool
