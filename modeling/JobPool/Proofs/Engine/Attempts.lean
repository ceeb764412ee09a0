/-
**Every attempt of a job is one dispatch.**

The attempt of a submission is raised in one place, when its worker departs, and read in two, when
its outcome is reported and when it is compared with the limit of the policy. The history says how
often a job was dispatched: a pending job waits for the dispatch after those, an outstanding one is
the last of them, and a reported one was dispatched as often as its outcome says. A limit is
therefore a limit on dispatches, and a job is abandoned when its worker departs with the last one.

* `Effect.dispatches` — how often a job was dispatched;
* `Counted` — the attempts of all jobs agree with the history;
* `Counted.booking` — every entry keeps this;
* `attempts_counted` — attempts, dispatches and abandoned jobs of a master.
-/

import JobPool.Proofs.Engine.Books

namespace JobPool

namespace Effect

/-- The effect is a dispatch of the job. -/
def isDispatchOf (job : JobId) : Effect → Bool
  | issued _ _ dispatched _ => dispatched = job
  | log _ | handled _ | resolved .. | applied _ | admitted .. | queued .. | sent .. | ran ..
  | answered .. | linkClosed | brokeDown _ => false

/-- How often a job was dispatched, whether or not the link accepted the message. -/
def dispatches (history : List Effect) (job : JobId) : Nat := history.countP (isDispatchOf job)

@[simp] theorem dispatches_append (history effects : List Effect) (job : JobId) :
    dispatches (history ++ effects) job = dispatches history job + dispatches effects job :=
  List.countP_append

theorem dispatches_entries (effects : List Effect) (job : JobId) :
    dispatches (entries effects) job = dispatches effects job := by
  rw [dispatches, entries, List.countP_filter]
  refine List.countP_congr fun effect _ => ?_
  cases effect <;> simp [isDispatchOf, isEntry]

theorem dispatches_eq_zero {effects : List Effect} {job : JobId}
    (none : ∀ effect ∈ entries effects, isDispatchOf job effect = false) :
    dispatches effects job = 0 := by
  rw [← dispatches_entries, dispatches, List.countP_eq_zero]
  exact fun effect member => by simp [none effect member]

/-- A job that was issued was dispatched. -/
theorem dispatches_pos {history : List Effect} {request : RequestId} {worker : NodeId}
    {job : JobId} {attempt : Nat} (issued : .issued request worker job attempt ∈ history) :
    0 < dispatches history job :=
  List.countP_pos_iff.mpr ⟨_, issued, by simp [isDispatchOf]⟩

/-- Jobs are put back into the queue and submitters are told, and nothing else happens. -/
def GivesBack (effects : List Effect) : Prop :=
  ∀ effect ∈ deeds effects, (∃ job attempt, effect = .queued job attempt) ∨
    ∃ ticket answer, effect = .answered ticket answer

theorem GivesBack.of_append {first second : List Effect} (gives : GivesBack (first ++ second)) :
    GivesBack first := by
  intro effect member
  refine gives effect ?_
  rw [deeds_append]
  exact List.mem_append_left _ member

end Effect

namespace Engine

open Effect (dispatches)

/-- **The attempts of all jobs agree with the history**, and with a limit no attempt goes beyond
it. -/
structure Counted (policy : Policy) (history : List Effect) (engine : Engine) : Prop where
  ruled : engine.scheduler.policy = policy
  unissued : ∀ job, engine.jobIds.next ≤ job → dispatches history job = 0
  pending : ∀ submission ∈ engine.scheduler.queue,
    submission.attempt = dispatches history submission.id + 1
  held : ∀ worker, ∀ request ∈ engine.ledger.requests worker,
    request.submission.attempt = dispatches history request.submission.id
  answered : ∀ ticket outcome, .answered ticket (.ok outcome) ∈ history →
    outcome.attempts = dispatches history outcome.job ∧ outcome.job < engine.jobIds.next ∧
      engine.subscribers.get? outcome.job = none
  capped : ∀ limit, policy.maxAttempts = some limit →
    (∀ job, dispatches history job ≤ max limit 1) ∧
      ∀ submission ∈ engine.scheduler.queue, submission.attempt ≤ max limit 1

theorem counted_create (options : Options) (node master : NodeId) (link : Link) :
    (Engine.create options node master link).Counted options.policy [] :=
  ⟨rfl, fun _ _ => rfl, nofun, nofun, nofun, fun _ _ => ⟨fun _ => Nat.zero_le _, nofun⟩⟩

section Entries

variable {policy : Policy} {history effects : List Effect} {engine next : Engine}

/-- An entry without a dispatch. -/
private theorem Counted.undispatched (counted : engine.Counted policy history)
    (ruled : next.scheduler.policy = engine.scheduler.policy)
    (jobs : engine.jobIds.next ≤ next.jobIds.next)
    (silent : ∀ job, dispatches effects job = 0)
    (pending : ∀ submission ∈ next.scheduler.queue,
      submission.attempt = dispatches history submission.id + 1 ∧
      ∀ limit, policy.maxAttempts = some limit → submission.attempt ≤ max limit 1)
    (held : ∀ worker, ∀ request ∈ next.ledger.requests worker,
      request ∈ engine.ledger.requests worker)
    (waiting : ∀ job < engine.jobIds.next, engine.subscribers.get? job = none →
      next.subscribers.get? job = none)
    (answered : ∀ ticket outcome, .answered ticket (.ok outcome) ∈ Effect.entries effects →
      outcome.attempts = dispatches history outcome.job ∧ outcome.job < engine.jobIds.next ∧
        next.subscribers.get? outcome.job = none) : next.Counted policy (history ++ effects) := by
  have same : ∀ job, dispatches (history ++ effects) job = dispatches history job := by
    intro job
    rw [Effect.dispatches_append, silent, Nat.add_zero]
  refine ⟨ruled.trans counted.ruled, ?_, ?_, ?_, ?_, ?_⟩
  · intro job fresh
    rw [same]
    exact counted.unissued job (Nat.le_trans jobs fresh)
  · intro submission member
    rw [same]
    exact (pending submission member).1
  · intro worker request member
    rw [same]
    exact counted.held worker request (held worker request member)
  · intro ticket outcome told
    rw [same]
    rcases (Effect.mem_append_entries rfl).mp told with old | new
    · obtain ⟨attempts, known, gone⟩ := counted.answered ticket outcome old
      exact ⟨attempts, Nat.lt_of_lt_of_le known jobs, waiting _ known gone⟩
    · obtain ⟨attempts, known, gone⟩ := answered ticket outcome new
      exact ⟨attempts, Nat.lt_of_lt_of_le known jobs, gone⟩
  · intro limit stated
    refine ⟨fun job => ?_, fun submission member => (pending submission member).2 limit stated⟩
    rw [same]
    exact (counted.capped limit stated).1 job

/-- What waits in an unchanged queue is still counted. -/
private theorem Counted.waits (counted : engine.Counted policy history)
    (queue : next.scheduler.queue = engine.scheduler.queue) :
    ∀ submission ∈ next.scheduler.queue,
      submission.attempt = dispatches history submission.id + 1 ∧
      ∀ limit, policy.maxAttempts = some limit → submission.attempt ≤ max limit 1 := by
  rw [queue]
  exact fun submission member => ⟨counted.pending submission member,
    fun limit stated => (counted.capped limit stated).2 submission member⟩

/-- A new job waits for its first dispatch. -/
private theorem Counted.admits (counted : engine.Counted policy history)
    (ruled : next.scheduler.policy = engine.scheduler.policy) {ticket : Ticket} {job : Job}
    {input : Bytes} (admission : Admission engine next effects ticket job input) :
    next.Counted policy (history ++ effects) := by
  refine counted.undispatched ruled (admission.jobs ▸ Nat.le_succ _) ?_ ?_ ?_ ?_ ?_
  · refine fun other => Effect.dispatches_eq_zero fun effect member => ?_
    rcases admission.entered member with rfl | rfl
    · rfl
    · rfl
  · rw [admission.queue]
    intro submission member
    rcases List.mem_append.mp member with old | new
    · exact counted.waits rfl submission old
    · rw [List.mem_singleton.mp new]
      refine ⟨?_, fun limit _ => Nat.le_max_right limit 1⟩
      rw [counted.unissued _ (Nat.le_refl _)]
  · rw [admission.ledger]
    exact fun _ _ => id
  · intro other known gone
    rw [admission.waiting, Roster.get?_insert, if_neg (Nat.ne_of_lt known)]
    exact gone
  · intro told outcome member
    obtain ⟨⟨⟩⟩ | ⟨⟨⟩⟩ := admission.entered member

/-- A resolved request was the last dispatch of its job. -/
private theorem Counted.resolves (counted : engine.Counted policy history)
    (conserved : engine.Conserved history)
    (ruled : next.scheduler.policy = engine.scheduler.policy) {worker : NodeId} {struck : Request}
    {before later : List Request} {result : Bytes} {failed : Bool} {seconds : Float}
    (resolution :
      Resolution engine next effects worker struck before later result failed seconds) :
    next.Counted policy (history ++ effects) := by
  have member : struck ∈ engine.ledger.requests worker := by
    rw [resolution.listed]
    exact List.mem_append_right before List.mem_cons_self
  have erased : ∀ job, job = struck.submission.id ∨ engine.subscribers.get? job = none →
      next.subscribers.get? job = none := by
    intro job gone
    rw [resolution.waiting, Roster.get?_erase]
    split
    · rfl
    next other => exact gone.resolve_left other
  refine counted.undispatched ruled (Nat.le_of_eq (by rw [resolution.jobs])) ?_
    (counted.waits resolution.queue) ?_ (fun job _ gone => erased job (.inr gone)) ?_
  · refine fun job => Effect.dispatches_eq_zero fun effect inside => ?_
    rcases resolution.entered inside with rfl | rfl | ⟨_, _, rfl⟩
    · rfl
    · rfl
    · rfl
  · intro other request inside
    simp only [resolution.requests] at inside
    by_cases own : other = worker
    · subst own
      rw [if_pos rfl] at inside
      rw [resolution.listed]
      exact (List.mem_append.mp inside).elim (List.mem_append_left _)
        fun late => List.mem_append_right before (List.mem_cons_of_mem struck late)
    · rw [if_neg own] at inside
      exact inside
  · intro ticket outcome told
    obtain ⟨⟨⟩⟩ | ⟨⟨⟩⟩ | ⟨_, _, ⟨⟩⟩ := resolution.entered told
    rw [attempts_reported, job_reported]
    exact ⟨counted.held worker struck member, conserved.known _ (mem_unsettledJobs_of_held member),
      erased _ (.inl rfl)⟩

/-- The jobs of a departed worker wait for one more dispatch, unless they have used up theirs. -/
private theorem Counted.departs (counted : engine.Counted policy history)
    (conserved : engine.Conserved history)
    (ruled : next.scheduler.policy = engine.scheduler.policy) {worker : NodeId}
    {later : List Effect} (departure : Departure engine next effects worker later) :
    next.Counted policy (history ++ effects) := by
  have told := told_all engine.subscribers (engine.givenUp worker)
  refine counted.undispatched ruled (Nat.le_of_eq (by rw [departure.jobs])) ?_ ?_ ?_ ?_ ?_
  · refine fun job => Effect.dispatches_eq_zero fun effect member => ?_
    rcases departure.entered member with rfl | given
    · rfl
    · rcases departure.told given with ⟨_, _, rfl⟩ | ⟨_, _, _, rfl⟩
      · rfl
      · rfl
  · rw [departure.queue]
    intro submission member
    rcases List.mem_append.mp member with old | returned
    · exact counted.waits rfl submission old
    · obtain ⟨original, kept, rfl⟩ := List.mem_map.mp returned
      obtain ⟨listed, fresh⟩ := List.mem_filter.mp kept
      obtain ⟨request, inside, rfl⟩ := List.mem_map.mp listed
      refine ⟨congrArg (· + 1) (counted.held worker request inside), fun limit stated => ?_⟩
      have below : request.submission.attempt < limit := by
        simpa [Scheduler.isExhausted, counted.ruled, stated] using fresh
      exact Nat.le_trans below (Nat.le_max_left limit 1)
  · intro other request inside
    simp only [departure.requests] at inside
    by_cases own : other = worker
    · rw [if_pos own] at inside
      cases inside
    · rw [if_neg own] at inside
      exact inside
  · intro job _ gone
    rw [departure.waiting, told.kept, gone, ite_self]
  · intro ticket outcome member
    obtain ⟨⟨⟩⟩ | given := departure.entered member
    obtain ⟨_, _, ⟨⟩⟩ | ⟨_, submission, lost, ⟨⟩⟩ := departure.told given
    obtain ⟨request, inside, rfl⟩ := List.mem_map.mp (List.mem_filter.mp lost).1
    refine ⟨counted.held worker request inside,
      conserved.known _ (mem_unsettledJobs_of_held inside), ?_⟩
    rw [departure.waiting, told.kept, if_pos]
    exact List.mem_map.mpr ⟨_, List.mem_map.mpr ⟨_, lost, rfl⟩, rfl⟩

/-- What an issued request adds to the dispatches. -/
private theorem Issue.dispatches_append {worker : NodeId} {submission : Submission}
    (issue : Issue engine next effects worker submission) (job : JobId) :
    dispatches (history ++ effects) job =
      dispatches history job + if submission.id = job then 1 else 0 := by
  rw [Effect.dispatches_append, ← Effect.dispatches_entries effects, issue.entries]
  simp [dispatches, Effect.isDispatchOf, List.countP_cons]

/-- No other job in the queue or the ledger has the identity of the oldest one. -/
private theorem Conserved.alone (conserved : engine.Conserved history) {submission : Submission}
    {rest : List Submission} (queue : engine.scheduler.queue = submission :: rest) :
    (∀ other ∈ rest, submission.id ≠ other.id) ∧
      ∀ worker, ∀ request ∈ engine.ledger.requests worker,
        submission.id ≠ request.submission.id := by
  have unique := conserved.distinct
  rw [unsettledJobs, queue, List.map_cons, List.cons_append, List.nodup_cons, List.mem_append,
    not_or] at unique
  obtain ⟨⟨unqueued, unheld⟩, _⟩ := unique
  refine ⟨fun other member same => unqueued ?_, fun worker request inside same => unheld ?_⟩
  · exact List.mem_map.mpr ⟨other, member, same.symm⟩
  · exact List.mem_map.mpr ⟨request, Ledger.mem_held_iff.mpr ⟨worker, inside⟩, same.symm⟩

/-- A dispatch is the one that its job was waiting for. -/
private theorem Counted.issues (counted : engine.Counted policy history)
    (conserved : engine.Conserved history) (alive : engine.isGone = false)
    (ruled : next.scheduler.policy = engine.scheduler.policy) {worker : NodeId}
    {submission : Submission} (issue : Issue engine next effects worker submission) :
    next.Counted policy (history ++ effects) := by
  have listed : submission ∈ engine.scheduler.queue := by
    rw [issue.queue]
    exact List.mem_cons_self
  have rest : ∀ other ∈ next.scheduler.queue, other ∈ engine.scheduler.queue := by
    rw [issue.queue]
    exact fun other => List.mem_cons_of_mem submission
  have unsettled : submission.id ∈ engine.unsettledJobs :=
    List.mem_append_left _ (List.mem_map.mpr ⟨submission, listed, rfl⟩)
  obtain ⟨unqueued, unheld⟩ := conserved.alone issue.queue
  have others : ∀ job, submission.id ≠ job →
      dispatches (history ++ effects) job = dispatches history job := by
    intro job unlike
    rw [issue.dispatches_append, if_neg unlike, Nat.add_zero]
  refine ⟨ruled.trans counted.ruled, ?_, ?_, ?_, ?_, ?_⟩
  · intro job fresh
    rw [issue.jobs] at fresh
    rw [others job fun same => ?_]
    · exact counted.unissued job fresh
    · exact absurd (conserved.known _ unsettled) (Nat.not_lt.mpr (same ▸ fresh))
  · intro other member
    rw [others other.id (unqueued other member)]
    exact counted.pending other (rest other member)
  · intro other request member
    simp only [issue.requests] at member
    have old : ∀ holder, request ∈ engine.ledger.requests holder →
        request.submission.attempt =
          dispatches (history ++ effects) request.submission.id := by
      intro holder inside
      rw [others _ (unheld holder request inside)]
      exact counted.held holder request inside
    by_cases own : other = worker
    · rw [if_pos own] at member
      rcases List.mem_append.mp member with before | new
      · exact old worker before
      · rw [List.mem_singleton.mp new, issue.dispatches_append, if_pos rfl]
        exact counted.pending submission listed
    · rw [if_neg own] at member
      exact old other member
  · intro ticket outcome told
    rcases (Effect.mem_append_entries rfl).mp told with before | new
    · obtain ⟨attempts, known, gone⟩ := counted.answered ticket outcome before
      have unlike : submission.id ≠ outcome.job := by
        intro same
        have waits := (conserved.awaited alive submission.id).mpr unsettled
        rw [← Roster.contains_iff, Roster.contains, same, gone] at waits
        cases waits
      rw [others _ unlike, issue.jobs, issue.waiting]
      exact ⟨attempts, known, gone⟩
    · cases issue.entered new
  · intro limit stated
    obtain ⟨below, queued⟩ := counted.capped limit stated
    refine ⟨fun job => ?_, fun other member => queued other (rest other member)⟩
    by_cases same : submission.id = job
    · rw [issue.dispatches_append, if_pos same, ← same, ← counted.pending submission listed]
      exact queued submission listed
    · rw [others job same]
      exact below job

/-- **Every entry keeps the attempts in agreement with the history.** -/
theorem Counted.booking (counted : engine.Counted policy history)
    (conserved : engine.Conserved history)
    (alive : Effect.entries effects ≠ [] → engine.isGone = false)
    (booking : Booking engine next effects) : next.Counted policy (history ++ effects) := by
  obtain ⟨ruled, _, entry⟩ := booking
  cases entry with
  | idle idle =>
    refine counted.undispatched ruled idle.jobs
      (fun job => Effect.dispatches_eq_zero fun effect member => (idle.entered member).elim)
      (counted.waits idle.queue) (idle.requests ▸ fun _ _ => id) (fun job _ gone => ?_)
      fun ticket outcome member => (idle.entered member).elim
    cases waits : next.subscribers.get? job with
    | none => rfl
    | some ticket => cases (idle.waiting job ticket waits).symm.trans gone
  | admits admission => exact counted.admits ruled admission
  | issues issue =>
    exact counted.issues conserved (alive (List.ne_nil_of_mem issue.touches.present)) ruled issue
  | resolves resolution => exact counted.resolves conserved ruled resolution
  | misses miss =>
    refine counted.undispatched ruled (Nat.le_of_eq (by rw [miss.jobs])) (fun job => ?_)
      (counted.waits miss.queue) (miss.ledger ▸ fun _ _ => id)
      (miss.waiting ▸ fun _ _ gone => gone) fun ticket outcome member => ?_
    · refine Effect.dispatches_eq_zero fun effect member => ?_
      rcases miss.entered member with rfl | rfl
      · rfl
      · rfl
    · obtain ⟨⟨⟩⟩ | ⟨⟨⟩⟩ := miss.entered member
  | departs departure => exact counted.departs conserved ruled departure

end Entries

end Engine

namespace Session

open Effect (dispatches Outstanding GivesBack)

/-- The books and the attempts of the session of a master. -/
structure Tallied (policy : Policy) (history : List Effect) (session : Session) : Prop where
  sound : Sound history session
  counted : session.engine.Counted policy history

theorem Tallied.turn {policy : Policy} {history : List Effect} {session : Session}
    {act : Act Session} (tallied : Tallied policy history session) (turn : Turn session act) :
    Tallied policy (history ++ act.effects) act.value := by
  obtain ⟨sound, counted⟩ := tallied
  obtain ⟨booking, moves⟩ := turn.booking sound.kept.1 sound.booked.master
  exact ⟨sound.turn turn, counted.booking sound.kept.2 (fun some => (moves some).1) booking⟩

/-- **The attempts agree with the history in every state that the run of a master passes
through.** -/
theorem Tallied.of_passes {options : Options} {node : NodeId} {link : Link} {whole : Act Session}
    {history : List Effect} {session : Session}
    (passes : Passes (create options node node link) whole history session) :
    Tallied options.policy history session :=
  have initial : Tallied options.policy [] (create options node node link) :=
    ⟨sound_create options node link, Engine.counted_create options node node link⟩
  passes.reached.keeps Tallied.turn initial

/-- **A job that has used up its attempts was dispatched as often as the limit allows.** -/
theorem Tallied.attempt_of_exhausted {policy : Policy} {history : List Effect} {session : Session}
    (tallied : Tallied policy history session) {worker : NodeId} {submission : Submission}
    (lost : submission ∈ session.engine.scheduler.exhausted (session.engine.heldBy worker)) :
    ∃ request limit, policy.maxAttempts = some limit ∧ submission.attempt = max limit 1 ∧
      Outstanding history worker request submission.id (max limit 1) := by
  obtain ⟨listed, spent⟩ := List.mem_filter.mp lost
  obtain ⟨request, inside, rfl⟩ := List.mem_map.mp listed
  have outstanding := tallied.sound.booked.outstanding inside
  have number := tallied.counted.held worker request inside
  have positive := Effect.dispatches_pos outstanding.issued
  rw [Scheduler.isExhausted, tallied.counted.ruled] at spent
  cases stated : policy.maxAttempts with
  | none =>
    rw [stated] at spent
    cases spent
  | some limit =>
    rw [stated] at spent
    have reached : limit ≤ request.submission.attempt := of_decide_eq_true spent
    have below := (tallied.counted.capped limit stated).1 request.submission.id
    have equal : request.submission.attempt = max limit 1 := by omega
    exact ⟨request.id, limit, rfl, equal, equal ▸ outstanding⟩

section Departures

variable {policy : Policy} {history : List Effect} {session : Session} {next : Engine}
  {effects later : List Effect} {worker : NodeId}
  (departure : Engine.Departure session.engine next effects worker later)

include departure

private theorem givesBack_of_departure : GivesBack later := by
  intro effect member
  rcases departure.told member with ⟨_, _, rfl⟩ | ⟨_, _, _, rfl⟩
  · exact .inl ⟨_, _, rfl⟩
  · exact .inr ⟨_, _, rfl⟩

/-- **When a worker departs with the last dispatch of a job, its submitter is told.** -/
private theorem Tallied.answers_departure (tallied : Tallied policy history session)
    (alive : session.engine.isGone = false) {request : RequestId} {job : JobId} {limit : Nat}
    (stated : policy.maxAttempts = some limit)
    (outstanding : Outstanding history worker request job (max limit 1)) :
    ∃ ticket, .answered ticket (.ok (.abandoned job (max limit 1))) ∈ later := by
  obtain ⟨submission, rfl, number, listed⟩ := (tallied.sound.booked.listed ..).mp outstanding
  have spent : submission ∈
      session.engine.scheduler.exhausted (session.engine.heldBy worker) := by
    refine List.mem_filter.mpr ⟨List.mem_map.mpr ⟨_, listed, rfl⟩, ?_⟩
    rw [Scheduler.isExhausted, tallied.counted.ruled, stated, number]
    exact decide_eq_true (Nat.le_max_left limit 1)
  have reported : submission.id ∈ (session.engine.givenUp worker).map Outcome.job :=
    List.mem_map.mpr ⟨_, List.mem_map.mpr ⟨submission, spent, rfl⟩, rfl⟩
  have waits := (tallied.sound.kept.2.awaited alive submission.id).mpr
    (Engine.mem_unsettledJobs_of_held listed)
  rw [← Roster.contains_iff, Roster.contains, Option.isSome_iff_exists] at waits
  obtain ⟨ticket, waits⟩ := waits
  obtain ⟨outcome, job, told⟩ := (told_all session.engine.subscribers
    (session.engine.givenUp worker)).reached _ reported ticket waits
  -- The outcome is that of a job given up, so it states the limit as well.
  obtain ⟨_, _, member, ⟨⟩⟩ := mem_tellings told
  obtain ⟨other, lost, rfl⟩ := List.mem_map.mp member
  obtain ⟨_, allowed, same, attempt, _⟩ := tallied.attempt_of_exhausted lost
  rw [stated, Option.some.injEq] at same
  subst same
  have same : Engine.abandonment other = .abandoned submission.id (max limit 1) := by
    rw [Engine.abandonment, attempt, show other.id = submission.id from job]
  rw [same] at told
  refine ⟨ticket, (Effect.mem_deeds.mp ?_).1⟩
  rw [departure.deeds]
  exact List.mem_append_right _ told

end Departures

section Runs

variable (options : Options) (node : NodeId) (link : Link) (stimuli : List Stimulus)

/-- **The attempt of a dispatch is its number.** -/
private theorem attempt_of_issued {before after : List Effect} {request : RequestId}
    {worker : NodeId} {job : JobId} {attempt : Nat}
    (split : ((create options node node link).run stimuli).effects =
      before ++ .issued request worker job attempt :: after) :
    attempt = dispatches before job + 1 := by
  obtain ⟨origin⟩ := exists_origin options node link stimuli split rfl
  have tallied := Tallied.of_passes origin.passes
  obtain ⟨submission, issue, entries, named, number⟩ := origin.issue
  have pending := tallied.counted.pending submission (issue.queue ▸ List.mem_cons_self)
  rw [named, number] at pending
  rw [← Effect.dispatches_entries before, entries, Effect.dispatches_entries]
  exact pending

/-- **A job is abandoned when a worker departs with its last dispatch.** -/
private theorem departed_of_abandoned {before after : List Effect} {ticket : Ticket} {job : JobId}
    {attempts : Nat}
    (split : ((create options node node link).run stimuli).effects =
      before ++ .answered ticket (.ok (.abandoned job attempts)) :: after) :
    ∃ limit, options.policy.maxAttempts = some limit ∧
      ∃ earlier worker request told, before = earlier ++ .applied (.departed worker) :: told ∧
        GivesBack told ∧ Outstanding earlier worker request job (max limit 1) := by
  obtain ⟨origin⟩ := exists_origin options node link stimuli split rfl
  have tallied := Tallied.of_passes origin.passes
  rcases origin.entry.answered origin.entered with
    ⟨worker, struck, _, _, result, failed, seconds, _, _, same⟩ |
    ⟨worker, later, departure, submission, lost, same⟩
  · have ran := congrArg Outcome.worker? same
    rw [Engine.worker?_reported] at ran
    cases ran
  · cases same
    obtain ⟨request, limit, stated, _, outstanding⟩ := tallied.attempt_of_exhausted lost
    have own := origin.own
    have begins := origin.begins
    rw [departure.applied] at own
    cases early : origin.early with
    | nil =>
      rw [early] at own
      cases own
    | cons first told =>
      rw [early] at own begins
      obtain ⟨rfl, later_eq⟩ := List.cons.inj own
      have gives := givesBack_of_departure departure
      rw [later_eq] at gives
      exact ⟨limit, stated, origin.history, worker, request, told, begins, gives.of_append,
        outstanding⟩

/-- **When a worker departs with the last dispatch of a job, the job is abandoned.** -/
private theorem abandoned_of_departed {earlier after : List Effect} {worker : NodeId}
    {request : RequestId} {job : JobId} {limit : Nat}
    (split : ((create options node node link).run stimuli).effects =
      earlier ++ .applied (.departed worker) :: after)
    (stated : options.policy.maxAttempts = some limit)
    (outstanding : Outstanding earlier worker request job (max limit 1)) :
    ∃ told ticket later,
      after = told ++ .answered ticket (.ok (.abandoned job (max limit 1))) :: later ∧
      GivesBack told := by
  obtain ⟨origin⟩ := exists_origin options node link stimuli split rfl
  have tallied := Tallied.of_passes origin.passes
  obtain ⟨later, departure⟩ := origin.entry.applied origin.entered
  -- The turn begins with the departure, so its history is all that came before.
  obtain ⟨first, rfl⟩ := departure.first origin.own
  rw [← origin.history_eq first] at outstanding
  obtain ⟨ticket, told⟩ := tallied.answers_departure departure origin.alive stated outstanding
  obtain ⟨between, more, around⟩ := List.append_of_mem told
  have gives := givesBack_of_departure departure
  rw [around] at gives
  obtain ⟨rest, whole⟩ := origin.ends
  refine ⟨between, ticket, more ++ rest, ?_, gives.of_append⟩
  rw [← whole, around, List.append_assoc, List.cons_append]

/-- **Attempts are dispatches.** Whatever is submitted, delivered and announced to a master: in
every state that its run passes through, a pending job has one attempt more than it was dispatched,
refused messages included, and an outstanding job as many; the outcome of a job states how often it
was dispatched in all. With a limit no job is dispatched more often than this, or than once, and a
job is abandoned exactly when a worker departs while the last of these dispatches is outstanding on
it; without a limit no job is abandoned. -/
theorem attempts_counted :
    let start := create options node node link
    let act := start.run stimuli
    (∀ history session, Passes start act history session →
      (∀ submission ∈ session.engine.scheduler.queue,
        submission.attempt = dispatches history submission.id + 1) ∧
      ∀ worker, ∀ request ∈ session.engine.ledger.requests worker,
        request.submission.attempt = dispatches history request.submission.id) ∧
    (∀ before request worker job attempt after,
      act.effects = before ++ .issued request worker job attempt :: after →
      attempt = dispatches before job + 1) ∧
    (∀ ticket outcome, .answered ticket (.ok outcome) ∈ act.effects →
      outcome.attempts = dispatches act.effects outcome.job) ∧
    (options.policy.maxAttempts = none →
      ∀ ticket job attempts, .answered ticket (.ok (.abandoned job attempts)) ∉ act.effects) ∧
    ∀ limit, options.policy.maxAttempts = some limit →
      (∀ job, dispatches act.effects job ≤ max limit 1) ∧
      (∀ before ticket job attempts after,
        act.effects = before ++ .answered ticket (.ok (.abandoned job attempts)) :: after →
        ∃ earlier worker request told, before = earlier ++ .applied (.departed worker) :: told ∧
          GivesBack told ∧ Outstanding earlier worker request job (max limit 1)) ∧
      ∀ earlier worker request job after,
        act.effects = earlier ++ .applied (.departed worker) :: after →
        Outstanding earlier worker request job (max limit 1) →
        ∃ told ticket later,
          after = told ++ .answered ticket (.ok (.abandoned job (max limit 1))) :: later ∧
          GivesBack told := by
  intro start act
  have chain := chain_create options node node link stimuli
  have last := (Tallied.of_passes (Chain.passes_last chain)).counted
  refine ⟨?_, ?_, fun ticket outcome told => (last.answered ticket outcome told).1, ?_, ?_⟩
  · intro history session passes
    have counted := (Tallied.of_passes passes).counted
    exact ⟨counted.pending, counted.held⟩
  · intro before request worker job attempt after split
    exact attempt_of_issued options node link stimuli split
  · intro unlimited ticket job attempts told
    obtain ⟨before, after, split⟩ := List.append_of_mem told
    obtain ⟨limit, stated, _⟩ := departed_of_abandoned options node link stimuli split
    cases unlimited.symm.trans stated
  · intro limit stated
    refine ⟨(last.capped limit stated).1, ?_, ?_⟩
    · intro before ticket job attempts after split
      obtain ⟨_, same, departed⟩ := departed_of_abandoned options node link stimuli split
      rw [stated, Option.some.injEq] at same
      exact same ▸ departed
    · intro earlier worker request job after split outstanding
      exact abandoned_of_departed options node link stimuli split stated outstanding

end Runs

/-- A run with two attempts at most in which one job loses both of its workers and a second job
loses the second of them. -/
def lostTwice : Act Session :=
  (create ({ scheduler := { selector := .roundRobin, maxAttempts := some 2 } } : Settings).options
    1 1 {}).run
    [.submit (.sleep 0) [], .deliver ⟨2, .register⟩, .advance true, .advance true,
      .announce (.departed 2), .submit (.sleep 0) [], .deliver ⟨3, .register⟩, .advance true,
      .advance true, .announce (.departed 3), .advance true]

/-- The first job is abandoned after its second dispatch, and the second one waits for its own
second. -/
theorem attempts_counted_lostTwice :
    (∀ submission ∈ lostTwice.value.engine.scheduler.queue,
      submission.attempt = dispatches lostTwice.effects submission.id + 1) ∧
    2 = dispatches (lostTwice.effects.take 21) 1 + 1 ∧
    dispatches lostTwice.effects 1 = 2 ∧
    ∃ earlier worker request after told ticket later,
      lostTwice.effects = earlier ++ .applied (.departed worker) :: after ∧
      Outstanding earlier worker request 1 2 ∧
      after = told ++ .answered ticket (.ok (.abandoned 1 2)) :: later := by
  have counted := attempts_counted
    ({ scheduler := { selector := .roundRobin, maxAttempts := some 2 } } : Settings).options 1 {}
    [.submit (.sleep 0) [], .deliver ⟨2, .register⟩, .advance true, .advance true,
      .announce (.departed 2), .submit (.sleep 0) [], .deliver ⟨3, .register⟩, .advance true,
      .advance true, .announce (.departed 3), .advance true]
  obtain ⟨_, abandoned, departed⟩ := counted.2.2.2.2 2 rfl
  have told : .answered 0 (.ok (.abandoned 1 2)) ∈ lostTwice.effects :=
    List.mem_of_getElem? (i := 29) rfl
  refine ⟨?_, ?_, ?_, ?_⟩
  · exact (counted.1 _ _ (Chain.passes_last (chain_create ..))).1
  · exact counted.2.1 _ 3 3 1 2 _ (split_of_getElem? (rfl : lostTwice.effects[21]? = _))
  · exact (counted.2.2.1 0 (.abandoned 1 2) told).symm
  · obtain ⟨front, later, split⟩ := List.append_of_mem told
    obtain ⟨earlier, worker, request, given, rfl, _, outstanding⟩ :=
      abandoned front 0 1 2 later split
    have whole := split.trans (List.append_assoc ..)
    obtain ⟨between, ticket, rest, same, _⟩ :=
      departed earlier worker request 1 _ whole outstanding
    exact ⟨earlier, worker, request, _, between, ticket, rest, whole, outstanding, same⟩

end Session

end JobPool
