/-
**What the operations of an engine do.**

Every operation that a pass is made of is described once, by the state that it leaves and by its
deeds. The submitters are followed through `Told`: some jobs are reported, their submitters are
answered and no longer wait, and all others wait as before.

* `submit_cases` — a submission is refused with a reason, or admitted under a fresh identity;
* `accept_cases` — an event is sorted into its queue or takes effect at once;
* `complete_exact`, `complete_cases` — a completion is stale, or strikes its request and reports its
  job;
* `depart_exact`, `depart_cases` — a departure closes an account and gives its jobs back;
* `handle_cases`, `arrive_cases` — messages and joins;
* `dispatch_cases`, `execute_eq` — the two steps that use the link;
* `finish_eq`, `breakDown_eq` — the two ends of a run.
-/

import JobPool.Engine.Run
import JobPool.Proofs.Scheduling

namespace JobPool

namespace Effect

/-- The answers that submitters were given, among some effects. -/
def answers (effects : List Effect) : List (Ticket × Answer) :=
  effects.filterMap fun
    | .answered ticket answer => some (ticket, answer)
    | _ => none

@[simp] theorem answers_append (first second : List Effect) :
    answers (first ++ second) = answers first ++ answers second :=
  List.filterMap_append

theorem answers_deeds (effects : List Effect) : answers (deeds effects) = answers effects :=
  filterMap_deeds _ (fun _ => rfl) effects

theorem mem_answers {effects : List Effect} {ticket : Ticket} {answer : Answer} :
    (ticket, answer) ∈ answers effects ↔ .answered ticket answer ∈ effects := by
  rw [answers, List.mem_filterMap]
  constructor
  · rintro ⟨effect, member, selected⟩
    cases effect with
    | answered told given =>
      cases selected
      exact member
    | log _ | handled _ | resolved _ _ _ | applied _ | admitted _ _ | queued _ _ | issued _ _ _ _
    | sent _ _ _ | ran _ _ | linkClosed | brokeDown _ => cases selected
  · exact fun member => ⟨_, member, rfl⟩

end Effect

/-! ### Telling submitters -/

/-- **Some jobs are reported.** The submitters of these jobs are answered with an outcome of their
own job and wait no longer; the others wait as before. -/
structure Told (first second : Roster JobId Ticket) (jobs : List JobId) (told : List Effect) :
    Prop where
  kept : ∀ job, second.get? job = if job ∈ jobs then none else first.get? job
  answered : ∀ effect ∈ told, ∃ ticket outcome, effect = .answered ticket (.ok outcome) ∧
    first.get? outcome.job = some ticket
  reached : ∀ job ∈ jobs, ∀ ticket, first.get? job = some ticket →
    ∃ outcome, outcome.job = job ∧ .answered ticket (.ok outcome) ∈ told
  tickets : ((Effect.answers told).map Prod.fst ++ second.values).Perm first.values

theorem Told.none (subscribers : Roster JobId Ticket) : Told subscribers subscribers [] [] :=
  ⟨fun _ => rfl, nofun, nofun, .refl _⟩

theorem Told.trans {first second third : Roster JobId Ticket} {jobs more : List JobId}
    {told later : List Effect} (left : Told first second jobs told)
    (right : Told second third more later) :
    Told first third (jobs ++ more) (told ++ later) := by
  refine ⟨?_, ?_, ?_, ?_⟩
  · intro job
    rw [right.kept, left.kept]
    by_cases reported : job ∈ jobs
    · simp [reported]
    · simp [reported]
  · intro effect member
    rcases List.mem_append.mp member with early | late
    · exact left.answered effect early
    · obtain ⟨ticket, outcome, same, waits⟩ := right.answered effect late
      refine ⟨ticket, outcome, same, ?_⟩
      rw [left.kept] at waits
      split at waits
      · cases waits
      · exact waits
  · intro job member ticket waits
    by_cases reported : job ∈ jobs
    · obtain ⟨outcome, own, sent⟩ := left.reached job reported ticket waits
      exact ⟨outcome, own, List.mem_append_left later sent⟩
    · have still : second.get? job = some ticket := by rw [left.kept, if_neg reported, waits]
      have late := (List.mem_append.mp member).resolve_left reported
      obtain ⟨outcome, own, sent⟩ := right.reached job late ticket still
      exact ⟨outcome, own, List.mem_append_right told sent⟩
  · rw [Effect.answers_append, List.map_append, List.append_assoc]
    exact (right.tickets.append_left _).trans left.tickets

/-- The jobs that submitters wait for. -/
theorem Told.mem_keys {first second : Roster JobId Ticket} {jobs : List JobId}
    {told : List Effect} (reported : Told first second jobs told) (job : JobId) :
    job ∈ second.keys ↔ job ∈ first.keys ∧ job ∉ jobs := by
  rw [← Roster.contains_iff, ← Roster.contains_iff, Roster.contains, Roster.contains,
    reported.kept]
  split <;> simp [*]

/-- The answer to the submitter of a job, if one waits. -/
def answersTo (subscribers : Roster JobId Ticket) (outcome : Outcome) : List Effect :=
  (subscribers.get? outcome.job).toList.map fun ticket => .answered ticket (.ok outcome)

/-- The submitters that still wait once some outcomes have been reported. -/
def without (subscribers : Roster JobId Ticket) (outcomes : List Outcome) : Roster JobId Ticket :=
  outcomes.foldl (fun waiting outcome => waiting.erase outcome.job) subscribers

/-- The answers with which some outcomes are reported, one after the other. -/
def tellings (subscribers : Roster JobId Ticket) : List Outcome → List Effect
  | [] => []
  | outcome :: rest =>
    answersTo subscribers outcome ++ tellings (subscribers.erase outcome.job) rest

theorem told_one (subscribers : Roster JobId Ticket) (outcome : Outcome) :
    Told subscribers (subscribers.erase outcome.job) [outcome.job]
      (answersTo subscribers outcome) := by
  unfold answersTo
  cases waiting : subscribers.get? outcome.job with
  | none =>
    rw [Roster.erase_of_absent waiting]
    refine ⟨?_, nofun, ?_, .refl _⟩
    · intro job
      by_cases same : job = outcome.job
      · simp [same, waiting]
      · simp [same]
    · intro job member ticket waits
      rw [List.mem_singleton.mp member, waiting] at waits
      cases waits
  | some ticket =>
    refine ⟨?_, ?_, ?_, ?_⟩
    · intro job
      rw [Roster.get?_erase]
      simp
    · intro effect member
      rw [List.mem_singleton.mp member]
      exact ⟨ticket, outcome, rfl, waiting⟩
    · intro job member told waits
      rw [List.mem_singleton.mp member, waiting] at waits
      cases waits
      exact ⟨outcome, (List.mem_singleton.mp member).symm, List.mem_singleton_self _⟩
    · exact (Roster.values_perm_erase waiting).symm

/-- Reporting one outcome after the other settles exactly their jobs. -/
theorem told_all (subscribers : Roster JobId Ticket) (outcomes : List Outcome) :
    Told subscribers (without subscribers outcomes) (outcomes.map Outcome.job)
      (tellings subscribers outcomes) := by
  induction outcomes generalizing subscribers with
  | nil => exact .none subscribers
  | cons outcome rest hypothesis =>
    exact (told_one subscribers outcome).trans (hypothesis (subscribers.erase outcome.job))

/-- A telling is an answer with one of the outcomes. -/
theorem mem_tellings {subscribers : Roster JobId Ticket} {outcomes : List Outcome}
    {effect : Effect} (member : effect ∈ tellings subscribers outcomes) :
    ∃ ticket, ∃ outcome ∈ outcomes, effect = .answered ticket (.ok outcome) := by
  induction outcomes generalizing subscribers with
  | nil => cases member
  | cons outcome rest hypothesis =>
    rcases List.mem_append.mp member with own | later
    · obtain ⟨ticket, _, rfl⟩ := List.mem_map.mp own
      exact ⟨ticket, outcome, List.mem_cons_self, rfl⟩
    · obtain ⟨ticket, other, listed, told⟩ := hypothesis later
      exact ⟨ticket, other, List.mem_cons_of_mem outcome listed, told⟩

namespace Engine

/-- **Notifying erases the submitter of the job and answers it.** -/
theorem notify_exact (engine : Engine) (job : JobId) (outcome : Outcome)
    (own : outcome.job = job) :
    (engine.notify job outcome).value =
        { engine with subscribers := engine.subscribers.erase job } ∧
      Effect.deeds (engine.notify job outcome).effects =
        answersTo engine.subscribers outcome := by
  unfold notify answersTo
  rw [own]
  split
  next absent => exact ⟨by rw [Roster.erase_of_absent absent]; rfl, by rw [absent]; rfl⟩
  next ticket waiting =>
    simp only [Traced.value_bind, Traced.effects_bind, Effect.deeds_append, waiting]
    constructor
    · split <;> rfl
    · split <;> rfl

/-- The outcome of a job that has used up its attempts. -/
def abandonment (submission : Submission) : Outcome :=
  .abandoned submission.id submission.attempt

/-- Reporting abandoned jobs tells their submitters, one after the other. -/
private theorem notify_all (engine : Engine) (submissions : List Submission) :
    let notified := submissions.foldlM (fun (engine : Engine) submission =>
      engine.notify submission.id (abandonment submission)) engine
    notified.value = { engine with
        subscribers := without engine.subscribers (submissions.map abandonment) } ∧
      Effect.deeds notified.effects =
        tellings engine.subscribers (submissions.map abandonment) := by
  induction submissions generalizing engine with
  | nil => exact ⟨rfl, rfl⟩
  | cons submission rest hypothesis =>
    obtain ⟨notified, deeds⟩ :=
      engine.notify_exact submission.id (abandonment submission) rfl
    obtain ⟨value, more⟩ :=
      hypothesis { engine with subscribers := engine.subscribers.erase submission.id }
    simp only [List.foldlM_cons, Traced.value_bind, Traced.effects_bind, Effect.deeds_append]
    constructor
    · rw [notified, value]
      rfl
    · rw [deeds, notified, more]
      rfl

/-! ### Submissions -/

/-- The faults with which a submission is refused. -/
def isRefusal : Fault → Bool
  | .submissionsEnded | .idsExhausted .job | .submittedToWorker _ => true
  | _ => false

/-- **A submission is refused with a reason, or admitted under a fresh identity.** -/
theorem submit_cases (engine : Engine) (ticket : Ticket) (job : Job) (input : Bytes) :
    (∃ fault source, isRefusal fault = true ∧ engine.jobIds.next ≤ source.next ∧
      (engine.submit ticket job input).value = { engine with jobIds := source } ∧
      Effect.deeds (engine.submit ticket job input).effects = [.answered ticket (.error fault)]) ∨
    ∃ id source, engine.acceptsSubmissions = true ∧ engine.scheduler.isMaster = true ∧
      engine.jobIds.take = some (id, source) ∧
      (engine.submit ticket job input).value =
        { engine with
          jobIds := source
          scheduler := { engine.scheduler with
            queue := engine.scheduler.queue ++ [{ id := id, job := job, input := input }] }
          subscribers := engine.subscribers.insert id ticket } ∧
      Effect.deeds (engine.submit ticket job input).effects =
        [.queued id 1, .admitted ticket id] := by
  unfold submit
  split
  · exact .inl ⟨_, engine.jobIds, rfl, Nat.le_refl _, rfl, rfl⟩
  next accepting =>
    split
    · exact .inl ⟨_, engine.jobIds, rfl, Nat.le_refl _, rfl, rfl⟩
    next id source taken =>
      have advanced := (IdSource.take_next taken).2
      simp only [Traced.value_bind, Traced.effects_bind, Effect.deeds_append]
      rcases engine.scheduler.submit_cases { id := id, job := job, input := input } with
        ⟨master, accepted, told⟩ | ⟨worker, refused, told⟩
      · rw [accepted, told]
        exact .inr ⟨id, source, by simpa using accepting, master, taken, rfl, rfl⟩
      · rw [refused, told]
        exact .inl ⟨_, source, rfl, by omega, rfl, rfl⟩

/-! ### Events -/

/-- The ticket of a submission. -/
def ticket? : Event → Option Ticket
  | .submit ticket .. => some ticket
  | .message _ | .membership _ | .endSubmissions | .shutdown => none

/-- **An event goes to the end of the mailbox.** An engine that is gone drops it and dismisses its
submitter, if it has one. -/
theorem post_cases (engine : Engine) (event : Event) :
    (engine.isGone = false ∧
      engine.post event = pure { engine with mailbox := engine.mailbox ++ [event] }) ∨
    (engine.isGone = true ∧ (engine.post event).value = engine ∧
      Effect.deeds (engine.post event).effects = (ticket? event).toList.map fun ticket =>
        .answered ticket (.error .engineStopped)) := by
  unfold post
  cases gone : engine.isGone with
  | false => exact .inl ⟨rfl, rfl⟩
  | true => cases event <;> exact .inr ⟨rfl, rfl, rfl⟩

/-- The reason to stop that an event gives to the engine of a node. -/
def stopCause? (node : NodeId) : Event → Option StopReason
  | .membership (.departed other) => if other = node then some .declaredDead else none
  | .membership .poolTerminated => some .poolTerminated
  | .shutdown => some .shutdownRequested
  | .message _ | .membership (.joined _) | .submit .. | .endSubmissions => none

/-- **An event is sorted into its queue, gives a reason to stop, or takes effect at once.** -/
theorem accept_cases (engine : Engine) (event : Event) :
    (∃ ticket job input, event = .submit ticket job input ∧
      engine.accept event = engine.submit ticket job input) ∨
    Effect.deeds (engine.accept event).effects = [] ∧
      ((∃ message, event = .message message ∧
        (engine.accept event).value = { engine with inbound := engine.inbound ++ [message] }) ∨
      (∃ node, event = .membership (.joined node) ∧
        (engine.accept event).value = { engine with joined := engine.joined ++ [node] }) ∨
      (∃ node, event = .membership (.departed node) ∧ node ≠ engine.node ∧
        (engine.accept event).value = { engine with departed := engine.departed ++ [node] }) ∨
      (∃ reason, stopCause? engine.node event = some reason ∧
        (engine.accept event).value = engine.requestStop reason) ∨
      (event = .endSubmissions ∧
        (engine.accept event).value = { engine with acceptsSubmissions := false })) := by
  cases event with
  | message message => exact .inr ⟨rfl, .inl ⟨message, rfl, rfl⟩⟩
  | membership change =>
    cases change with
    | joined node => exact .inr ⟨rfl, .inr (.inl ⟨node, rfl, rfl⟩)⟩
    | departed node =>
      by_cases own : node = engine.node
      · refine .inr ⟨?_, .inr (.inr (.inr (.inl ⟨.declaredDead, if_pos own, ?_⟩)))⟩
        all_goals
          rw [accept, if_pos own]
          rfl
      · refine .inr ⟨?_, .inr (.inr (.inl ⟨node, rfl, own, ?_⟩))⟩
        all_goals
          rw [accept, if_neg own]
          rfl
    | poolTerminated => exact .inr ⟨rfl, .inr (.inr (.inr (.inl ⟨.poolTerminated, rfl, rfl⟩)))⟩
  | submit ticket job input => exact .inl ⟨ticket, job, input, rfl, rfl⟩
  | endSubmissions => exact .inr ⟨rfl, .inr (.inr (.inr (.inr ⟨rfl, rfl⟩)))⟩
  | shutdown => exact .inr ⟨rfl, .inr (.inr (.inr (.inl ⟨.shutdownRequested, rfl, rfl⟩)))⟩

/-! ### Completions -/

/-- The outcome of a job that a worker has run to its end. -/
def reported (worker : NodeId) (submission : Submission) (result : Bytes) (failed : Bool)
    (seconds : Float) : Outcome :=
  let duration := (Duration.ofSeconds? seconds).getD {}
  if failed then .failed submission.id worker duration submission.attempt
  else .succeeded submission.id worker result duration submission.attempt

theorem job_reported (worker : NodeId) (submission : Submission) (result : Bytes) (failed : Bool)
    (seconds : Float) :
    (reported worker submission result failed seconds).job = submission.id := by
  unfold reported
  split <;> rfl

section Reported

variable (worker : NodeId) (submission : Submission) (result : Bytes) (failed : Bool)
  (seconds : Float)

@[simp] theorem worker?_reported :
    (reported worker submission result failed seconds).worker? = some worker := by
  cases failed <;> rfl

@[simp] theorem attempts_reported :
    (reported worker submission result failed seconds).attempts = submission.attempt := by
  cases failed <;> rfl

/-- A run succeeded unless its worker says that it failed. -/
@[simp] theorem isSuccess_reported :
    (reported worker submission result failed seconds).isSuccess = !failed := by
  cases failed <;> rfl

/-- A run that succeeded has the result that its worker reports. -/
@[simp] theorem result?_reported :
    (reported worker submission result failed seconds).result? =
      if failed then none else some result := by
  cases failed <;> rfl

end Reported

/-- **A completion is stale and at most learned from, or it strikes its request and answers the
submitter of its job.** -/
theorem complete_exact (engine : Engine) (worker : NodeId) (request : RequestId) (result : Bytes)
    (failed : Bool) (seconds : Float) :
    (∃ records, request ∉ (engine.ledger.requests worker).map Request.id ∧
      (engine.complete worker request result failed seconds).value =
        { engine with scheduler := { engine.scheduler with records := records } } ∧
      Effect.deeds (engine.complete worker request result failed seconds).effects =
        [.resolved worker request false]) ∨
    ∃ before struck later records,
      engine.ledger.accounts.get? worker = some (.active (before ++ struck :: later)) ∧
      struck.id = request ∧
      (engine.complete worker request result failed seconds).value =
        { engine with
          ledger := { engine.ledger with
            accounts := engine.ledger.accounts.insert worker (.active (before ++ later))
            outstanding := engine.ledger.outstanding - 1 }
          scheduler := { engine.scheduler with records := records }
          subscribers := engine.subscribers.erase struck.submission.id } ∧
      Effect.deeds (engine.complete worker request result failed seconds).effects =
        .resolved worker request true :: answersTo engine.subscribers
          (reported worker struck.submission result failed seconds) := by
  unfold complete
  obtain ⟨silent, ⟨refused, missing⟩ | ⟨before, struck, later, active, named, resolved⟩⟩ :=
    engine.ledger.resolve_cases worker request failed
  · obtain ⟨quiet, records, learned⟩ := engine.scheduler.complete_eq worker seconds failed
    left
    simp only [Traced.value_bind, Traced.effects_bind, Effect.deeds_append, refused, silent]
    cases engine.ledger.isDeparted worker with
    | true =>
      refine ⟨records, missing, ?_, ?_⟩
      · simp [learned]
      · simp [quiet]
    | false => exact ⟨engine.scheduler.records, missing, rfl, rfl⟩
  · obtain ⟨quiet, records, learned⟩ := engine.scheduler.complete_eq worker seconds failed
    right
    simp only [Traced.value_bind, Traced.effects_bind, Effect.deeds_append, resolved, silent]
    obtain ⟨notified, deeds⟩ := notify_exact
      { engine with
        ledger := { engine.ledger with
          accounts := engine.ledger.accounts.insert worker (.active (before ++ later))
          outstanding := engine.ledger.outstanding - 1 }
        scheduler := { engine.scheduler with records := records } }
      struck.submission.id (reported worker struck.submission result failed seconds)
      (job_reported ..)
    refine ⟨before, struck, later, records, active, named, ?_, ?_⟩
    · simp only [learned]
      exact notified
    · simp only [learned, quiet]
      exact congrArg (Effect.resolved worker request true :: ·) deeds

/-- **A completion is stale and at most learned from, or it strikes its request and reports its
job.** -/
theorem complete_cases (engine : Engine) (worker : NodeId) (request : RequestId) (result : Bytes)
    (failed : Bool) (seconds : Float) :
    (∃ records, request ∉ (engine.ledger.requests worker).map Request.id ∧
      (engine.complete worker request result failed seconds).value =
        { engine with scheduler := { engine.scheduler with records := records } } ∧
      Effect.deeds (engine.complete worker request result failed seconds).effects =
        [.resolved worker request false]) ∨
    ∃ before struck later records subscribers told,
      engine.ledger.accounts.get? worker = some (.active (before ++ struck :: later)) ∧
      struck.id = request ∧
      Told engine.subscribers subscribers [struck.submission.id] told ∧
      (engine.complete worker request result failed seconds).value =
        { engine with
          ledger := { engine.ledger with
            accounts := engine.ledger.accounts.insert worker (.active (before ++ later))
            outstanding := engine.ledger.outstanding - 1 }
          scheduler := { engine.scheduler with records := records }
          subscribers := subscribers } ∧
      Effect.deeds (engine.complete worker request result failed seconds).effects =
        .resolved worker request true :: told := by
  refine (engine.complete_exact worker request result failed seconds).imp_right ?_
  rintro ⟨before, struck, later, records, active, named, value, deeds⟩
  have told := told_one engine.subscribers
    (reported worker struck.submission result failed seconds)
  rw [job_reported] at told
  exact ⟨before, struck, later, records, _, _, active, named, told, value, deeds⟩

/-! ### Messages -/

/-- **A request waits for its run, a completion and a registration take effect on the master, and a
message for the other role has no effect.** -/
theorem handle_cases (engine : Engine) (message : Message) :
    let counted := { engine with messages := engine.messages + 1 }
    (∃ request job input, message.payload = .execute request job input ∧
      engine.scheduler.isMaster = false ∧
      (engine.handle message).value =
        { counted with work := engine.work ++ [⟨message.source, request, job, input⟩] } ∧
      Effect.deeds (engine.handle message).effects = [.handled message]) ∨
    (∃ request result failed seconds, message.payload = .completed request result failed seconds ∧
      engine.scheduler.isMaster = true ∧
      (engine.handle message).value =
        (counted.complete message.source request result failed seconds).value ∧
      Effect.deeds (engine.handle message).effects = .handled message ::
        Effect.deeds (counted.complete message.source request result failed seconds).effects) ∨
    (message.payload = .register ∧ engine.scheduler.isMaster = true ∧
      (engine.handle message).value =
        { counted with
          ledger := (engine.ledger.register message.source).value
          scheduler := (engine.scheduler.join message.source).value } ∧
      Effect.deeds (engine.handle message).effects = [.handled message]) ∨
    ((∀ request result failed seconds, message.payload = .completed request result failed seconds →
        engine.scheduler.isMaster = false) ∧
      (∀ request job input, message.payload = .execute request job input →
        engine.scheduler.isMaster = true) ∧
      (engine.handle message).value = counted ∧
      Effect.deeds (engine.handle message).effects = [.handled message]) := by
  obtain ⟨source, payload⟩ := message
  cases payload with
  | execute request job input =>
    cases part : engine.scheduler.isMaster with
    | true =>
      refine .inr (.inr (.inr ⟨nofun, fun _ _ _ _ => rfl, ?_, ?_⟩))
      all_goals
        unfold handle
        simp only [part]
        rfl
    | false =>
      refine .inl ⟨request, job, input, rfl, rfl, ?_, ?_⟩
      all_goals
        unfold handle
        simp only [part]
        rfl
  | completed request result failed seconds =>
    cases part : engine.scheduler.isMaster with
    | true =>
      refine .inr (.inl ⟨request, result, failed, seconds, rfl, rfl, ?_, ?_⟩)
      all_goals
        unfold handle
        simp only [part]
        rfl
    | false =>
      refine .inr (.inr (.inr ⟨fun _ _ _ _ _ => rfl, nofun, ?_, ?_⟩))
      all_goals
        unfold handle
        simp only [part]
        rfl
  | register =>
    cases part : engine.scheduler.isMaster with
    | true =>
      refine .inr (.inr (.inl ⟨rfl, rfl, ?_, ?_⟩))
      · unfold handle
        simp only [part]
        rfl
      · unfold handle
        simp only [part, Traced.effects_bind, Effect.deeds_append,
          (engine.ledger.register_cases source).1, (engine.scheduler.join_cases source).1]
        rfl
    | false =>
      refine .inr (.inr (.inr ⟨nofun, nofun, ?_, ?_⟩))
      all_goals
        unfold handle
        simp only [part]
        rfl

/-! ### Membership -/

/-- **A departure on the master closes the account of the node, takes its jobs back and answers the
submitters of the abandoned ones.** On a worker it is only noted. -/
theorem depart_exact (engine : Engine) (node : NodeId) :
    let taken := (engine.ledger.requests node).map Request.submission
    let lost := (engine.scheduler.abandoned ++ engine.scheduler.exhausted taken).map abandonment
    (engine.scheduler.isMaster = true ∧ ∃ departed records,
      (engine.depart node).value =
        { engine with
          activePeers := engine.activePeers - 1
          ledger := engine.ledger.close node
          scheduler := { engine.scheduler.returning taken with
            departed := departed, records := records, abandoned := [] }
          subscribers := without engine.subscribers lost } ∧
      Effect.deeds (engine.depart node).effects = .applied (.departed node) ::
        ((engine.scheduler.retried taken).map fun submission =>
          Effect.queued submission.id submission.attempt) ++ tellings engine.subscribers lost) ∨
    (engine.scheduler.isMaster = false ∧ ∃ role subscribers told,
      Told engine.subscribers subscribers (engine.scheduler.abandoned.map Submission.id) told ∧
      role ≠ .master ∧
      (engine.depart node).value =
        { engine with
          activePeers := engine.activePeers - 1
          scheduler := { engine.scheduler with role := role, abandoned := [] }
          subscribers := subscribers } ∧
      Effect.deeds (engine.depart node).effects = .applied (.departed node) :: told) := by
  intro taken lost
  unfold depart
  simp only [Traced.value_bind, Traced.effects_bind, Effect.deeds_append]
  cases part : engine.scheduler.isMaster with
  | true =>
    obtain ⟨value, deeds⟩ := Scheduler.reclaim_eq engine.ledger node part
    obtain ⟨silent, left⟩ := (engine.scheduler.returning taken).leave_cases node
    have stays := (engine.scheduler.returning taken).isMaster_leave node
    rcases left with ⟨departed, records, master, _, left⟩ | ⟨leader, gone, worker, _⟩
    · obtain ⟨notified, answered⟩ := notify_all
        { engine with
          activePeers := engine.activePeers - 1
          ledger := engine.ledger.close node
          scheduler := { engine.scheduler.returning taken with
            departed := departed, records := records, abandoned := [] } }
        (engine.scheduler.abandoned ++ engine.scheduler.exhausted taken)
      refine .inl ⟨rfl, departed, records, ?_, ?_⟩
      · simp only [Bool.not_true, Bool.false_eq_true, if_false, Traced.value_bind, value,
          Traced.value_pure]
        rw [left]
        exact notified
      · simp only [Bool.not_true, Bool.false_eq_true, if_false, Traced.value_bind, value,
          Traced.value_pure, Traced.effects_bind, Effect.deeds_append, deeds]
        rw [left, silent]
        simp only [Traced.effects_pure, Effect.deeds_nil, List.append_nil, List.nil_append]
        exact congrArg (Effect.applied (.departed node) :: _ ++ ·) answered
    · have role : engine.scheduler.role = .worker leader gone := worker
      rw [Scheduler.isMaster, role] at part
      cases part
  | false =>
    obtain ⟨silent, left⟩ := engine.scheduler.leave_cases node
    rcases left with ⟨_, _, master, _, _⟩ | ⟨leader, gone, worker, left⟩
    · rw [Scheduler.isMaster, master] at part
      cases part
    · obtain ⟨notified, answered⟩ := notify_all
        { engine with
          activePeers := engine.activePeers - 1
          scheduler := { engine.scheduler with
            role := .worker leader (gone || decide (node = leader)), abandoned := [] } }
        engine.scheduler.abandoned
      have told := told_all engine.subscribers (engine.scheduler.abandoned.map abandonment)
      rw [List.map_map] at told
      refine .inr ⟨rfl, .worker leader (gone || decide (node = leader)), _, _, told,
        (fun same => by cases same), ?_, ?_⟩
      · simp only [Bool.not_false, if_true, Traced.value_pure]
        rw [left]
        exact notified
      · simp only [Bool.not_false, if_true, Traced.value_pure, Traced.effects_pure,
          Effect.deeds_nil, List.nil_append]
        rw [left, silent]
        exact congrArg (Effect.applied (.departed node) :: ·) answered

/-- **A departure on the master closes the account of the node, takes its jobs back and reports the
abandoned ones.** On a worker it is only noted. -/
theorem depart_cases (engine : Engine) (node : NodeId) :
    let taken := (engine.ledger.requests node).map Request.submission
    (engine.scheduler.isMaster = true ∧ ∃ departed records subscribers told,
      Told engine.subscribers subscribers
        ((engine.scheduler.abandoned ++ engine.scheduler.exhausted taken).map Submission.id) told ∧
      (engine.depart node).value =
        { engine with
          activePeers := engine.activePeers - 1
          ledger := engine.ledger.close node
          scheduler := { engine.scheduler.returning taken with
            departed := departed, records := records, abandoned := [] }
          subscribers := subscribers } ∧
      Effect.deeds (engine.depart node).effects = .applied (.departed node) ::
        ((engine.scheduler.retried taken).map fun submission =>
          Effect.queued submission.id submission.attempt) ++ told) ∨
    (engine.scheduler.isMaster = false ∧ ∃ role subscribers told,
      Told engine.subscribers subscribers (engine.scheduler.abandoned.map Submission.id) told ∧
      role ≠ .master ∧
      (engine.depart node).value =
        { engine with
          activePeers := engine.activePeers - 1
          scheduler := { engine.scheduler with role := role, abandoned := [] }
          subscribers := subscribers } ∧
      Effect.deeds (engine.depart node).effects = .applied (.departed node) :: told) := by
  intro taken
  refine (engine.depart_exact node).imp_left ?_
  rintro ⟨master, departed, records, value, deeds⟩
  have told := told_all engine.subscribers
    ((engine.scheduler.abandoned ++ engine.scheduler.exhausted taken).map abandonment)
  rw [List.map_map] at told
  exact ⟨master, departed, records, _, _, told, value, deeds⟩

/-- **A join gives the node a record, except for the joining engine itself.** -/
theorem arrive_cases (engine : Engine) (node : NodeId) :
    (node = engine.node ∧ (engine.arrive node).value = engine ∧
      Effect.deeds (engine.arrive node).effects = []) ∨
    (node ≠ engine.node ∧ (engine.arrive node).value =
        { engine with
          activePeers := engine.activePeers + 1
          scheduler := (engine.scheduler.join node).value } ∧
      Effect.deeds (engine.arrive node).effects = [.applied (.joined node)]) := by
  unfold arrive
  split
  next own => exact .inl ⟨own, rfl, rfl⟩
  next other =>
    refine .inr ⟨other, rfl, ?_⟩
    simp only [Traced.effects_bind, Effect.deeds_append, (engine.scheduler.join_cases node).1]
    rfl

/-! ### Using the link -/

/-- **A dispatch moves the first job of the queue to an active account and sends it there**, if the
engine still has its link. -/
theorem dispatch_cases (engine : Engine) :
    (∃ rule records, engine.dispatch.value.1 =
        { engine with scheduler := { engine.scheduler with rule := rule, records := records } } ∧
      Effect.deeds engine.dispatch.effects = []) ∨
    ∃ submission rest worker requests id source rule records,
      engine.linked = true ∧ engine.scheduler.isMaster = true ∧
      engine.scheduler.queue = submission :: rest ∧
      engine.ledger.accounts.get? worker = some (.active requests) ∧
      engine.ledger.requestIds.take = some (id, source) ∧
      engine.dispatch.value.1 =
        { engine with
          scheduler := { engine.scheduler with queue := rest, rule := rule, records := records }
          ledger :=
            { accounts :=
                engine.ledger.accounts.insert worker (.active (requests ++ [⟨id, submission⟩]))
              outstanding := engine.ledger.outstanding + 1
              requestIds := source } } ∧
      Effect.deeds engine.dispatch.effects =
        [.issued id worker submission.id submission.attempt,
          .sent worker (.execute id submission.job submission.input)
            engine.link.refusal.isNone] := by
  unfold dispatch
  split
  · exact .inl ⟨_, _, rfl, rfl⟩
  next linked =>
    simp only [Traced.value_bind, Traced.effects_bind, Effect.deeds_append]
    rcases engine.scheduler.maintain_cases engine.ledger engine.link with
      ⟨rule, records, kept, silent⟩ |
      ⟨submission, rest, worker, requests, id, source, rule, records, master, queued, active,
        taken, moved, deeds⟩
    · rw [kept, silent]
      exact .inl ⟨rule, records, rfl, rfl⟩
    · rw [moved, deeds]
      exact .inr ⟨submission, rest, worker, requests, id, source, rule, records,
        by simpa using linked, master, queued, active, taken, rfl, rfl⟩

/-- The completion that answers a request. -/
def replyTo (engine : Engine) (request : WorkRequest) : Payload :=
  let execution := request.job.run engine.node request.input
  .completed request.request execution.ending.reply.1 execution.ending.reply.2
    execution.duration.toSeconds

/-- **A run answers its request**, if the engine still has its link. -/
theorem execute_eq (engine : Engine) (request : WorkRequest) :
    (engine.execute request).value = { engine with executed := engine.executed + 1 } ∧
      Effect.deeds (engine.execute request).effects =
        .ran request.source request.request ::
          if engine.linked then
            [.sent request.source (engine.replyTo request) engine.link.refusal.isNone]
          else [] := by
  have quiet : ∀ ending, Effect.deeds
      (logEnding request.source request.request ending).effects = [] := by
    intro ending
    cases ending <;> rfl
  unfold execute
  simp only [Traced.value_bind, Traced.effects_bind, Effect.deeds_append, quiet]
  cases linked : engine.linked with
  | false => exact ⟨rfl, rfl⟩
  | true =>
    simp only [Bool.not_true, Bool.false_eq_true, if_false, if_true, Traced.value_bind,
      Traced.effects_bind, Effect.deeds_append, Link.deeds_send]
    constructor
    · split <;> rfl
    · split <;> rfl

/-! ### The beginning and the two ends of a run -/

/-- A worker registers with its master, if it still has its link. -/
theorem start_eq (engine : Engine) :
    engine.start.value = { engine with stage := .passing } ∧
      Effect.deeds engine.start.effects =
        match engine.scheduler.role with
        | .master => []
        | .worker master _ =>
          if engine.linked then [.sent master .register engine.link.refusal.isNone] else [] := by
  refine ⟨engine.value_start, ?_⟩
  unfold start
  simp only [Traced.effects_bind, Effect.deeds_append]
  cases engine.scheduler.role with
  | master => rfl
  | worker master gone =>
    cases engine.linked with
    | false => rfl
    | true =>
      simp only [Bool.not_true, Bool.false_eq_true, if_false, if_true, Traced.effects_bind,
        Effect.deeds_append, Link.deeds_send]
      split <;> rfl

/-- Dismissing tells every ticket that the engine has stopped. -/
theorem dismiss_effects (tickets : List Ticket) :
    (dismiss tickets).effects =
      tickets.map fun ticket => .answered ticket (.error .engineStopped) := by
  induction tickets with
  | nil => rfl
  | cons ticket rest hypothesis =>
    rw [List.map_cons, ← hypothesis]
    rfl

/-- Dismissals are deeds. -/
theorem deeds_dismiss (tickets : List Ticket) :
    Effect.deeds (dismiss tickets).effects =
      tickets.map fun ticket => .answered ticket (.error .engineStopped) := by
  rw [dismiss_effects, Effect.deeds, List.filter_eq_self]
  intro effect member
  obtain ⟨ticket, _, rfl⟩ := List.mem_map.mp member
  rfl

/-- The first reason to stop stays. -/
theorem requestStop_of_stopped (engine : Engine) (reason : StopReason)
    (stopped : engine.stopReason.isSome = true) : engine.requestStop reason = engine := by
  obtain ⟨first, stated⟩ := Option.isSome_iff_exists.mp stopped
  have same : engine.stopReason.or (some reason) = engine.stopReason := by
    rw [stated, Option.some_or]
  rw [requestStop, same]

/-- The tickets that nobody has answered yet. -/
def openTickets (engine : Engine) : List Ticket :=
  engine.subscribers.values ++ engine.unacceptedTickets

/-- Closing the link is a deed, and a second time has no effect. -/
theorem unlink_eq (engine : Engine) :
    engine.unlink.value = { engine with linked := false } ∧
      Effect.deeds engine.unlink.effects = if engine.linked then [.linkClosed] else [] := by
  unfold unlink
  cases held : engine.linked with
  | false =>
    obtain ⟨⟩ := engine
    cases held
    exact ⟨rfl, rfl⟩
  | true =>
    simp only [Bool.not_true, Bool.false_eq_true, if_false, if_true, Traced.value_bind,
      Traced.effects_bind, Effect.deeds_append]
    constructor
    · split <;> rfl
    · split <;> rfl

/-- **Shutting down closes the link and dismisses every submitter that still waits.** -/
theorem shutdown_eq (engine : Engine) (running : engine.phase = .running) :
    engine.shutdown.value =
        { engine.requestStop .shutdownRequested with
          phase := .stopped, linked := false, subscribers := .empty } ∧
      Effect.deeds engine.shutdown.effects = (if engine.linked then [.linkClosed] else []) ++
        engine.subscribers.values.map fun ticket => .answered ticket (.error .engineStopped) := by
  have incomplete : ∀ state : Engine, Effect.deeds state.logIncomplete.effects = [] := by
    intro state
    unfold logIncomplete
    split <;> rfl
  have statistics : ∀ state : Engine, Effect.deeds state.logStatistics.effects = [] := fun _ => rfl
  obtain ⟨value, closed⟩ :=
    ({ engine with phase := .draining }.requestStop .shutdownRequested).unlink_eq
  unfold shutdown
  rw [if_neg (by simp [running])]
  simp only [Traced.value_bind, Traced.effects_bind, Effect.deeds_append, value, closed,
    incomplete, statistics, deeds_dismiss, Traced.effects_pure, List.append_nil, List.nil_append]
  exact ⟨rfl, rfl⟩

/-- **A run that ends closes the link and dismisses every open ticket.** -/
theorem finish_eq (engine : Engine) (running : engine.phase = .running) :
    engine.finish.value =
        { engine.requestStop .shutdownRequested with
          phase := .stopped, linked := false, subscribers := .empty, mailbox := []
          stage := .finished } ∧
      Effect.deeds engine.finish.effects = (if engine.linked then [.linkClosed] else []) ++
        engine.openTickets.map fun ticket => .answered ticket (.error .engineStopped) := by
  obtain ⟨value, deeds⟩ := engine.shutdown_eq running
  unfold finish
  simp only [Traced.value_bind, Traced.effects_bind, Effect.deeds_append, value, deeds,
    deeds_dismiss, Traced.effects_pure, List.append_nil, List.append_assoc]
  rw [openTickets, List.map_append]
  exact ⟨rfl, rfl⟩

/-- **An engine that cannot go on dismisses every open ticket.** -/
theorem breakDown_eq (engine : Engine) (cause : Breakdown) (alive : engine.isGone = false) :
    (engine.breakDown cause).value =
        { engine with subscribers := .empty, mailbox := [], stage := .discarded } ∧
      Effect.deeds (engine.breakDown cause).effects = .brokeDown cause ::
        engine.openTickets.map fun ticket => .answered ticket (.error .engineStopped) := by
  unfold breakDown discard
  rw [alive]
  simp only [Traced.value_bind, Traced.effects_bind, Effect.deeds_append, Bool.false_eq_true,
    if_false, deeds_dismiss]
  exact ⟨rfl, by simp [openTickets]⟩

/-! ### The log -/

private theorem deeds_forM {α : Type} (write : α → Act Unit)
    (quiet : ∀ item, Effect.deeds (write item).effects = []) (items : List α) :
    Effect.deeds (items.forM write).effects = [] := by
  induction items with
  | nil => rfl
  | cons item rest hypothesis =>
    change Effect.deeds ((write item).effects ++ (rest.forM write).effects) = []
    rw [Effect.deeds_append, quiet, hypothesis, List.append_nil]

/-- What a wait leaves in the log is no deed. -/
theorem deeds_logWait (engine : Engine) (limit waited : Duration) :
    Effect.deeds (engine.logWait limit waited).effects = [] := by
  have scheduler : Effect.deeds engine.scheduler.report.effects = [] := by
    unfold Scheduler.report
    rw [Traced.effects_bind, Effect.deeds_append, Act.deeds_debug, List.nil_append]
    exact deeds_forM _ (fun _ => rfl) _
  have ledger : Effect.deeds engine.ledger.report.effects = [] := by
    unfold Ledger.report
    rw [Traced.effects_bind, Effect.deeds_append, Act.deeds_debug, List.nil_append]
    exact deeds_forM _ (fun ⟨_, account⟩ => by cases account <;> rfl) _
  unfold logWait
  split
  · unfold logState
    simp only [Traced.effects_bind, Effect.deeds_append, Act.deeds_debug, scheduler, ledger,
      List.append_nil]
  · rfl

end Engine

end JobPool
