/-
**What a move does to the jobs and their submitters.**

A job that was admitted and has no outcome yet is unsettled: it is in the pending queue or among the
requests of the ledger. A move reports some unsettled jobs to their submitters, refuses a
submission, admits one, or ends the run and dismisses everybody who still waits (`Settling`). What a
move does to the queue and the ledger besides only moves unsettled jobs around.

* `Orderly` — an engine in use has its link, no job is left between two owners, and the count of the
  ledger can be trusted;
* `Orderly.move` — every move keeps this and settles jobs in one of the four ways.
-/

import JobPool.Proofs.Engine.Moves

namespace JobPool

namespace Effect

/-- The submissions that were admitted, among some effects. -/
def admissions (effects : List Effect) : List (Ticket × JobId) :=
  effects.filterMap fun
    | .admitted ticket job => some (ticket, job)
    | _ => none

@[simp] theorem admissions_append (first second : List Effect) :
    admissions (first ++ second) = admissions first ++ admissions second :=
  List.filterMap_append

theorem admissions_deeds (effects : List Effect) :
    admissions (deeds effects) = admissions effects :=
  filterMap_deeds _ (fun _ => rfl) effects

theorem mem_admissions {effects : List Effect} {ticket : Ticket} {job : JobId} :
    (ticket, job) ∈ admissions effects ↔ .admitted ticket job ∈ effects := by
  rw [admissions, List.mem_filterMap]
  constructor
  · rintro ⟨effect, member, selected⟩
    cases effect with
    | admitted told given =>
      cases selected
      exact member
    | log _ | handled _ | resolved _ _ _ | applied _ | answered _ _ | queued _ _ | issued _ _ _ _
    | sent _ _ _ | ran _ _ | linkClosed | brokeDown _ => cases selected
  · exact fun member => ⟨_, member, rfl⟩

private theorem answers_queued (submissions : List Submission) :
    answers (submissions.map fun submission => .queued submission.id submission.attempt) = [] := by
  rw [answers, List.filterMap_map]
  exact List.filterMap_eq_nil_iff.mpr fun _ _ => rfl

private theorem admissions_queued (submissions : List Submission) :
    admissions (submissions.map fun submission => .queued submission.id submission.attempt) =
      [] := by
  rw [admissions, List.filterMap_map]
  exact List.filterMap_eq_nil_iff.mpr fun _ _ => rfl

end Effect

/-- Telling submitters admits nothing. -/
theorem Told.admissions {first second : Roster JobId Ticket} {jobs : List JobId}
    {told : List Effect} (reported : Told first second jobs told) :
    Effect.admissions told = [] := by
  refine List.filterMap_eq_nil_iff.mpr fun effect member => ?_
  obtain ⟨ticket, outcome, rfl, _⟩ := reported.answered effect member
  rfl

namespace Engine

/-- The jobs that have been admitted and have no outcome yet. -/
def unsettledJobs (engine : Engine) : List JobId :=
  engine.scheduler.queue.map Submission.id ++
    engine.ledger.held.map fun request => request.submission.id

theorem mem_unsettledJobs_of_held {engine : Engine} {worker : NodeId} {request : Request}
    (outstanding : request ∈ engine.ledger.requests worker) :
    request.submission.id ∈ engine.unsettledJobs := by
  have held : request ∈ engine.ledger.held := Ledger.mem_held_iff.mpr ⟨worker, outstanding⟩
  exact List.mem_append_right _ (List.mem_map.mpr ⟨request, held, rfl⟩)

/-- **What a move does to the jobs and their submitters.** -/
inductive Settling (engine next : Engine) (effects : List Effect) : Prop
  /-- Some jobs, perhaps none, are settled, and their submitters are told. -/
  | reports (jobs : List JobId) (told : List Effect)
      (reported : Told engine.subscribers next.subscribers jobs told)
      (split : engine.unsettledJobs.Perm (jobs ++ next.unsettledJobs))
      (ids : next.jobIds = engine.jobIds)
      (tickets : next.unacceptedTickets = engine.unacceptedTickets)
      (alive : next.isGone = false)
      (answers : Effect.answers effects = Effect.answers told)
      (admissions : Effect.admissions effects = [])
  /-- A submission is refused. -/
  | refuses (ticket : Ticket) (fault : Fault) (refusal : isRefusal fault = true)
      (jobs : next.unsettledJobs = engine.unsettledJobs)
      (ids : engine.jobIds.next ≤ next.jobIds.next)
      (submitters : next.subscribers = engine.subscribers)
      (tickets : engine.unacceptedTickets = ticket :: next.unacceptedTickets)
      (alive : next.isGone = false)
      (answers : Effect.answers effects = [(ticket, .error fault)])
      (admissions : Effect.admissions effects = [])
  /-- A submission is admitted under the next identity. -/
  | admits (ticket : Ticket)
      (jobs : next.unsettledJobs.Perm (engine.jobIds.next :: engine.unsettledJobs))
      (ids : next.jobIds.next = engine.jobIds.next + 1)
      (submitters :
        next.subscribers = engine.subscribers.insert engine.jobIds.next ticket)
      (tickets : engine.unacceptedTickets = ticket :: next.unacceptedTickets)
      (alive : next.isGone = false)
      (answers : Effect.answers effects = [])
      (admissions : Effect.admissions effects = [(ticket, engine.jobIds.next)])
  /-- The run ends and every open ticket is dismissed. -/
  | ends (gone : next.isGone = true) (tickets : next.openTickets = [])
      (jobs : next.unsettledJobs = engine.unsettledJobs)
      (ids : next.jobIds = engine.jobIds)
      (completed : next.stopReason = some .completed → engine.unsettledJobs = [])
      (answers : Effect.answers effects =
        engine.openTickets.map fun ticket => (ticket, .error .engineStopped))
      (admissions : Effect.admissions effects = [])

/-- **An engine in use has its link and has not completed**, no job is left between two owners, and
the ledger is sound. -/
structure Orderly (engine : Engine) : Prop where
  phase : engine.isGone = false → engine.phase = .running
  closed : engine.stage = .finished → engine.phase = .stopped
  linked : engine.isGone = false → engine.linked = true
  ongoing : engine.isGone = false → engine.stopReason ≠ some .completed
  settled : engine.scheduler.abandoned = []
  ledger : engine.ledger.Sound

theorem orderly_create (options : Options) (node master : NodeId) (link : Link) :
    (Engine.create options node master link).Orderly :=
  ⟨fun _ => rfl, nofun, fun _ => rfl, fun _ => nofun, rfl, Ledger.sound_empty⟩

section Moves

variable {engine next : Engine} {effects : List Effect}

/-- At the same point of the run, an engine stays orderly with its ledger and its scheduler. -/
theorem Orderly.same (orderly : engine.Orderly) (stage : next.stage = engine.stage)
    (phase : next.phase = engine.phase) (linked : next.linked = engine.linked)
    (reason : next.stopReason = engine.stopReason) (settled : next.scheduler.abandoned = [])
    (ledger : next.ledger.Sound) : next.Orderly := by
  have gone : next.isGone = engine.isGone := by rw [isGone, isGone, stage]
  refine ⟨?_, ?_, ?_, ?_, settled, ledger⟩
  · intro alive
    rw [phase]
    exact orderly.phase (gone.symm.trans alive)
  · intro finished
    rw [phase]
    exact orderly.closed (stage.symm.trans finished)
  · intro alive
    rw [linked]
    exact orderly.linked (gone.symm.trans alive)
  · intro alive
    rw [reason]
    exact orderly.ongoing (gone.symm.trans alive)

/-- What is settled is a matter of the deeds. -/
private theorem Settling.of_deeds (settling : Settling engine next (Effect.deeds effects)) :
    Settling engine next effects := by
  cases settling with
  | reports jobs told reported split ids tickets alive answers admissions =>
    rw [Effect.answers_deeds] at answers
    rw [Effect.admissions_deeds] at admissions
    exact .reports jobs told reported split ids tickets alive answers admissions
  | refuses ticket fault refusal jobs ids submitters tickets alive answers admissions =>
    rw [Effect.answers_deeds] at answers
    rw [Effect.admissions_deeds] at admissions
    exact .refuses ticket fault refusal jobs ids submitters tickets alive answers admissions
  | admits ticket jobs ids submitters tickets alive answers admissions =>
    rw [Effect.answers_deeds] at answers
    rw [Effect.admissions_deeds] at admissions
    exact .admits ticket jobs ids submitters tickets alive answers admissions
  | ends gone tickets jobs ids completed answers admissions =>
    rw [Effect.answers_deeds] at answers
    rw [Effect.admissions_deeds] at admissions
    exact .ends gone tickets jobs ids completed answers admissions

/-- A move that settles nothing. -/
private theorem Settling.idle (jobs : engine.unsettledJobs.Perm next.unsettledJobs)
    (submitters : next.subscribers = engine.subscribers) (ids : next.jobIds = engine.jobIds)
    (tickets : next.unacceptedTickets = engine.unacceptedTickets) (alive : next.isGone = false)
    (answers : Effect.answers effects = []) (admissions : Effect.admissions effects = []) :
    Settling engine next effects :=
  .reports [] [] (submitters ▸ .none _) jobs ids tickets alive answers admissions

/-- The open tickets of a mailbox that starts with an event. -/
private theorem tickets_of_arrived {event : Event} {rest : List Event}
    (arrived : engine.mailbox = event :: rest) :
    engine.unacceptedTickets =
      (ticket? event).toList ++ { engine with mailbox := rest }.unacceptedTickets := by
  unfold unacceptedTickets
  rw [arrived]
  cases event <;> rfl

private theorem settle_submit {ticket : Ticket} {job : Job} {input : Bytes} {rest : List Event}
    (orderly : engine.Orderly) (alive : engine.isGone = false)
    (arrived : engine.mailbox = .submit ticket job input :: rest) :
    let act := { engine with mailbox := rest }.submit ticket job input
    act.value.Orderly ∧ Settling engine act.value act.effects := by
  have tickets := tickets_of_arrived arrived
  have next := submit_cases { engine with mailbox := rest } ticket job input
  generalize { engine with mailbox := rest }.submit ticket job input = act at next ⊢
  obtain ⟨state, effects⟩ := act
  rcases next with ⟨fault, source, refusal, ids, rfl, deeds⟩ | ⟨id, source, _, _, taken, rfl, deeds⟩
  · refine ⟨orderly.same rfl rfl rfl rfl orderly.settled orderly.ledger, ?_⟩
    refine .of_deeds ?_
    rw [deeds]
    exact .refuses ticket fault refusal rfl ids rfl tickets alive rfl rfl
  · obtain ⟨rfl, following⟩ := IdSource.take_next taken
    refine ⟨orderly.same rfl rfl rfl rfl orderly.settled orderly.ledger, ?_⟩
    refine .of_deeds ?_
    rw [deeds]
    refine .admits ticket ?_ following rfl tickets alive rfl rfl
    rw [unsettledJobs, unsettledJobs, List.map_append, List.append_assoc]
    exact List.perm_middle

/-- No event makes a run complete, and an event that asks to stop is no submission. -/
private theorem stopCause_spec {node : NodeId} {event : Event} {reason : StopReason}
    (cause : stopCause? node event = some reason) :
    reason ≠ .completed ∧ ticket? event = none := by
  cases event with
  | membership change =>
    cases change with
    | departed other =>
      by_cases own : other = node
      · rw [stopCause?, if_pos own] at cause
        cases cause
        exact ⟨nofun, rfl⟩
      · rw [stopCause?, if_neg own] at cause
        cases cause
    | joined other => cases cause
    | poolTerminated =>
      cases cause
      exact ⟨nofun, rfl⟩
  | shutdown =>
    cases cause
    exact ⟨nofun, rfl⟩
  | message _ | submit _ _ _ | endSubmissions => cases cause

/-- Another reason to stop does not complete a run. -/
private theorem Orderly.requestStop (orderly : engine.Orderly) {reason : StopReason}
    (other : reason ≠ .completed) : (engine.requestStop reason).Orderly := by
  refine ⟨orderly.phase, orderly.closed, orderly.linked, fun alive => ?_, orderly.settled,
    orderly.ledger⟩
  have before := orderly.ongoing alive
  unfold Engine.requestStop
  cases stated : engine.stopReason with
  | none => simpa using other
  | some first =>
    rw [stated] at before
    exact before

private theorem settle_accept {event : Event} {rest : List Event} (orderly : engine.Orderly)
    (alive : engine.isGone = false) (arrived : engine.mailbox = event :: rest) :
    let act := { engine with mailbox := rest }.accept event
    act.value.Orderly ∧ Settling engine act.value act.effects := by
  have tickets := tickets_of_arrived arrived
  have kept : Orderly { engine with mailbox := rest } :=
    orderly.same rfl rfl rfl rfl orderly.settled orderly.ledger
  rcases accept_cases { engine with mailbox := rest } event with
    ⟨ticket, job, input, rfl, taken⟩ | ⟨silent, sorted⟩
  · rw [taken]
    exact settle_submit orderly alive arrived
  generalize { engine with mailbox := rest }.accept event = act at silent sorted ⊢
  obtain ⟨state, effects⟩ := act
  have idle : state.unsettledJobs = engine.unsettledJobs → state.subscribers = engine.subscribers →
      state.jobIds = engine.jobIds → state.unacceptedTickets = engine.unacceptedTickets →
      state.isGone = false → Settling engine state effects := by
    intro jobs submitters ids waiting present
    refine .of_deeds ?_
    rw [silent]
    exact .idle (jobs ▸ .refl _) submitters ids waiting present rfl rfl
  rcases sorted with ⟨_, rfl, rfl⟩ | ⟨_, rfl, rfl⟩ | ⟨_, rfl, _, rfl⟩ | ⟨reason, cause, rfl⟩ |
    ⟨rfl, rfl⟩
  · exact ⟨kept.same rfl rfl rfl rfl kept.settled kept.ledger,
      idle rfl rfl rfl tickets.symm alive⟩
  · exact ⟨kept.same rfl rfl rfl rfl kept.settled kept.ledger,
      idle rfl rfl rfl tickets.symm alive⟩
  · exact ⟨kept.same rfl rfl rfl rfl kept.settled kept.ledger,
      idle rfl rfl rfl tickets.symm alive⟩
  · obtain ⟨other, plain⟩ := stopCause_spec cause
    rw [plain] at tickets
    exact ⟨kept.requestStop other, idle rfl rfl rfl tickets.symm alive⟩
  · exact ⟨kept.same rfl rfl rfl rfl kept.settled kept.ledger,
      idle rfl rfl rfl tickets.symm alive⟩

/-- A completion that strikes its request settles its job, and a stale one settles nothing. -/
private theorem settle_complete {message : Message} {rest : List Message}
    (orderly : engine.Orderly) (alive : engine.isGone = false) (worker : NodeId)
    (request : RequestId) (result : Bytes) (failed : Bool) (seconds : Float) :
    let act := { engine with inbound := rest, messages := engine.messages + 1 }.complete worker
      request result failed seconds
    act.value.Orderly ∧
      Settling engine act.value (.handled message :: Effect.deeds act.effects) := by
  have answer := complete_cases { engine with inbound := rest, messages := engine.messages + 1 }
    worker request result failed seconds
  generalize { engine with inbound := rest, messages := engine.messages + 1 }.complete worker
    request result failed seconds = act at answer ⊢
  obtain ⟨state, effects⟩ := act
  rcases answer with ⟨records, _, rfl, deeds⟩ |
    ⟨before, struck, later, records, subscribers, told, active, _, reported, rfl, deeds⟩
  · refine ⟨orderly.same rfl rfl rfl rfl orderly.settled orderly.ledger, ?_⟩
    rw [deeds]
    exact .idle (.refl _) rfl rfl rfl alive rfl rfl
  · refine ⟨orderly.same rfl rfl rfl rfl orderly.settled (orderly.ledger.resolved active), ?_⟩
    rw [deeds]
    refine .reports _ told reported ?_ rfl rfl alive rfl reported.admissions
    have split : engine.ledger.held.Perm (struck :: Ledger.held { engine.ledger with
        accounts := engine.ledger.accounts.insert worker (.active (before ++ later))
        outstanding := engine.ledger.outstanding - 1 }) :=
      Ledger.held_resolved active rfl
    refine ((split.map fun request => request.submission.id).append_left _).trans ?_
    exact List.perm_middle

/-- A registration settles nothing. -/
private theorem settle_register (orderly : engine.Orderly) (worker : NodeId) :
    Orderly { engine with
      ledger := (engine.ledger.register worker).value
      scheduler := (engine.scheduler.join worker).value } ∧
    engine.unsettledJobs.Perm (unsettledJobs { engine with
      ledger := (engine.ledger.register worker).value
      scheduler := (engine.scheduler.join worker).value }) := by
  have held := (engine.ledger.held_register worker).map fun request => request.submission.id
  obtain ⟨queue, abandoned⟩ := engine.scheduler.queue_join worker
  refine ⟨orderly.same rfl rfl rfl rfl (abandoned.trans orderly.settled)
    (orderly.ledger.register worker), ?_⟩
  rw [unsettledJobs, unsettledJobs, queue]
  exact held.append_left _

private theorem settle_handle {message : Message} {rest : List Message} (orderly : engine.Orderly)
    (alive : engine.isGone = false) :
    let act := { engine with inbound := rest }.handle message
    act.value.Orderly ∧ Settling engine act.value act.effects := by
  have part := handle_cases { engine with inbound := rest } message
  generalize { engine with inbound := rest }.handle message = act at part ⊢
  obtain ⟨state, effects⟩ := act
  have kept : Orderly { engine with inbound := rest, messages := engine.messages + 1 } :=
    orderly.same rfl rfl rfl rfl orderly.settled orderly.ledger
  rcases part with ⟨_, _, _, _, _, rfl, deeds⟩ |
    ⟨request, result, failed, seconds, _, _, value, deeds⟩ | ⟨_, _, rfl, deeds⟩ | ⟨_, _, rfl, deeds⟩
  · refine ⟨kept.same rfl rfl rfl rfl kept.settled kept.ledger, .of_deeds ?_⟩
    rw [deeds]
    exact .idle (.refl _) rfl rfl rfl alive rfl rfl
  · obtain ⟨still, settling⟩ :=
      settle_complete orderly alive message.source request result failed seconds
    refine ⟨value ▸ still, .of_deeds ?_⟩
    rw [deeds, value]
    exact settling
  · obtain ⟨still, jobs⟩ := settle_register kept message.source
    refine ⟨still, .of_deeds ?_⟩
    rw [deeds]
    exact .idle jobs rfl rfl rfl alive rfl rfl
  · refine ⟨kept, .of_deeds ?_⟩
    rw [deeds]
    exact .idle (.refl _) rfl rfl rfl alive rfl rfl

/-- The requests of a departed node are split between the queue and the exhausted jobs. -/
private theorem jobs_reclaimed (settled : engine.scheduler.abandoned = []) (node : NodeId) :
    let taken := (engine.ledger.requests node).map Request.submission
    engine.unsettledJobs.Perm
      ((engine.scheduler.abandoned ++ engine.scheduler.exhausted taken).map Submission.id ++
      ((engine.scheduler.queue ++ engine.scheduler.retried taken).map Submission.id ++
        (engine.ledger.close node).held.map fun request => request.submission.id)) := by
  intro taken
  refine List.perm_iff_count.mpr fun job => ?_
  have held := ((engine.ledger.held_close node).map fun request =>
    request.submission.id).count_eq job
  have returned := (engine.scheduler.retried_append_exhausted taken).count_eq job
  have jobs : taken.map Submission.id =
      (engine.ledger.requests node).map fun request => request.submission.id := List.map_map
  rw [jobs] at returned
  simp only [List.map_append, List.count_append] at held returned
  simp only [unsettledJobs, settled, List.nil_append, List.map_append, List.count_append]
  omega

/-- A departure settles the jobs that have used up their attempts. -/
private theorem settle_depart {node : NodeId} {rest : List NodeId} (orderly : engine.Orderly)
    (alive : engine.isGone = false) :
    let act := { engine with departed := rest }.depart node
    act.value.Orderly ∧ Settling engine act.value act.effects := by
  have part := depart_cases { engine with departed := rest } node
  generalize { engine with departed := rest }.depart node = act at part ⊢
  obtain ⟨state, effects⟩ := act
  have settled := orderly.settled
  let taken := (engine.ledger.requests node).map Request.submission
  rcases part with ⟨_, departed, records, subscribers, told, reported, rfl, deeds⟩ |
    ⟨_, role, subscribers, told, reported, _, rfl, deeds⟩
  · refine ⟨orderly.same rfl rfl rfl rfl rfl (orderly.ledger.close node), .of_deeds ?_⟩
    rw [deeds]
    have unanswered := Effect.answers_queued (engine.scheduler.retried taken)
    have unadmitted := Effect.admissions_queued (engine.scheduler.retried taken)
    refine .reports _ told reported ?_ rfl rfl alive ?_ ?_
    · exact jobs_reclaimed settled node
    · rw [Effect.answers_append]
      exact (congrArg (· ++ Effect.answers told) unanswered).trans (List.nil_append _)
    · rw [Effect.admissions_append, reported.admissions, List.append_nil]
      exact unadmitted
  · rw [settled] at reported
    refine ⟨orderly.same rfl rfl rfl rfl rfl orderly.ledger, .of_deeds ?_⟩
    rw [deeds]
    exact .reports _ told reported (.refl _) rfl rfl alive rfl reported.admissions

/-- A join settles nothing. -/
private theorem settle_arrive {node : NodeId} {rest : List NodeId} (orderly : engine.Orderly)
    (alive : engine.isGone = false) :
    let act := { engine with joined := rest }.arrive node
    act.value.Orderly ∧ Settling engine act.value act.effects := by
  have part := arrive_cases { engine with joined := rest } node
  generalize { engine with joined := rest }.arrive node = act at part ⊢
  obtain ⟨state, effects⟩ := act
  rcases part with ⟨_, rfl, deeds⟩ | ⟨_, rfl, deeds⟩
  · refine ⟨orderly.same rfl rfl rfl rfl orderly.settled orderly.ledger, .of_deeds ?_⟩
    rw [deeds]
    exact .idle (.refl _) rfl rfl rfl alive rfl rfl
  · obtain ⟨queue, abandoned⟩ := engine.scheduler.queue_join node
    refine ⟨orderly.same rfl rfl rfl rfl (abandoned.trans orderly.settled) orderly.ledger,
      .of_deeds ?_⟩
    rw [deeds]
    refine .idle ?_ rfl rfl rfl alive rfl rfl
    rw [unsettledJobs, unsettledJobs, queue]

/-- A dispatch settles nothing: its job moves from the queue to the ledger. -/
private theorem settle_dispatch (orderly : engine.Orderly) (alive : engine.isGone = false) :
    engine.dispatch.value.1.Orderly ∧
      Settling engine engine.dispatch.value.1 engine.dispatch.effects := by
  rcases engine.dispatch_cases with ⟨rule, records, value, deeds⟩ |
    ⟨submission, rest, worker, requests, id, source, rule, records, _, _, queued, active, taken,
      value, deeds⟩
  · rw [value]
    refine ⟨orderly.same rfl rfl rfl rfl orderly.settled orderly.ledger, .of_deeds ?_⟩
    rw [deeds]
    exact .idle (.refl _) rfl rfl rfl alive rfl rfl
  · rw [value]
    refine ⟨orderly.same rfl rfl rfl rfl orderly.settled (orderly.ledger.issued active taken),
      .of_deeds ?_⟩
    rw [deeds]
    refine .idle ?_ rfl rfl rfl alive rfl rfl
    have split : (Ledger.held
        { accounts :=
            engine.ledger.accounts.insert worker (.active (requests ++ [⟨id, submission⟩]))
          outstanding := engine.ledger.outstanding + 1
          requestIds := source }).Perm (⟨id, submission⟩ :: engine.ledger.held) :=
      Ledger.held_issued active rfl
    rw [unsettledJobs, queued, List.map_cons, List.cons_append]
    refine List.perm_middle.symm.trans (List.Perm.append_left _ ?_)
    exact (split.map fun request => request.submission.id).symm

/-- The start of a run and the run of a job settle nothing. -/
private theorem settle_start (orderly : engine.Orderly) (created : engine.stage = .created) :
    engine.start.value.Orderly ∧ Settling engine engine.start.value engine.start.effects := by
  have alive : engine.isGone = false := by rw [isGone, created]
  obtain ⟨value, deeds⟩ := engine.start_eq
  rw [value]
  refine ⟨⟨fun _ => orderly.phase alive, (fun ended => by cases ended),
    fun _ => orderly.linked alive, fun _ => orderly.ongoing alive, orderly.settled, orderly.ledger⟩,
    .of_deeds ?_⟩
  rw [deeds, show engine.linked = true from orderly.linked alive]
  cases engine.scheduler.role with
  | master => exact .idle (.refl _) rfl rfl rfl rfl rfl rfl
  | worker master gone => exact .idle (.refl _) rfl rfl rfl rfl rfl rfl

private theorem settle_execute {request : WorkRequest} {rest : List WorkRequest}
    (orderly : engine.Orderly) (alive : engine.isGone = false) :
    let act := { engine with work := rest }.execute request
    act.value.Orderly ∧ Settling engine act.value act.effects := by
  obtain ⟨value, deeds⟩ := execute_eq { engine with work := rest } request
  generalize { engine with work := rest }.execute request = act at value deeds ⊢
  obtain ⟨state, effects⟩ := act
  subst value
  refine ⟨orderly.same rfl rfl rfl rfl orderly.settled orderly.ledger, .of_deeds ?_⟩
  rw [deeds, show engine.linked = true from orderly.linked alive]
  exact .idle (.refl _) rfl rfl rfl alive rfl rfl

private theorem answers_dismissed (tickets : List Ticket) :
    Effect.answers (tickets.map fun ticket => .answered ticket (.error .engineStopped)) =
      tickets.map fun ticket => (ticket, .error .engineStopped) := by
  induction tickets with
  | nil => rfl
  | cons ticket rest hypothesis =>
    rw [List.map_cons, List.map_cons, ← hypothesis]
    rfl

private theorem admissions_dismissed (tickets : List Ticket) :
    Effect.admissions (tickets.map fun ticket => .answered ticket (.error .engineStopped)) =
      [] := by
  rw [Effect.admissions, List.filterMap_map]
  exact List.filterMap_eq_nil_iff.mpr fun _ _ => rfl

/-- The end of a run dismisses every open ticket. -/
private theorem settle_finish (orderly : engine.Orderly) (alive : engine.isGone = false)
    (reason : StopReason)
    (completed : (engine.requestStop reason).stopReason = some .completed →
      engine.unsettledJobs = []) :
    let act := (engine.requestStop reason).finish
    act.value.Orderly ∧ Settling engine act.value act.effects := by
  obtain ⟨value, deeds⟩ := (engine.requestStop reason).finish_eq (orderly.phase alive)
  rw [requestStop_of_stopped _ _ (requestStop_isSome engine reason)] at value
  intro act
  have linked : (engine.requestStop reason).linked = true := orderly.linked alive
  rw [linked] at deeds
  change act.value = _ at value
  rw [value]
  refine ⟨⟨nofun, fun _ => rfl, nofun, nofun, orderly.settled, orderly.ledger⟩, .of_deeds ?_⟩
  rw [deeds]
  exact .ends rfl rfl rfl rfl completed (answers_dismissed _) (admissions_dismissed _)

/-- A master with nothing left to do has no unsettled job. -/
private theorem unsettledJobs_of_done (orderly : engine.Orderly)
    (done : engine.shouldStop = true) (master : engine.scheduler.isMaster = true) :
    engine.unsettledJobs = [] := by
  have finished := (Bool.and_eq_true_iff.mp done).1
  have counted := orderly.ledger.counted
  unfold Scheduler.isDone at finished
  cases part : engine.scheduler.role with
  | worker leader gone =>
    rw [Scheduler.isMaster, part] at master
    cases master
  | master =>
    rw [part] at finished
    obtain ⟨queue, ledger⟩ := Bool.and_eq_true_iff.mp finished
    have none : engine.ledger.held.length = 0 := counted.symm.trans (of_decide_eq_true ledger)
    rw [unsettledJobs, List.isEmpty_iff.mp queue, List.length_eq_zero_iff.mp none]
    rfl

private theorem settle_breakDown {cause : Breakdown} (orderly : engine.Orderly)
    (alive : engine.isGone = false) :
    (engine.breakDown cause).value.Orderly ∧
      Settling engine (engine.breakDown cause).value (engine.breakDown cause).effects := by
  obtain ⟨value, deeds⟩ := engine.breakDown_eq cause alive
  rw [value]
  refine ⟨⟨nofun, nofun, nofun, nofun, orderly.settled, orderly.ledger⟩, .of_deeds ?_⟩
  rw [deeds]
  exact .ends rfl rfl rfl rfl (fun stated => (orderly.ongoing alive stated).elim)
    (answers_dismissed _) (admissions_dismissed _)

end Moves

/-- **Every move keeps an engine orderly and settles jobs in one of the four ways.** -/
theorem Orderly.move {engine : Engine} {act : Act Engine} (orderly : engine.Orderly)
    (move : Move engine act) :
    act.value.Orderly ∧ Settling engine act.value act.effects := by
  cases move with
  | start created => exact settle_start orderly created
  | accept alive arrived => exact settle_accept orderly alive arrived
  | cutOff alive =>
    exact ⟨orderly.requestStop nofun, .idle (.refl _) rfl rfl rfl alive rfl rfl⟩
  | measure alive =>
    exact ⟨orderly.same rfl rfl rfl rfl orderly.settled orderly.ledger,
      .idle (.refl _) rfl rfl rfl alive rfl rfl⟩
  | handle alive => exact settle_handle orderly alive
  | depart alive => exact settle_depart orderly alive
  | arrive alive => exact settle_arrive orderly alive
  | dispatch alive => exact settle_dispatch orderly alive
  | run alive => exact settle_execute orderly alive
  | turn alive ongoing silent =>
    rcases ongoing with rfl | rfl | ⟨rfl, _⟩
    all_goals
      refine ⟨⟨fun _ => orderly.phase alive, nofun, fun _ => orderly.linked alive,
        fun _ => orderly.ongoing alive, orderly.settled, orderly.ledger⟩, .of_deeds ?_⟩
      rw [silent]
      exact .idle (.refl _) rfl rfl rfl rfl rfl rfl
  | finish alive stopped =>
    have ended := settle_finish orderly alive .shutdownRequested
    rw [requestStop_of_stopped engine _ stopped] at ended
    exact ended fun stated => (orderly.ongoing alive stated).elim
  | conclude alive running idle done =>
    refine settle_finish orderly alive engine.naturalReason fun stated => ?_
    have natural : engine.naturalReason = .completed := by
      simpa [Engine.requestStop, running] using stated
    refine unsettledJobs_of_done orderly done ?_
    unfold naturalReason at natural
    split at natural
    · assumption
    · cases natural
  | breakDown alive => exact settle_breakDown orderly alive

end Engine

end JobPool
