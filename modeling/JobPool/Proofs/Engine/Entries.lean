/-
**What a move of the master enters into the books.**

The books of a master are its queue, its ledger and its list of waiting submitters. A move leaves
them alone, or makes one of five entries: it admits a job, issues the oldest job of the queue to a
worker, strikes a request whose completion it handles, ignores a stale completion, or closes the
account of a departed worker and takes its jobs back. `Entry` describes each of them with all that
it does to the books and with its deeds, the answers to submitters included.

* `Effect.entries` — the effects that concern the books;
* `Entry` — the entries, each with its deeds;
* `Entry.answered`, `Entry.admitted`, `Entry.applied`, `Entry.handled`, `Entry.issued` — the entry
  that an effect comes from;
* `Turn.booking` — every turn of the session of a master makes one entry at most.
-/

import JobPool.Proofs.Engine.Conservation

namespace JobPool

namespace Effect

/-- The effect concerns the queue, the ledger or the waiting submitters. -/
def isEntry : Effect → Bool
  | handled ⟨_, .completed ..⟩ | resolved .. | applied (.departed _) | admitted .. | queued ..
  | issued .. | answered _ (.ok _) => true
  | handled ⟨_, .execute ..⟩ | handled ⟨_, .register⟩ | applied (.joined _)
  | applied .poolTerminated | answered _ (.error _) | log _ | sent .. | ran .. | linkClosed
  | brokeDown _ => false

/-- The effects that concern the books, in order. -/
def entries (effects : List Effect) : List Effect := effects.filter isEntry

@[simp] theorem entries_append (first second : List Effect) :
    entries (first ++ second) = entries first ++ entries second :=
  List.filter_append ..

theorem mem_entries {effects : List Effect} {effect : Effect} :
    effect ∈ entries effects ↔ effect ∈ effects ∧ effect.isEntry = true :=
  List.mem_filter

/-- An entry is no line of the log. -/
theorem isLog_of_isEntry {effect : Effect} (entry : effect.isEntry = true) :
    effect.isLog = false := by
  cases effect <;> first | rfl | cases entry

theorem entries_deeds (effects : List Effect) : entries (deeds effects) = entries effects := by
  rw [entries, deeds, List.filter_filter]
  refine List.filter_congr fun effect _ => ?_
  cases effect <;> simp [isEntry]

theorem entries_of_deeds {effects told : List Effect} (deeds : deeds effects = told) :
    entries effects = entries told := by
  rw [← entries_deeds, deeds]

/-- An entry in a longer history is an old one or one of the new ones. -/
theorem mem_append_entries {history effects : List Effect} {effect : Effect}
    (entry : effect.isEntry = true) :
    effect ∈ history ++ effects ↔ effect ∈ history ∨ effect ∈ entries effects := by
  rw [List.mem_append, mem_entries, and_iff_left entry]

end Effect

namespace Engine

/-- The oldest message leaves its queue and is handled. -/
def handleNext (engine : Engine) (message : Message) : Act Engine :=
  { engine with inbound := engine.inbound.tail }.handle message

section Kinds

variable (engine next : Engine) (effects : List Effect)

/-- The books stay as they are, or the run ends and nobody waits any more. -/
structure Idle : Prop where
  queue : next.scheduler.queue = engine.scheduler.queue
  requests : next.ledger.requests = engine.ledger.requests
  closed : next.ledger.isDeparted = engine.ledger.isDeparted
  ids : next.ledger.requestIds = engine.ledger.requestIds
  jobs : engine.jobIds.next ≤ next.jobIds.next
  waiting : ∀ job ticket, next.subscribers.get? job = some ticket →
    engine.subscribers.get? job = some ticket
  silent : Effect.entries effects = []

/-- A submission is admitted as a new job at the end of the queue. -/
structure Admission (ticket : Ticket) (job : Job) (input : Bytes) : Prop where
  queue : next.scheduler.queue = engine.scheduler.queue ++
    [{ id := engine.jobIds.next, job := job, input := input }]
  ledger : next.ledger = engine.ledger
  jobs : next.jobIds.next = engine.jobIds.next + 1
  waiting : next.subscribers = engine.subscribers.insert engine.jobIds.next ticket
  deeds : Effect.deeds effects =
    [.queued engine.jobIds.next 1, .admitted ticket engine.jobIds.next]

/-- The oldest job of the queue is issued to a worker. -/
structure Issue (worker : NodeId) (submission : Submission) : Prop where
  queue : engine.scheduler.queue = submission :: next.scheduler.queue
  requests : next.ledger.requests = fun other =>
    if other = worker then
      engine.ledger.requests worker ++ [⟨engine.ledger.requestIds.next, submission⟩]
    else engine.ledger.requests other
  closed : next.ledger.isDeparted = engine.ledger.isDeparted
  registered : engine.ledger.isDeparted worker = false
  ids : next.ledger.requestIds.next = engine.ledger.requestIds.next + 1
  jobs : next.jobIds = engine.jobIds
  waiting : next.subscribers = engine.subscribers
  deeds : Effect.deeds effects =
    [.issued engine.ledger.requestIds.next worker submission.id submission.attempt,
      .sent worker (.execute engine.ledger.requestIds.next submission.job submission.input)
        engine.link.refusal.isNone]

/-- A request is struck whose completion is the oldest message, and its submitter is answered. -/
structure Resolution (worker : NodeId) (struck : Request) (before later : List Request)
    (result : Bytes) (failed : Bool) (seconds : Float) : Prop where
  oldest : engine.inbound.head? = some ⟨worker, .completed struck.id result failed seconds⟩
  handled : (⟨next, effects⟩ : Act Engine) =
    engine.handleNext ⟨worker, .completed struck.id result failed seconds⟩
  listed : engine.ledger.requests worker = before ++ struck :: later
  active : engine.ledger.isRegistered worker = true
  queue : next.scheduler.queue = engine.scheduler.queue
  requests : next.ledger.requests = fun other =>
    if other = worker then before ++ later else engine.ledger.requests other
  closed : next.ledger.isDeparted = engine.ledger.isDeparted
  ids : next.ledger.requestIds = engine.ledger.requestIds
  jobs : next.jobIds = engine.jobIds
  waiting : next.subscribers = engine.subscribers.erase struck.submission.id
  deeds : Effect.deeds effects =
    [.handled ⟨worker, .completed struck.id result failed seconds⟩,
      .resolved worker struck.id true] ++
    answersTo engine.subscribers (reported worker struck.submission result failed seconds)

/-- The oldest message is a completion whose request is not outstanding on its sender. -/
structure Miss (worker : NodeId) (request : RequestId) (result : Bytes) (failed : Bool)
    (seconds : Float) : Prop where
  oldest : engine.inbound.head? = some ⟨worker, .completed request result failed seconds⟩
  handled : (⟨next, effects⟩ : Act Engine) =
    engine.handleNext ⟨worker, .completed request result failed seconds⟩
  missing : request ∉ (engine.ledger.requests worker).map Request.id
  queue : next.scheduler.queue = engine.scheduler.queue
  ledger : next.ledger = engine.ledger
  jobs : next.jobIds = engine.jobIds
  waiting : next.subscribers = engine.subscribers
  deeds : Effect.deeds effects =
    [.handled ⟨worker, .completed request result failed seconds⟩, .resolved worker request false]

/-- The jobs that a worker holds. -/
def heldBy (worker : NodeId) : List Submission :=
  (engine.ledger.requests worker).map Request.submission

/-- The outcomes of the jobs that are given up when a worker departs. -/
def givenUp (worker : NodeId) : List Outcome :=
  (engine.scheduler.exhausted (engine.heldBy worker)).map abandonment

/-- The account of a departed worker is closed. Its jobs are queued again, and the submitters of
those that have used up their attempts are answered. -/
structure Departure (worker : NodeId) (later : List Effect) : Prop where
  queue : next.scheduler.queue =
    engine.scheduler.queue ++ engine.scheduler.retried (engine.heldBy worker)
  requests : next.ledger.requests = fun other =>
    if other = worker then [] else engine.ledger.requests other
  closed : next.ledger.isDeparted = fun other =>
    if other = worker then true else engine.ledger.isDeparted other
  ids : next.ledger.requestIds = engine.ledger.requestIds
  jobs : next.jobIds = engine.jobIds
  waiting : next.subscribers = without engine.subscribers (engine.givenUp worker)
  applied : effects = .applied (.departed worker) :: later
  deeds : Effect.deeds later =
    ((engine.scheduler.retried (engine.heldBy worker)).map fun submission =>
      .queued submission.id submission.attempt) ++
    tellings engine.subscribers (engine.givenUp worker)

/-- **What a move of the master enters into the books.** -/
inductive Entry : Prop
  | idle (idle : Idle engine next effects)
  | admits {ticket : Ticket} {job : Job} {input : Bytes}
      (admission : Admission engine next effects ticket job input)
  | issues {worker : NodeId} {submission : Submission}
      (issue : Issue engine next effects worker submission)
  | resolves {worker : NodeId} {struck : Request} {before later : List Request} {result : Bytes}
      {failed : Bool} {seconds : Float}
      (resolution : Resolution engine next effects worker struck before later result failed seconds)
  | misses {worker : NodeId} {request : RequestId} {result : Bytes} {failed : Bool}
      {seconds : Float} (miss : Miss engine next effects worker request result failed seconds)
  | departs {worker : NodeId} {later : List Effect}
      (departure : Departure engine next effects worker later)

end Kinds

/-- An entry of a master that stays one and keeps its policy. -/
structure Booking (engine next : Engine) (effects : List Effect) : Prop where
  policy : next.scheduler.policy = engine.scheduler.policy
  master : next.scheduler.isMaster = true
  entry : Entry engine next effects

section Moves

variable {engine next : Engine} {effects : List Effect}

/-- A move that leaves the books alone. -/
private theorem Booking.idle (master : engine.scheduler.isMaster = true)
    (scheduler : next.scheduler = engine.scheduler) (ledger : next.ledger = engine.ledger)
    (jobs : engine.jobIds.next ≤ next.jobIds.next)
    (waiting : ∀ job ticket, next.subscribers.get? job = some ticket →
      engine.subscribers.get? job = some ticket)
    (silent : Effect.entries (Effect.deeds effects) = []) : Booking engine next effects := by
  rw [Effect.entries_deeds] at silent
  exact ⟨by rw [scheduler], by rw [scheduler, master],
    .idle ⟨by rw [scheduler], by rw [ledger], by rw [ledger], by rw [ledger], jobs, waiting,
      silent⟩⟩

private theorem book_submit {ticket : Ticket} {job : Job} {input : Bytes} {rest : List Event}
    (master : engine.scheduler.isMaster = true) :
    let act := { engine with mailbox := rest }.submit ticket job input
    Booking engine act.value act.effects := by
  rcases submit_cases { engine with mailbox := rest } ticket job input with
    ⟨fault, source, _, advanced, value, deeds⟩ | ⟨id, source, _, _, taken, value, deeds⟩
  · intro act
    rw [value]
    exact .idle master rfl rfl advanced (fun _ _ => id) (by rw [deeds]; rfl)
  · obtain ⟨rfl, following⟩ := IdSource.take_next taken
    intro act
    rw [value]
    exact ⟨rfl, master, .admits ⟨rfl, rfl, following, rfl, deeds⟩⟩

private theorem book_accept {event : Event} {rest : List Event}
    (master : engine.scheduler.isMaster = true) :
    let act := { engine with mailbox := rest }.accept event
    Booking engine act.value act.effects := by
  rcases accept_cases { engine with mailbox := rest } event with
    ⟨ticket, job, input, _, taken⟩ | ⟨silent, sorted⟩
  · rw [taken]
    exact book_submit master
  · intro act
    have quiet : Effect.entries (Effect.deeds act.effects) = [] := by rw [silent]; rfl
    rcases sorted with ⟨_, _, value⟩ | ⟨_, _, value⟩ | ⟨_, _, _, value⟩ | ⟨_, _, value⟩ |
      ⟨_, value⟩
    all_goals
      rw [value]
      exact .idle master rfl rfl (Nat.le_refl _) (fun _ _ => id) quiet

private theorem book_complete {worker : NodeId} {request : RequestId} {result : Bytes}
    {failed : Bool} {seconds : Float} (master : engine.scheduler.isMaster = true)
    (oldest : engine.inbound.head? = some ⟨worker, .completed request result failed seconds⟩)
    (handled : (⟨next, effects⟩ : Act Engine) =
      engine.handleNext ⟨worker, .completed request result failed seconds⟩)
    (value : next = ({ engine with
      inbound := engine.inbound.tail, messages := engine.messages + 1 }.complete worker request
        result failed seconds).value)
    (deeds : Effect.deeds effects =
      .handled ⟨worker, .completed request result failed seconds⟩ ::
        Effect.deeds ({ engine with
          inbound := engine.inbound.tail, messages := engine.messages + 1 }.complete worker request
            result failed seconds).effects) : Booking engine next effects := by
  rcases complete_exact
      { engine with inbound := engine.inbound.tail, messages := engine.messages + 1 } worker
      request result failed seconds with
    ⟨records, missing, completed, told⟩ |
    ⟨before, struck, later, records, active, named, completed, told⟩
  · rw [completed] at value
    rw [told] at deeds
    subst value
    exact ⟨rfl, master, .misses ⟨oldest, handled, missing, rfl, rfl, rfl, rfl, deeds⟩⟩
  · rw [completed] at value
    rw [told] at deeds
    subst value named
    refine ⟨rfl, master, .resolves ⟨oldest, handled, Ledger.requests_of_get? active, ?_, rfl, ?_,
      ?_, rfl, rfl, rfl, deeds⟩⟩
    · rw [Ledger.isRegistered, active]
    · funext other
      rw [Ledger.requests_of_insert rfl]
      rfl
    · refine Ledger.isDeparted_of_insert_open rfl rfl ?_
      rw [Ledger.isDeparted_eq, active]
      rfl

private theorem book_handle {message : Message} {rest : List Message}
    (master : engine.scheduler.isMaster = true) (arrived : engine.inbound = message :: rest) :
    let act := { engine with inbound := rest }.handle message
    Booking engine act.value act.effects := by
  intro act
  have oldest : engine.inbound.head? = some message := by rw [arrived]; rfl
  have tail : engine.inbound.tail = rest := by rw [arrived]; rfl
  have handled : act = engine.handleNext message := by rw [handleNext, tail]
  obtain ⟨source, payload⟩ := message
  rcases handle_cases { engine with inbound := rest } ⟨source, payload⟩ with
    ⟨_, _, _, _, worker, _⟩ | ⟨request, result, failed, seconds, completion, _, value, deeds⟩ |
    ⟨registration, _, value, deeds⟩ | ⟨reporting, _, value, deeds⟩
  · cases worker.symm.trans master
  · cases completion
    exact book_complete master oldest handled (tail ▸ value) (tail ▸ deeds)
  · cases registration
    obtain ⟨requests, closed, ids⟩ := engine.ledger.books_register source
    rcases (engine.scheduler.join_cases source).2 with same | ⟨_, _, _, _, _, joined⟩
    all_goals
      rw [value]
      refine ⟨?_, ?_, .idle ⟨?_, requests, closed, ids, Nat.le_refl _, fun _ _ => id, ?_⟩⟩
      · first | rw [same] | rw [joined]
      · first | rw [same, master] | rw [joined]; exact master
      · exact (engine.scheduler.queue_join source).1
      · rw [Effect.entries_of_deeds deeds]
        rfl
  · have other : Effect.entries [.handled ⟨source, payload⟩] = [] := by
      cases payload with
      | completed request result failed seconds =>
        cases (reporting request result failed seconds rfl).symm.trans master
      | execute _ _ _ | register => rfl
    rw [value]
    exact .idle master rfl rfl (Nat.le_refl _) (fun _ _ => id) (deeds ▸ other)

/-- Handling the oldest message of a master makes one entry at most. -/
theorem booking_handleNext {message : Message} (master : engine.scheduler.isMaster = true)
    (oldest : engine.inbound.head? = some message) :
    Booking engine (engine.handleNext message).value (engine.handleNext message).effects := by
  obtain ⟨rest, arrived⟩ := List.head?_eq_some_iff.mp oldest
  rw [handleNext, show engine.inbound.tail = rest by rw [arrived, List.tail_cons]]
  exact book_handle master arrived

private theorem book_depart {node : NodeId} {rest : List NodeId}
    (master : engine.scheduler.isMaster = true) (settled : engine.scheduler.abandoned = []) :
    let act := { engine with departed := rest }.depart node
    Booking engine act.value act.effects := by
  intro act
  have entered : (engine.ledger.close node).accounts =
    engine.ledger.accounts.insert node .closed := rfl
  rcases depart_exact { engine with departed := rest } node with
    ⟨_, departed, records, value, deeds⟩ | ⟨worker, _⟩
  · rw [settled, List.nil_append] at value deeds
    obtain ⟨later, applied⟩ : ∃ later, act.effects = .applied (.departed node) :: later := ⟨_, rfl⟩
    have told := deeds
    rw [show (depart _ node).effects = _ from applied, Effect.deeds_cons] at told
    rw [value]
    refine ⟨rfl, master, .departs ⟨rfl, ?_, ?_, rfl, rfl, rfl, applied, (List.cons.inj told).2⟩⟩
    · funext other
      exact Ledger.requests_of_insert entered other
    · funext other
      exact Ledger.isDeparted_of_insert entered other
  · cases worker.symm.trans master

private theorem book_arrive {node : NodeId} {rest : List NodeId}
    (master : engine.scheduler.isMaster = true) :
    let act := { engine with joined := rest }.arrive node
    Booking engine act.value act.effects := by
  intro act
  rcases arrive_cases { engine with joined := rest } node with ⟨_, value, deeds⟩ | ⟨_, value, deeds⟩
  · rw [value]
    exact .idle master rfl rfl (Nat.le_refl _) (fun _ _ => id) (by rw [deeds]; rfl)
  · have quiet : Effect.entries act.effects = [] := by
      rw [Effect.entries_of_deeds deeds]
      rfl
    rw [value]
    rcases (engine.scheduler.join_cases node).2 with same | ⟨_, _, _, _, _, joined⟩
    · exact ⟨by rw [same], by rw [same, master],
        .idle ⟨by rw [same], rfl, rfl, rfl, Nat.le_refl _, fun _ _ => id, quiet⟩⟩
    · exact ⟨by rw [joined], by rw [joined]; exact master,
        .idle ⟨by rw [joined], rfl, rfl, rfl, Nat.le_refl _, fun _ _ => id, quiet⟩⟩

private theorem book_dispatch (master : engine.scheduler.isMaster = true) :
    Booking engine engine.dispatch.value.1 engine.dispatch.effects := by
  rcases engine.dispatch_cases with ⟨rule, records, value, deeds⟩ |
    ⟨submission, rest, worker, requests, id, source, rule, records, _, _, queued, active, taken,
      value, deeds⟩
  · rw [value]
    exact ⟨rfl, master, .idle ⟨rfl, rfl, rfl, rfl, Nat.le_refl _, fun _ _ => id,
      by rw [Effect.entries_of_deeds deeds]; rfl⟩⟩
  · obtain ⟨rfl, following⟩ := IdSource.take_next taken
    have registered : engine.ledger.isDeparted worker = false := by
      rw [Ledger.isDeparted_eq, active]
      rfl
    rw [value]
    refine ⟨rfl, master, .issues ⟨queued, ?_, ?_, registered, following, rfl, rfl, deeds⟩⟩
    · funext other
      rw [Ledger.requests_of_insert rfl, Ledger.requests_of_get? active]
      rfl
    · exact Ledger.isDeparted_of_insert_open rfl rfl registered

private theorem book_execute {request : WorkRequest} {rest : List WorkRequest}
    (master : engine.scheduler.isMaster = true) :
    let act := { engine with work := rest }.execute request
    Booking engine act.value act.effects := by
  intro act
  obtain ⟨value, deeds⟩ := execute_eq { engine with work := rest } request
  rw [value]
  refine .idle master rfl rfl (Nat.le_refl _) (fun _ _ => id) ?_
  rw [deeds]
  cases engine.linked <;> rfl

private theorem entries_dismissed (tickets : List Ticket) :
    Effect.entries (tickets.map fun ticket => .answered ticket (.error .engineStopped)) = [] := by
  refine List.filter_eq_nil_iff.mpr fun effect member => ?_
  obtain ⟨ticket, _, rfl⟩ := List.mem_map.mp member
  exact Bool.false_ne_true

private theorem book_finish (orderly : engine.Orderly) (alive : engine.isGone = false)
    (master : engine.scheduler.isMaster = true) (reason : StopReason) :
    let act := (engine.requestStop reason).finish
    Booking engine act.value act.effects := by
  intro act
  obtain ⟨value, deeds⟩ := (engine.requestStop reason).finish_eq (orderly.phase alive)
  have nobody : ∀ job ticket, (Roster.empty : Roster JobId Ticket).get? job = some ticket →
      engine.subscribers.get? job = some ticket := fun _ _ waits => nomatch waits
  rw [value]
  refine .idle master rfl rfl (Nat.le_refl _) nobody ?_
  rw [deeds, Effect.entries_append, entries_dismissed, List.append_nil]
  cases (engine.requestStop reason).linked <;> rfl

private theorem book_breakDown {cause : Breakdown} (alive : engine.isGone = false)
    (master : engine.scheduler.isMaster = true) :
    Booking engine (engine.breakDown cause).value (engine.breakDown cause).effects := by
  obtain ⟨value, deeds⟩ := engine.breakDown_eq cause alive
  have nobody : ∀ job ticket, (Roster.empty : Roster JobId Ticket).get? job = some ticket →
      engine.subscribers.get? job = some ticket := fun _ _ waits => nomatch waits
  rw [value]
  refine .idle master rfl rfl (Nat.le_refl _) nobody ?_
  rw [deeds]
  exact entries_dismissed _

end Moves

/-- **Every move of a master makes one entry at most.** -/
theorem Move.booking {engine : Engine} {act : Act Engine} (orderly : engine.Orderly)
    (master : engine.scheduler.isMaster = true) (move : Move engine act) :
    Booking engine act.value act.effects := by
  cases move with
  | start created =>
    obtain ⟨value, deeds⟩ := engine.start_eq
    rw [value]
    refine .idle master rfl rfl (Nat.le_refl _) (fun _ _ => id) ?_
    rw [deeds]
    cases engine.scheduler.role with
    | master => rfl
    | worker => cases engine.linked <;> rfl
  | accept alive arrived => exact book_accept master
  | cutOff alive | measure alive =>
    exact .idle master rfl rfl (Nat.le_refl _) (fun _ _ => id) rfl
  | handle alive accepted arrived => exact book_handle master arrived
  | depart alive => exact book_depart master orderly.settled
  | arrive alive => exact book_arrive master
  | dispatch alive => exact book_dispatch master
  | run alive => exact book_execute master
  | turn alive ongoing silent =>
    exact .idle master rfl rfl (Nat.le_refl _) (fun _ _ => id) (by rw [silent]; rfl)
  | finish alive stopped =>
    have ended := book_finish orderly alive master .shutdownRequested
    rw [requestStop_of_stopped engine _ stopped] at ended
    exact ended
  | conclude alive => exact book_finish orderly alive master _
  | breakDown alive => exact book_breakDown alive master

/-! ### Which entry an effect comes from -/

section Inversion

variable {engine next : Engine} {effects : List Effect}

theorem Idle.entered (idle : Idle engine next effects) {effect : Effect} :
    effect ∉ Effect.entries effects := by
  rw [idle.silent]
  exact List.not_mem_nil

theorem Admission.entered {ticket : Ticket} {job : Job} {input : Bytes}
    (admission : Admission engine next effects ticket job input) {effect : Effect}
    (member : effect ∈ Effect.entries effects) :
    effect = .queued engine.jobIds.next 1 ∨ effect = .admitted ticket engine.jobIds.next := by
  rw [Effect.entries_of_deeds admission.deeds, Effect.mem_entries] at member
  simpa using member.1

theorem Issue.entries {worker : NodeId} {submission : Submission}
    (issue : Issue engine next effects worker submission) : Effect.entries effects =
      [.issued engine.ledger.requestIds.next worker submission.id submission.attempt] :=
  Effect.entries_of_deeds issue.deeds

theorem Issue.entered {worker : NodeId} {submission : Submission}
    (issue : Issue engine next effects worker submission) {effect : Effect}
    (member : effect ∈ Effect.entries effects) :
    effect =
      .issued engine.ledger.requestIds.next worker submission.id submission.attempt := by
  rw [issue.entries] at member
  exact List.mem_singleton.mp member

theorem Miss.entered {worker : NodeId} {request : RequestId} {result : Bytes} {failed : Bool}
    {seconds : Float} (miss : Miss engine next effects worker request result failed seconds)
    {effect : Effect} (member : effect ∈ Effect.entries effects) :
    effect = .handled ⟨worker, .completed request result failed seconds⟩ ∨
      effect = .resolved worker request false := by
  rw [Effect.entries_of_deeds miss.deeds, Effect.mem_entries] at member
  simpa using member.1

/-- What a departure brings besides itself. -/
theorem Departure.told {worker : NodeId} {later : List Effect}
    (departure : Departure engine next effects worker later) {effect : Effect}
    (member : effect ∈ Effect.deeds later) :
    (∃ submission ∈ engine.scheduler.retried (engine.heldBy worker),
      effect = .queued submission.id submission.attempt) ∨
    ∃ ticket, ∃ submission ∈ engine.scheduler.exhausted (engine.heldBy worker),
      effect = .answered ticket (.ok (abandonment submission)) := by
  rw [departure.deeds] at member
  rcases List.mem_append.mp member with queued | answered
  · obtain ⟨submission, listed, rfl⟩ := List.mem_map.mp queued
    exact .inl ⟨submission, listed, rfl⟩
  · obtain ⟨ticket, outcome, listed, rfl⟩ := mem_tellings answered
    obtain ⟨submission, lost, rfl⟩ := List.mem_map.mp listed
    exact .inr ⟨ticket, submission, lost, rfl⟩

theorem Departure.entered {worker : NodeId} {later : List Effect}
    (departure : Departure engine next effects worker later) {effect : Effect}
    (member : effect ∈ Effect.entries effects) :
    effect = .applied (.departed worker) ∨ effect ∈ Effect.deeds later := by
  obtain ⟨inside, entry⟩ := Effect.mem_entries.mp member
  rw [departure.applied] at inside
  refine (List.mem_cons.mp inside).imp_right fun later => Effect.mem_deeds.mpr ⟨later, ?_⟩
  exact Effect.isLog_of_isEntry entry

/-- A departure is the first effect of its turn. -/
theorem Departure.first {worker : NodeId} {later early late : List Effect}
    (departure : Departure engine next effects worker later)
    (own : effects = early ++ .applied (.departed worker) :: late) : early = [] ∧ late = later := by
  rw [departure.applied] at own
  cases early with
  | nil => exact ⟨rfl, (List.cons.inj own).2.symm⟩
  | cons _ more =>
    have inside : .applied (.departed worker) ∈ Effect.deeds later := by
      rw [(List.cons.inj own).2, Effect.mem_deeds]
      exact ⟨List.mem_append_right more List.mem_cons_self, rfl⟩
    obtain ⟨_, _, ⟨⟩⟩ | ⟨_, _, _, ⟨⟩⟩ := departure.told inside

theorem Resolution.entered {worker : NodeId} {struck : Request} {before later : List Request}
    {result : Bytes} {failed : Bool} {seconds : Float}
    (resolution : Resolution engine next effects worker struck before later result failed seconds)
    {effect : Effect} (member : effect ∈ Effect.entries effects) :
    effect = .handled ⟨worker, .completed struck.id result failed seconds⟩ ∨
      effect = .resolved worker struck.id true ∨
      ∃ ticket, engine.subscribers.get? struck.submission.id = some ticket ∧ effect =
        .answered ticket (.ok (reported worker struck.submission result failed seconds)) := by
  rw [Effect.entries_of_deeds resolution.deeds, Effect.mem_entries] at member
  simpa [answersTo, job_reported, eq_comm] using member.1

/-- **An answer with an outcome comes with a resolved request or with a departure.** -/
theorem Entry.answered (entry : Entry engine next effects) {ticket : Ticket} {outcome : Outcome}
    (member : .answered ticket (.ok outcome) ∈ Effect.entries effects) :
    (∃ worker struck before later result failed seconds,
      Resolution engine next effects worker struck before later result failed seconds ∧
      engine.subscribers.get? struck.submission.id = some ticket ∧
      outcome = reported worker struck.submission result failed seconds) ∨
    ∃ worker later, Departure engine next effects worker later ∧
      ∃ submission ∈ engine.scheduler.exhausted (engine.heldBy worker),
        outcome = abandonment submission := by
  cases entry with
  | idle idle => exact (idle.entered member).elim
  | admits admission => obtain ⟨⟨⟩⟩ | ⟨⟨⟩⟩ := admission.entered member
  | issues issue => cases issue.entered member
  | misses miss => obtain ⟨⟨⟩⟩ | ⟨⟨⟩⟩ := miss.entered member
  | resolves resolution =>
    obtain ⟨⟨⟩⟩ | ⟨⟨⟩⟩ | ⟨_, waits, ⟨⟩⟩ := resolution.entered member
    exact .inl ⟨_, _, _, _, _, _, _, resolution, waits, rfl⟩
  | departs departure =>
    obtain ⟨⟨⟩⟩ | told := departure.entered member
    obtain ⟨_, _, ⟨⟩⟩ | ⟨_, submission, lost, ⟨⟩⟩ := departure.told told
    exact .inr ⟨_, _, departure, submission, lost, rfl⟩

/-- **A submission that is admitted is the next job.** -/
theorem Entry.admitted (entry : Entry engine next effects) {ticket : Ticket} {job : JobId}
    (member : .admitted ticket job ∈ Effect.entries effects) :
    job = engine.jobIds.next ∧ ∃ task input, Admission engine next effects ticket task input := by
  cases entry with
  | idle idle => exact (idle.entered member).elim
  | admits admission =>
    obtain ⟨⟨⟩⟩ | ⟨⟨⟩⟩ := admission.entered member
    exact ⟨rfl, _, _, admission⟩
  | issues issue => cases issue.entered member
  | misses miss => obtain ⟨⟨⟩⟩ | ⟨⟨⟩⟩ := miss.entered member
  | resolves resolution => obtain ⟨⟨⟩⟩ | ⟨⟨⟩⟩ | ⟨_, _, ⟨⟩⟩ := resolution.entered member
  | departs departure =>
    obtain ⟨⟨⟩⟩ | told := departure.entered member
    obtain ⟨_, _, ⟨⟩⟩ | ⟨_, _, _, ⟨⟩⟩ := departure.told told

/-- **A departure that is applied closes its account.** -/
theorem Entry.applied (entry : Entry engine next effects) {worker : NodeId}
    (member : .applied (.departed worker) ∈ Effect.entries effects) :
    ∃ later, Departure engine next effects worker later := by
  cases entry with
  | idle idle => exact (idle.entered member).elim
  | admits admission => obtain ⟨⟨⟩⟩ | ⟨⟨⟩⟩ := admission.entered member
  | issues issue => cases issue.entered member
  | misses miss => obtain ⟨⟨⟩⟩ | ⟨⟨⟩⟩ := miss.entered member
  | resolves resolution => obtain ⟨⟨⟩⟩ | ⟨⟨⟩⟩ | ⟨_, _, ⟨⟩⟩ := resolution.entered member
  | departs departure =>
    obtain ⟨⟨⟩⟩ | told := departure.entered member
    · exact ⟨_, departure⟩
    · obtain ⟨_, _, ⟨⟩⟩ | ⟨_, _, _, ⟨⟩⟩ := departure.told told

/-- **A completion that is handled strikes its request or misses it.** -/
theorem Entry.handled (entry : Entry engine next effects) {worker : NodeId} {request : RequestId}
    {result : Bytes} {failed : Bool} {seconds : Float}
    (member : .handled ⟨worker, .completed request result failed seconds⟩ ∈
      Effect.entries effects) :
    (∃ struck before later, struck.id = request ∧
      Resolution engine next effects worker struck before later result failed seconds) ∨
    Miss engine next effects worker request result failed seconds := by
  cases entry with
  | idle idle => exact (idle.entered member).elim
  | admits admission => obtain ⟨⟨⟩⟩ | ⟨⟨⟩⟩ := admission.entered member
  | issues issue => cases issue.entered member
  | misses miss =>
    obtain ⟨⟨⟩⟩ | ⟨⟨⟩⟩ := miss.entered member
    exact .inr miss
  | resolves resolution =>
    obtain ⟨⟨⟩⟩ | ⟨⟨⟩⟩ | ⟨_, _, ⟨⟩⟩ := resolution.entered member
    exact .inl ⟨_, _, _, rfl, resolution⟩
  | departs departure =>
    obtain ⟨⟨⟩⟩ | told := departure.entered member
    obtain ⟨_, _, ⟨⟩⟩ | ⟨_, _, _, ⟨⟩⟩ := departure.told told

/-- **A request is issued for the oldest job of the queue.** -/
theorem Entry.issued (entry : Entry engine next effects) {request : RequestId} {worker : NodeId}
    {job : JobId} {attempt : Nat}
    (member : .issued request worker job attempt ∈ Effect.entries effects) :
    ∃ submission, Issue engine next effects worker submission ∧
      request = engine.ledger.requestIds.next ∧ submission.id = job ∧
      submission.attempt = attempt := by
  cases entry with
  | idle idle => exact (idle.entered member).elim
  | admits admission => obtain ⟨⟨⟩⟩ | ⟨⟨⟩⟩ := admission.entered member
  | issues issue =>
    cases issue.entered member
    exact ⟨_, issue, rfl, rfl, rfl⟩
  | misses miss => obtain ⟨⟨⟩⟩ | ⟨⟨⟩⟩ := miss.entered member
  | resolves resolution => obtain ⟨⟨⟩⟩ | ⟨⟨⟩⟩ | ⟨_, _, ⟨⟩⟩ := resolution.entered member
  | departs departure =>
    obtain ⟨⟨⟩⟩ | told := departure.entered member
    obtain ⟨_, _, ⟨⟩⟩ | ⟨_, _, _, ⟨⟩⟩ := departure.told told

end Inversion

end Engine

/-- **Every turn of the session of a master makes one entry at most**, and only a move of an engine
that is not gone makes one. -/
theorem Session.Turn.booking {session : Session} {act : Act Session}
    (orderly : session.engine.Orderly) (master : session.engine.scheduler.isMaster = true)
    (turn : Turn session act) :
    Engine.Booking session.engine act.value.engine act.effects ∧
      (Effect.entries act.effects ≠ [] → session.engine.isGone = false ∧
        act.value = { session with engine := act.value.engine }) := by
  cases turn with
  | move move => exact ⟨move.booking orderly master, fun _ => ⟨move.alive, rfl⟩⟩
  | surround | post | submit =>
    exact ⟨.idle master rfl rfl (Nat.le_refl _) (fun _ _ => id) rfl, (absurd rfl ·)⟩
  | @drop effects gone silent =>
    have quiet : Effect.entries effects = [] := Effect.entries_of_deeds silent
    refine ⟨.idle master rfl rfl (Nat.le_refl _) (fun _ _ => id) ?_, (absurd quiet ·)⟩
    rw [Effect.entries_deeds, quiet]
  | @dismiss effects gone told =>
    have quiet : Effect.entries effects = [] := Effect.entries_of_deeds told
    refine ⟨.idle master rfl rfl (Nat.le_refl _) (fun _ _ => id) ?_, (absurd quiet ·)⟩
    rw [Effect.entries_deeds, quiet]

end JobPool
