/-
**What a move does to the requests on their way.**

A request leaves the master as a letter, waits at its worker to be run, and comes back as another
letter, until the master strikes it from the ledger. A move of an engine takes part in this in one
of six ways (`Traffic`): the master issues a request, resolves one, misses one, or closes the
account of a worker; a worker runs a request; or the move lets requests wait, and at most loses some
with its mailbox.

* `Move.traffic` — every move takes part in one of the six ways;
* `Move.frame` — what no move changes, and how a link comes to be closed.
-/

import JobPool.Proofs.Engine.Letters
import JobPool.Proofs.Engine.Settling

namespace JobPool

namespace Engine

/-- **How a move takes part in the way of the requests.** -/
inductive Traffic (engine next : Engine) (effects : List Effect) : Prop
  /-- The requests wait, or are lost with the mailbox of an engine that is gone. -/
  | waits
      (executes : ∃ lost, engine.executes.Perm (lost ++ next.executes))
      (completions : ∃ lost, engine.completions.Perm (lost ++ next.completions) ∧
        (engine.scheduler.isMaster = true → next.isGone = false → lost = []))
      (requests : next.ledger.requests = engine.ledger.requests)
      (closed : next.ledger.isDeparted = engine.ledger.isDeparted)
      (ids : next.ledger.requestIds = engine.ledger.requestIds)
      (jobs : engine.jobIds.next ≤ next.jobIds.next)
      (queue : ∀ submission ∈ next.scheduler.queue,
        submission ∈ engine.scheduler.queue ∨ submission.id = engine.jobIds.next)
      (sent : ∀ letter ∈ Effect.accepted effects, letter.2 = .register)
      (deals : ∀ deal ∈ Effect.deals effects, engine.scheduler.isMaster = false ∧
        ∃ worker request, deal = .handled worker request)
  /-- The master issues the oldest job of the queue to a worker. -/
  | issues (worker : NodeId) (submission : Submission)
      (master : engine.scheduler.isMaster = true)
      (executes : next.executes = engine.executes)
      (completions : next.completions = engine.completions)
      (requests : next.ledger.requests = fun other =>
        if other = worker then
          engine.ledger.requests worker ++ [⟨engine.ledger.requestIds.next, submission⟩]
        else engine.ledger.requests other)
      (closed : next.ledger.isDeparted = engine.ledger.isDeparted)
      (registered : engine.ledger.isDeparted worker = false)
      (ids : next.ledger.requestIds.next = engine.ledger.requestIds.next + 1)
      (jobs : next.jobIds = engine.jobIds)
      (queue : engine.scheduler.queue = submission :: next.scheduler.queue)
      (sent : asks (Effect.accepted effects) = [(worker, engine.ledger.requestIds.next)] ∨
        asks (Effect.accepted effects) = [])
      (unreported : reports (Effect.accepted effects) = [])
      (deals : Effect.deals effects =
        [.issued engine.ledger.requestIds.next worker submission.id])
  /-- The master strikes a request whose completion it handles. -/
  | resolves (worker : NodeId) (struck : Request) (before later : List Request)
      (master : engine.scheduler.isMaster = true)
      (executes : next.executes = engine.executes)
      (completions : engine.completions.Perm ((worker, struck.id) :: next.completions))
      (listed : engine.ledger.requests worker = before ++ struck :: later)
      (requests : next.ledger.requests = fun other =>
        if other = worker then before ++ later else engine.ledger.requests other)
      (closed : next.ledger.isDeparted = engine.ledger.isDeparted)
      (ids : next.ledger.requestIds = engine.ledger.requestIds)
      (jobs : next.jobIds = engine.jobIds)
      (queue : next.scheduler.queue = engine.scheduler.queue)
      (sent : Effect.accepted effects = [])
      (deals : Effect.deals effects =
        [.handled worker struck.id, .resolved worker struck.id true])
  /-- The master handles a completion whose request is not outstanding. -/
  | stale (worker : NodeId) (request : RequestId)
      (master : engine.scheduler.isMaster = true)
      (executes : next.executes = engine.executes)
      (completions : engine.completions.Perm ((worker, request) :: next.completions))
      (sent : Effect.accepted effects = [])
      (missing : request ∉ (engine.ledger.requests worker).map Request.id)
  /-- The master closes the account of a departed worker. -/
  | closes (worker : NodeId)
      (master : engine.scheduler.isMaster = true)
      (heard : worker ∈ engine.departures)
      (executes : next.executes = engine.executes)
      (unread : engine.completions = [])
      (completions : next.completions = engine.completions)
      (requests : next.ledger.requests = fun other =>
        if other = worker then [] else engine.ledger.requests other)
      (closed : next.ledger.isDeparted = fun other =>
        if other = worker then true else engine.ledger.isDeparted other)
      (ids : next.ledger.requestIds = engine.ledger.requestIds)
      (jobs : next.jobIds = engine.jobIds)
      (queue : ∀ submission ∈ next.scheduler.queue, submission ∈ engine.scheduler.queue ∨
        ∃ request ∈ engine.ledger.requests worker, request.submission.id = submission.id)
      (sent : Effect.accepted effects = [])
      (deals : Effect.deals effects = [])
  /-- A requested job is run. -/
  | runs (source : NodeId) (request : RequestId)
      (executes : engine.executes.Perm ((source, request) :: next.executes))
      (completions : next.completions = engine.completions)
      (requests : next.ledger.requests = engine.ledger.requests)
      (closed : next.ledger.isDeparted = engine.ledger.isDeparted)
      (ids : next.ledger.requestIds = engine.ledger.requestIds)
      (jobs : next.jobIds = engine.jobIds)
      (queue : next.scheduler.queue = engine.scheduler.queue)
      (unasked : asks (Effect.accepted effects) = [])
      (sent : reports (Effect.accepted effects) =
        if engine.linked && engine.link.refusal.isNone then [(source, request)] else [])
      (deals : Effect.deals effects = [.ran source request])

section Moves

variable {engine next : Engine} {effects : List Effect}

/-- How a move takes part is a matter of its deeds. -/
private theorem Traffic.of_deeds (traffic : Traffic engine next (Effect.deeds effects)) :
    Traffic engine next effects := by
  have accepted := Effect.accepted_deeds effects
  have dealt := Effect.deals_deeds effects
  cases traffic with
  | waits executes completions requests closed ids jobs queue sent deals =>
    rw [accepted] at sent
    rw [dealt] at deals
    exact .waits executes completions requests closed ids jobs queue sent deals
  | issues worker submission master executes completions requests closed registered ids jobs queue
      sent unreported deals =>
    rw [accepted] at sent unreported
    rw [dealt] at deals
    exact .issues worker submission master executes completions requests closed registered ids jobs
      queue sent unreported deals
  | resolves worker struck before later master executes completions listed requests closed ids jobs
      queue sent deals =>
    rw [accepted] at sent
    rw [dealt] at deals
    exact .resolves worker struck before later master executes completions listed requests closed
      ids jobs queue sent deals
  | stale worker request master executes completions sent missing =>
    rw [accepted] at sent
    exact .stale worker request master executes completions sent missing
  | closes worker master heard executes unread completions requests closed ids jobs queue sent
      deals =>
    rw [accepted] at sent
    rw [dealt] at deals
    exact .closes worker master heard executes unread completions requests closed ids jobs queue
      sent deals
  | runs source request executes completions requests closed ids jobs queue unasked sent deals =>
    rw [accepted] at unasked sent
    rw [dealt] at deals
    exact .runs source request executes completions requests closed ids jobs queue unasked sent
      deals

/-- A move that leaves all letters unread and only asides behind. -/
private theorem Traffic.apart (letters : engine.letters.Perm next.letters)
    (work : next.work = engine.work) (ledger : next.ledger = engine.ledger)
    (jobs : engine.jobIds.next ≤ next.jobIds.next)
    (queue : ∀ submission ∈ next.scheduler.queue,
      submission ∈ engine.scheduler.queue ∨ submission.id = engine.jobIds.next)
    (asides : ∀ effect ∈ effects, effect.isAside = true) : Traffic engine next effects := by
  obtain ⟨deals, accepted, _⟩ := Effect.aside asides
  have executes : engine.executes.Perm next.executes := by
    rw [Engine.executes, Engine.executes, work]
    exact (asks_perm letters).append_right _
  refine .waits ⟨[], executes⟩ ⟨[], reports_perm letters, fun _ _ => rfl⟩ (by rw [ledger])
    (by rw [ledger]) (by rw [ledger]) jobs queue ?_ ?_
  · rw [accepted]
    exact List.forall_mem_nil _
  · rw [deals]
    exact List.forall_mem_nil _

/-- The letters of a mailbox that starts with an event. -/
private theorem letters_of_arrived {event : Event} {rest : List Event}
    (arrived : engine.mailbox = event :: rest) :
    engine.letters = (letter? event).toList ++ { engine with mailbox := rest }.letters := by
  unfold letters
  rw [arrived]
  cases event <;> rfl

private theorem traffic_submit {ticket : Ticket} {job : Job} {input : Bytes} {rest : List Event}
    (arrived : engine.mailbox = .submit ticket job input :: rest) :
    let act := { engine with mailbox := rest }.submit ticket job input
    Traffic engine act.value act.effects := by
  have letters := letters_of_arrived arrived
  have cases := submit_cases { engine with mailbox := rest } ticket job input
  generalize { engine with mailbox := rest }.submit ticket job input = act at cases ⊢
  obtain ⟨state, effects⟩ := act
  rcases cases with ⟨fault, source, _, advanced, rfl, deeds⟩ | ⟨id, source, _, _, taken, rfl, deeds⟩
  · refine .of_deeds ?_
    rw [deeds]
    refine .apart (letters ▸ .refl _) rfl rfl advanced (fun _ member => .inl member) ?_
    intro effect member
    rw [List.mem_singleton.mp member]
    rfl
  · obtain ⟨rfl, following⟩ := IdSource.take_next taken
    refine .of_deeds ?_
    rw [deeds]
    refine .apart (letters ▸ .refl _) rfl rfl ?_ ?_ ?_
    · exact following ▸ Nat.le_succ _
    · intro submission member
      refine (List.mem_append.mp member).imp_right fun last => ?_
      rw [List.mem_singleton.mp last]
    · intro effect member
      rcases List.mem_cons.mp member with rfl | last
      · rfl
      · rw [List.mem_singleton.mp last]
        rfl

private theorem traffic_accept {event : Event} {rest : List Event}
    (arrived : engine.mailbox = event :: rest) :
    let act := { engine with mailbox := rest }.accept event
    Traffic engine act.value act.effects := by
  have letters := letters_of_arrived arrived
  rcases accept_cases { engine with mailbox := rest } event with
    ⟨ticket, job, input, rfl, taken⟩ | ⟨silent, sorted⟩
  · rw [taken]
    exact traffic_submit arrived
  generalize { engine with mailbox := rest }.accept event = act at silent sorted ⊢
  obtain ⟨state, effects⟩ := act
  have queue : ∀ submission ∈ engine.scheduler.queue,
      submission ∈ engine.scheduler.queue ∨ submission.id = engine.jobIds.next :=
    fun _ member => .inl member
  refine .of_deeds ?_
  rw [silent]
  rcases sorted with ⟨message, rfl, rfl⟩ | ⟨_, rfl, rfl⟩ | ⟨_, rfl, _, rfl⟩ | ⟨reason, cause, rfl⟩ |
    ⟨rfl, rfl⟩
  · refine .apart ?_ rfl rfl (Nat.le_refl _) queue nofun
    have moved := List.perm_append_singleton (message.source, message.payload)
      { engine with mailbox := rest }.letters
    rw [letters]
    refine moved.symm.trans (.of_eq ?_)
    rw [Engine.letters, Engine.letters, List.map_append, List.append_assoc]
    rfl
  · exact .apart (letters ▸ .refl _) rfl rfl (Nat.le_refl _) queue nofun
  · exact .apart (letters ▸ .refl _) rfl rfl (Nat.le_refl _) queue nofun
  · have other : letter? event = none := by
      cases event with
      | message message => cases cause
      | membership _ | submit _ _ _ | endSubmissions | shutdown => rfl
    rw [other] at letters
    exact .apart (letters ▸ .refl _) rfl rfl (Nat.le_refl _) queue nofun
  · exact .apart (letters ▸ .refl _) rfl rfl (Nat.le_refl _) queue nofun

/-- The oldest message is the first letter, once every event is accepted. -/
private theorem letters_of_inbound {message : Message} {rest : List Message}
    (accepted : engine.mailbox = []) (arrived : engine.inbound = message :: rest) :
    engine.letters =
      (message.source, message.payload) :: { engine with inbound := rest }.letters := by
  unfold letters
  rw [accepted, arrived]
  rfl

/-- A completion strikes its request, or it is stale. -/
private theorem traffic_complete {engine arrived : Engine} {worker : NodeId} {request : RequestId}
    {result : Bytes} {failed : Bool} {seconds : Float}
    (master : engine.scheduler.isMaster = true)
    (executes : engine.executes = arrived.executes)
    (completions : engine.completions = (worker, request) :: arrived.completions)
    (ledger : arrived.ledger = engine.ledger) (jobs : arrived.jobIds = engine.jobIds)
    (queue : arrived.scheduler.queue = engine.scheduler.queue) :
    Traffic engine (arrived.complete worker request result failed seconds).value
      (.handled ⟨worker, .completed request result failed seconds⟩ ::
        Effect.deeds (arrived.complete worker request result failed seconds).effects) := by
  have answer := arrived.complete_cases worker request result failed seconds
  generalize arrived.complete worker request result failed seconds = act at answer ⊢
  obtain ⟨state, effects⟩ := act
  rcases answer with ⟨records, missing, rfl, deeds⟩ |
    ⟨before, struck, later, records, subscribers, told, active, named, reported, rfl, deeds⟩
  · rw [deeds]
    exact .stale worker request master executes.symm (completions ▸ .refl _) rfl (ledger ▸ missing)
  · obtain ⟨dealt, accepted, _⟩ := Effect.aside reported.aside
    rw [deeds]
    subst named
    refine .resolves worker struck before later master executes.symm (completions ▸ .refl _)
      ?_ ?_ ?_ ?_ jobs queue ?_ ?_
    · rw [← ledger]
      exact Ledger.requests_of_get? active
    · rw [← ledger]
      funext other
      rw [Ledger.requests_of_insert rfl]
      rfl
    · rw [← ledger]
      refine Ledger.isDeparted_of_insert_open rfl rfl ?_
      rw [Ledger.isDeparted_eq, active]
      rfl
    · rw [← ledger]
    · exact accepted
    · exact congrArg (_ :: _ :: ·) dealt

private theorem traffic_handle {message : Message} {rest : List Message}
    (accepted : engine.mailbox = []) (arrived : engine.inbound = message :: rest) :
    let act := { engine with inbound := rest }.handle message
    Traffic engine act.value act.effects := by
  have letters := letters_of_inbound accepted arrived
  have part := handle_cases { engine with inbound := rest } message
  generalize { engine with inbound := rest }.handle message = act at part ⊢
  obtain ⟨state, effects⟩ := act
  obtain ⟨source, payload⟩ := message
  have executes : engine.executes = asks [(source, payload)] ++
      { engine with inbound := rest }.executes := by
    have split := asks_append [(source, payload)] { engine with inbound := rest }.letters
    rw [Engine.executes, Engine.executes, letters, ← List.append_assoc, ← split]
    rfl
  have completions : engine.completions = reports [(source, payload)] ++
      { engine with inbound := rest }.completions := by
    rw [Engine.completions, Engine.completions, letters]
    exact reports_append [(source, payload)] _
  have queue : ∀ submission ∈ engine.scheduler.queue,
      submission ∈ engine.scheduler.queue ∨ submission.id = engine.jobIds.next :=
    fun _ member => .inl member
  refine .of_deeds ?_
  rcases part with ⟨request, job, input, rfl, worker, rfl, deeds⟩ |
    ⟨request, result, failed, seconds, rfl, master, value, deeds⟩ | ⟨rfl, master, rfl, deeds⟩ |
    ⟨reporting, asking, rfl, deeds⟩
  · rw [deeds]
    refine .waits ⟨[], ?_⟩ ⟨[], ?_, fun _ _ => rfl⟩ rfl rfl rfl (Nat.le_refl _) queue
      (List.forall_mem_nil _) (List.forall_mem_nil _)
    · rw [executes]
      have moved := List.perm_append_singleton (source, request)
        { engine with inbound := rest }.executes
      let item : WorkRequest := ⟨source, request, job, input⟩
      have last : (engine.work ++ [item]).map origin =
          engine.work.map origin ++ [(source, request)] := List.map_append
      refine moved.symm.trans (.of_eq ?_)
      show asks _ ++ _ ++ [(source, request)] = asks _ ++ List.map origin (engine.work ++ [item])
      rw [last, List.append_assoc]
      rfl
    · rw [completions]
      exact .refl _
  · rw [deeds, value]
    exact traffic_complete master executes completions rfl rfl rfl
  · obtain ⟨requests, closed, ids⟩ := engine.ledger.books_register source
    have same := (engine.scheduler.queue_join source).1
    rw [deeds]
    refine .waits ⟨[], ?_⟩ ⟨[], ?_, fun _ _ => rfl⟩ requests closed ids (Nat.le_refl _) ?_
      (List.forall_mem_nil _) (List.forall_mem_nil _)
    · rw [executes]
      exact .refl _
    · rw [completions]
      exact .refl _
    · show ∀ submission ∈ (engine.scheduler.join source).value.queue, _
      rw [same]
      exact queue
  · rw [deeds]
    refine .waits ⟨_, .of_eq executes⟩ ⟨_, .of_eq completions, ?_⟩ rfl rfl rfl (Nat.le_refl _)
      queue (List.forall_mem_nil _) ?_
    · intro master _
      cases payload with
      | completed request result failed seconds =>
        cases (reporting request result failed seconds rfl).symm.trans master
      | execute _ _ _ | register => rfl
    · intro deal member
      cases payload with
      | completed request result failed seconds =>
        exact ⟨reporting request result failed seconds rfl, source, request,
          List.mem_singleton.mp member⟩
      | execute _ _ _ | register => cases member

/-- A departure concerns no request but through the ledger. -/
private theorem asides_depart (engine : Engine) (node : NodeId) :
    ∀ effect ∈ Effect.deeds (engine.depart node).effects, effect.isAside = true := by
  intro effect member
  rcases engine.depart_cases node with ⟨_, _, _, _, told, reported, _, deeds⟩ |
    ⟨_, _, _, told, reported, _, _, deeds⟩
  · rw [deeds] at member
    rcases List.mem_append.mp member with early | late
    · rcases List.mem_cons.mp early with rfl | queued
      · rfl
      · obtain ⟨submission, _, rfl⟩ := List.mem_map.mp queued
        rfl
    · exact reported.aside effect late
  · rw [deeds] at member
    rcases List.mem_cons.mp member with rfl | late
    · rfl
    · exact reported.aside effect late

private theorem traffic_depart {node : NodeId} {rest : List NodeId}
    (accepted : engine.mailbox = []) (handled : engine.inbound = [])
    (arrived : engine.departed = node :: rest) :
    let act := { engine with departed := rest }.depart node
    Traffic engine act.value act.effects := by
  have unread : engine.completions = [] := by
    rw [completions, letters, accepted, handled]
    rfl
  have asides := asides_depart { engine with departed := rest } node
  have part := depart_cases { engine with departed := rest } node
  generalize { engine with departed := rest }.depart node = act at asides part ⊢
  obtain ⟨state, effects⟩ := act
  refine .of_deeds ?_
  rcases part with ⟨master, departed, records, subscribers, told, reported, rfl, _⟩ |
    ⟨_, role, subscribers, told, reported, _, rfl, _⟩
  · obtain ⟨deals, sent, _⟩ := Effect.aside asides
    have entered : (engine.ledger.close node).accounts =
      engine.ledger.accounts.insert node .closed := rfl
    refine .closes node master ?_ rfl unread rfl ?_ ?_ rfl rfl ?_ sent deals
    · rw [departures, accepted, arrived]
      exact List.mem_cons_self
    · funext other
      exact Ledger.requests_of_insert entered other
    · funext other
      exact Ledger.isDeparted_of_insert entered other
    · intro submission member
      refine (List.mem_append.mp member).imp_right fun returned => ?_
      obtain ⟨original, taken, rfl⟩ := List.mem_map.mp returned
      obtain ⟨request, listed, rfl⟩ := List.mem_map.mp (List.mem_filter.mp taken).1
      exact ⟨request, listed, rfl⟩
  · exact .apart (.refl _) rfl rfl (Nat.le_refl _) (fun _ member => .inl member) asides

private theorem traffic_arrive {node : NodeId} {rest : List NodeId} :
    let act := { engine with joined := rest }.arrive node
    Traffic engine act.value act.effects := by
  have part := arrive_cases { engine with joined := rest } node
  generalize { engine with joined := rest }.arrive node = act at part ⊢
  obtain ⟨state, effects⟩ := act
  have queue : ∀ submission ∈ engine.scheduler.queue,
      submission ∈ engine.scheduler.queue ∨ submission.id = engine.jobIds.next :=
    fun _ member => .inl member
  refine .of_deeds ?_
  rcases part with ⟨_, rfl, deeds⟩ | ⟨_, rfl, deeds⟩
  · rw [deeds]
    exact .apart (.refl _) rfl rfl (Nat.le_refl _) queue nofun
  · rw [deeds]
    refine .apart (.refl _) rfl rfl (Nat.le_refl _) ?_ ?_
    · rw [(engine.scheduler.queue_join node).1]
      exact queue
    · intro effect member
      rw [List.mem_singleton.mp member]
      rfl

private theorem traffic_dispatch :
    Traffic engine engine.dispatch.value.1 engine.dispatch.effects := by
  refine .of_deeds ?_
  rcases engine.dispatch_cases with ⟨rule, records, value, deeds⟩ |
    ⟨submission, rest, worker, requests, id, source, rule, records, _, master, queued, active,
      taken, value, deeds⟩
  · rw [value, deeds]
    exact .apart (.refl _) rfl rfl (Nat.le_refl _) (fun _ member => .inl member) nofun
  · obtain ⟨rfl, following⟩ := IdSource.take_next taken
    have registered : engine.ledger.isDeparted worker = false := by
      rw [Ledger.isDeparted_eq, active]
      rfl
    rw [value, deeds]
    refine .issues worker submission master rfl rfl ?_ ?_ registered following rfl queued ?_ ?_ rfl
    · funext other
      rw [Ledger.requests_of_insert rfl, Ledger.requests_of_get? active]
      rfl
    · exact Ledger.isDeparted_of_insert_open rfl rfl registered
    · cases engine.link.refusal with
      | none => exact .inl rfl
      | some fault => exact .inr rfl
    · cases engine.link.refusal <;> rfl

private theorem traffic_execute {request : WorkRequest} {rest : List WorkRequest}
    (queued : engine.work = request :: rest) :
    let act := { engine with work := rest }.execute request
    Traffic engine act.value act.effects := by
  obtain ⟨value, deeds⟩ := execute_eq { engine with work := rest } request
  generalize { engine with work := rest }.execute request = act at value deeds ⊢
  obtain ⟨state, effects⟩ := act
  subst value
  refine .of_deeds ?_
  rw [deeds]
  refine .runs request.source request.request ?_ rfl rfl rfl rfl rfl rfl ?_ ?_ ?_
  · rw [executes, queued]
    exact List.perm_middle
  · cases engine.linked <;> cases engine.link.refusal <;> rfl
  · cases engine.linked <;> cases engine.link.refusal <;> rfl
  · cases engine.linked <;> rfl

/-- An engine that is gone loses the letters in its mailbox. -/
private theorem traffic_ending {ending : List Effect} {tickets : List Ticket}
    (mailbox : next.mailbox = []) (inbound : next.inbound = engine.inbound)
    (work : next.work = engine.work) (ledger : next.ledger = engine.ledger)
    (jobs : next.jobIds = engine.jobIds) (queue : next.scheduler.queue = engine.scheduler.queue)
    (gone : next.isGone = true) (dealt : Effect.deals ending = [])
    (sent : Effect.accepted ending = [])
    (deeds : Effect.deeds effects =
      ending ++ tickets.map fun ticket => .answered ticket (.error .engineStopped)) :
    Traffic engine next effects := by
  have kept : engine.letters = engine.mailbox.filterMap letter? ++ next.letters := by
    rw [letters, letters, mailbox, inbound]
    rfl
  have asides : ∀ effect ∈ tickets.map fun ticket =>
      Effect.answered ticket (.error .engineStopped), effect.isAside = true := by
    intro effect member
    obtain ⟨ticket, _, rfl⟩ := List.mem_map.mp member
    rfl
  obtain ⟨quiet, unsent, _⟩ := Effect.aside asides
  refine .of_deeds ?_
  rw [deeds]
  refine .waits ⟨asks (engine.mailbox.filterMap letter?), ?_⟩
    ⟨reports (engine.mailbox.filterMap letter?), ?_, ?_⟩ (by rw [ledger]) (by rw [ledger])
    (by rw [ledger]) (Nat.le_of_eq (by rw [jobs])) ?_ ?_ ?_
  · rw [executes, executes, kept, work, asks_append, List.append_assoc]
  · rw [completions, completions, kept, reports_append]
  · intro _ alive
    cases gone.symm.trans alive
  · rw [queue]
    exact fun _ member => .inl member
  · rw [Effect.accepted_append, sent, unsent]
    exact List.forall_mem_nil _
  · rw [Effect.deals_append, dealt, quiet]
    exact List.forall_mem_nil _

private theorem traffic_finish (orderly : engine.Orderly) (alive : engine.isGone = false)
    (reason : StopReason) :
    Traffic engine (engine.requestStop reason).finish.value
      (engine.requestStop reason).finish.effects := by
  obtain ⟨value, deeds⟩ := (engine.requestStop reason).finish_eq (orderly.phase alive)
  rw [value]
  refine traffic_ending rfl rfl rfl rfl rfl rfl rfl ?_ ?_ deeds
  · cases (engine.requestStop reason).linked <;> rfl
  · cases (engine.requestStop reason).linked <;> rfl

private theorem traffic_start (linked : engine.linked = true) :
    Traffic engine engine.start.value engine.start.effects := by
  obtain ⟨value, deeds⟩ := engine.start_eq
  refine .of_deeds ?_
  rw [value, deeds, linked]
  cases engine.scheduler.role with
  | master => exact .apart (.refl _) rfl rfl (Nat.le_refl _) (fun _ member => .inl member) nofun
  | worker master gone =>
    refine .waits ⟨[], .refl _⟩ ⟨[], .refl _, fun _ _ => rfl⟩ rfl rfl rfl (Nat.le_refl _)
      (fun _ member => .inl member) ?_ nofun
    intro letter member
    cases refusal : engine.link.refusal.isNone with
    | true =>
      rw [refusal] at member
      rw [List.mem_singleton.mp member]
    | false =>
      rw [refusal] at member
      cases member

end Moves

/-- **Every move takes part in one of the six ways.** -/
theorem Move.traffic {engine : Engine} {act : Act Engine} (orderly : engine.Orderly)
    (move : Move engine act) : Traffic engine act.value act.effects := by
  have queue : ∀ submission ∈ engine.scheduler.queue,
      submission ∈ engine.scheduler.queue ∨ submission.id = engine.jobIds.next :=
    fun _ member => .inl member
  cases move with
  | start created => exact traffic_start (orderly.linked (Move.start created).alive)
  | accept alive arrived => exact traffic_accept arrived
  | cutOff alive empty connected => exact .apart (.refl _) rfl rfl (Nat.le_refl _) queue nofun
  | measure alive => exact .apart (.refl _) rfl rfl (Nat.le_refl _) queue nofun
  | handle alive accepted arrived => exact traffic_handle accepted arrived
  | depart alive running accepted handled arrived =>
    exact traffic_depart accepted handled arrived
  | arrive alive => exact traffic_arrive
  | dispatch alive => exact traffic_dispatch
  | run alive running queued => exact traffic_execute queued
  | turn alive ongoing silent =>
    refine .of_deeds ?_
    rw [silent]
    exact .apart (.refl _) rfl rfl (Nat.le_refl _) queue nofun
  | finish alive stopped =>
    have ended := traffic_finish orderly alive .shutdownRequested
    rw [requestStop_of_stopped engine _ stopped] at ended
    exact ended
  | conclude alive running idle done => exact traffic_finish orderly alive _
  | @breakDown cause alive =>
    obtain ⟨value, deeds⟩ := engine.breakDown_eq cause alive
    have ending : [Effect.brokeDown cause] ++ engine.openTickets.map
        (fun ticket => Effect.answered ticket (.error .engineStopped)) =
      .brokeDown cause :: engine.openTickets.map
        (fun ticket => Effect.answered ticket (.error .engineStopped)) := rfl
    rw [value]
    exact traffic_ending rfl rfl rfl rfl rfl rfl rfl rfl rfl (deeds.trans ending.symm)

/-- **Only the master asks.** -/
theorem Traffic.unasking {engine next : Engine} {effects : List Effect}
    (traffic : Traffic engine next effects) (worker : engine.scheduler.isMaster = false) :
    asks (Effect.accepted effects) = [] := by
  cases traffic with
  | waits executes completions requests closed ids jobs queue sent =>
    exact (asks_of_register sent).1
  | issues _ _ master | resolves _ _ _ _ master | stale _ _ master | closes _ master =>
    cases worker.symm.trans master
  | runs source request executes completions requests closed ids jobs queue unasked => exact unasked

/-- No move brings a request that was not there. -/
theorem Traffic.executes_subset {engine next : Engine} {effects : List Effect}
    (traffic : Traffic engine next effects) : next.executes ⊆ engine.executes := by
  cases traffic with
  | waits executes =>
    obtain ⟨lost, split⟩ := executes
    exact fun ask member => split.symm.subset (List.mem_append_right lost member)
  | issues _ _ _ executes | resolves _ _ _ _ _ executes | stale _ _ _ executes
  | closes _ _ _ executes =>
    rw [executes]
    exact List.Subset.refl _
  | runs source request executes =>
    exact fun ask member => executes.symm.subset (List.mem_cons_of_mem _ member)

/-- No move brings a completion that was not there. -/
theorem Traffic.completions_subset {engine next : Engine} {effects : List Effect}
    (traffic : Traffic engine next effects) : next.completions ⊆ engine.completions := by
  cases traffic with
  | waits _ completions =>
    obtain ⟨lost, split, _⟩ := completions
    exact fun report member => split.symm.subset (List.mem_append_right lost member)
  | issues _ _ _ _ completions | closes _ _ _ _ _ completions | runs _ _ _ completions =>
    rw [completions]
    exact List.Subset.refl _
  | resolves _ _ _ _ _ _ completions | stale _ _ _ _ completions =>
    exact fun report member => completions.symm.subset (List.mem_cons_of_mem _ member)

/-! ### What no move changes -/

/-- **A move leaves its engine the node and the link that it has**, announces no departure, and
closes the link only with the end of the run. -/
structure Frame (engine next : Engine) (effects : List Effect) : Prop where
  node : next.node = engine.node
  link : next.link = engine.link
  isMaster : next.scheduler.isMaster = engine.scheduler.isMaster
  departures : ∀ node ∈ next.departures, node ∈ engine.departures
  closes : Effect.closes effects = true → next.isGone = true

section Frames

variable {engine next : Engine} {effects : List Effect}

/-- An operation of a pass leaves the engine what it is and the link open. -/
private theorem Steady.frame {before : Engine} (steady : before.Steady next)
    (node : before.node = engine.node) (link : before.link = engine.link)
    (isMaster : before.scheduler.isMaster = engine.scheduler.isMaster)
    (departures : ∀ node ∈ next.departures, node ∈ engine.departures)
    (unclosed : Effect.closes effects = false) : Frame engine next effects :=
  ⟨steady.node.trans node, steady.link.trans link, steady.isMaster.trans isMaster, departures,
    fun closed => by cases unclosed.symm.trans closed⟩

/-- The same arrivals announce the same departures. -/
private theorem SameArrivals.departures (same : engine.SameArrivals next) :
    next.departures = engine.departures := by
  rw [Engine.departures, Engine.departures, same.mailbox, same.departed]

private theorem closes_of_deeds {deeds : List Effect} (told : Effect.deeds effects = deeds)
    (unclosed : Effect.closes deeds = false) : Effect.closes effects = false := by
  rw [← Effect.closes_deeds, told, unclosed]

private theorem closes_accept (engine : Engine) (event : Event) :
    Effect.closes (engine.accept event).effects = false := by
  rcases engine.accept_cases event with ⟨ticket, job, input, _, taken⟩ | ⟨silent, _⟩
  · rw [taken]
    rcases engine.submit_cases ticket job input with
      ⟨_, _, _, _, _, deeds⟩ | ⟨_, _, _, _, _, _, deeds⟩
    · exact closes_of_deeds deeds rfl
    · exact closes_of_deeds deeds rfl
  · exact closes_of_deeds silent rfl

private theorem closes_handle (engine : Engine) (message : Message) :
    Effect.closes (engine.handle message).effects = false := by
  rcases engine.handle_cases message with
    ⟨_, _, _, _, _, _, deeds⟩ | ⟨request, result, failed, seconds, _, _, _, deeds⟩ |
    ⟨_, _, _, deeds⟩ | ⟨_, _, _, deeds⟩
  · exact closes_of_deeds deeds rfl
  · refine closes_of_deeds deeds ?_
    rcases complete_cases { engine with messages := engine.messages + 1 } message.source request
      result failed seconds with ⟨_, _, _, told⟩ | ⟨_, _, _, _, _, told, _, _, reported, _, answer⟩
    · rw [told]
      rfl
    · rw [answer]
      exact (Effect.aside reported.aside).2.2
  · exact closes_of_deeds deeds rfl
  · exact closes_of_deeds deeds rfl

/-- The departures of a mailbox that starts with an event. -/
private theorem departures_of_arrived {event : Event} {rest : List Event}
    (arrived : engine.mailbox = event :: rest) :
    engine.departures =
      (departure? event).toList ++ { engine with mailbox := rest }.departures := by
  unfold departures
  rw [arrived]
  cases event with
  | membership change => cases change <;> rfl
  | message _ | submit _ _ _ | endSubmissions | shutdown => rfl

private theorem departures_accept {event : Event} {rest : List Event}
    (arrived : engine.mailbox = event :: rest) :
    ∀ node ∈ ({ engine with mailbox := rest }.accept event).value.departures,
      node ∈ engine.departures := by
  intro node heard
  rw [departures_of_arrived arrived]
  rcases accept_cases { engine with mailbox := rest } event with
    ⟨ticket, job, input, _, taken⟩ | ⟨_, ⟨_, _, value⟩ | ⟨_, _, value⟩ | ⟨other, rfl, _, value⟩ |
      ⟨_, _, value⟩ | ⟨_, value⟩⟩
  · rw [taken, (submit_same _ ticket job input).departures] at heard
    exact List.mem_append_right _ heard
  · rw [value] at heard
    exact List.mem_append_right _ heard
  · rw [value] at heard
    exact List.mem_append_right _ heard
  · rw [value] at heard
    have heard : node ∈ rest.filterMap departure? ++ (engine.departed ++ [other]) := heard
    rw [← List.append_assoc] at heard
    exact List.mem_append.mpr (List.mem_append.mp heard).symm
  · rw [value] at heard
    exact List.mem_append_right _ heard
  · rw [value] at heard
    exact List.mem_append_right _ heard

end Frames

/-- **No move changes what its engine is**, and only the end of a run closes the link. -/
theorem Move.frame {engine : Engine} {act : Act Engine} (orderly : engine.Orderly)
    (move : Move engine act) : Frame engine act.value act.effects := by
  have ending : ∀ reason, Frame engine (engine.requestStop reason).finish.value
      (engine.requestStop reason).finish.effects := by
    intro reason
    obtain ⟨value, _⟩ := (engine.requestStop reason).finish_eq (orderly.phase move.alive)
    rw [value]
    exact ⟨rfl, rfl, rfl, fun _ heard => List.mem_append_right _ heard, fun _ => rfl⟩
  cases move with
  | start created =>
    obtain ⟨value, deeds⟩ := engine.start_eq
    rw [value]
    refine ⟨rfl, rfl, rfl, fun _ heard => heard, fun closed => ?_⟩
    rw [← Effect.closes_deeds, deeds] at closed
    cases role : engine.scheduler.role with
    | master =>
      rw [role] at closed
      cases closed
    | worker master gone =>
      rw [role] at closed
      cases held : engine.linked with
      | true =>
        rw [held] at closed
        cases closed
      | false =>
        rw [held] at closed
        cases closed
  | @accept event rest alive arrived =>
    exact (steady_accept _ event).frame rfl rfl rfl (departures_accept arrived)
      (closes_accept _ event)
  | cutOff alive empty connected => exact ⟨rfl, rfl, rfl, fun _ heard => heard, nofun⟩
  | measure alive => exact ⟨rfl, rfl, rfl, fun _ heard => heard, nofun⟩
  | @handle message rest alive accepted arrived =>
    refine (steady_handle _ message).frame rfl rfl rfl ?_ (closes_handle _ message)
    rw [(handle_same _ message).departures]
    exact fun _ heard => heard
  | @depart node rest alive running accepted handled arrived =>
    have asides := asides_depart { engine with departed := rest } node
    refine (steady_depart _ node).frame rfl rfl rfl ?_
      (closes_of_deeds rfl (Effect.aside asides).2.2)
    rw [(depart_same _ node).departures, departures, departures, arrived]
    intro other heard
    exact (List.mem_append.mp heard).elim (List.mem_append_left _)
      fun later => List.mem_append_right _ (List.mem_cons_of_mem node later)
  | @arrive node rest alive running accepted handled departed arrived =>
    refine (steady_arrive _ node).frame rfl rfl rfl ?_ ?_
    · rw [(arrive_same _ node).departures]
      exact fun _ heard => heard
    · rcases arrive_cases { engine with joined := rest } node with ⟨_, _, deeds⟩ | ⟨_, _, deeds⟩
      · exact closes_of_deeds deeds rfl
      · exact closes_of_deeds deeds rfl
  | dispatch alive =>
    refine engine.steady_dispatch.frame rfl rfl rfl ?_ ?_
    · rw [engine.dispatch_same.departures]
      exact fun _ heard => heard
    · rcases engine.dispatch_cases with ⟨_, _, _, deeds⟩ |
        ⟨_, _, _, _, _, _, _, _, _, _, _, _, _, _, deeds⟩
      · exact closes_of_deeds deeds rfl
      · exact closes_of_deeds deeds rfl
  | @run request rest alive running queued =>
    refine (steady_execute _ request).frame rfl rfl rfl ?_ ?_
    · rw [(execute_same _ request).departures]
      exact fun _ heard => heard
    · have deeds := (execute_eq { engine with work := rest } request).2
      refine closes_of_deeds deeds ?_
      cases engine.linked <;> rfl
  | turn alive ongoing silent =>
    refine ⟨rfl, rfl, rfl, fun _ heard => heard, fun closed => ?_⟩
    rw [← Effect.closes_deeds, silent] at closed
    cases closed
  | finish alive stopped =>
    have ended := ending .shutdownRequested
    rw [requestStop_of_stopped engine _ stopped] at ended
    exact ended
  | conclude alive running idle done => exact ending engine.naturalReason
  | @breakDown cause alive =>
    obtain ⟨value, _⟩ := engine.breakDown_eq cause alive
    rw [value]
    exact ⟨rfl, rfl, rfl, fun _ heard => List.mem_append_right _ heard, fun _ => rfl⟩

end Engine

end JobPool
