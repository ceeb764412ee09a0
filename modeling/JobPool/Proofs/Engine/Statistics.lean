/-
**The statistics of a master.**

The records of the workers count requests and completions, the ledger lists the requests that are
outstanding, and the forecasters count their samples. The scheduler and the ledger do not call one
another for it, and messages may come twice, late, or from anybody. Every move of a master is a
reckoning, so its figures agree with its history in every state.

A worker that has departed is still learned from, and then nothing tells the first completion of a
request from the next one: every completion that arrives counts.

* `Engine.figures`, `Move.reckons`, `Stride.reckons` — the figures of a master, and what its steps
  do to them;
* `Reckoned` — the figures agree with the history;
* `Session.statistics_balanced` — requests, completions, failures and samples of all workers;
* `Session.completions_counted` — which completions count, and when they exceed the requests.
-/

import JobPool.Proofs.Engine.Registrations
import JobPool.Proofs.Reckonings

namespace JobPool

/-! ### Figures -/

/-- The identities of the requests of a worker, in the order of their issue. -/
def Ledger.outstandingIds (ledger : Ledger) (worker : NodeId) : List RequestId :=
  (ledger.requests worker).map Request.id

theorem Ledger.outstandingIds_of_insert {ledger after : Ledger} {worker : NodeId}
    {account : Account} (entered : after.accounts = ledger.accounts.insert worker account) :
    after.outstandingIds = fun other =>
      if other = worker then account.requests.map Request.id else ledger.outstandingIds other := by
  funext other
  rw [outstandingIds, requests_of_insert entered]
  split <;> rfl

namespace Engine

/-- What the master counts. -/
def figures (engine : Engine) : Figures where
  tally? := engine.scheduler.tally?
  outstanding := engine.ledger.outstandingIds
  isDeparted := engine.ledger.isDeparted
  next := engine.ledger.requestIds.next

/-- The forecasters learn from failures. -/
def learns (engine : Engine) : Bool := engine.scheduler.policy.learnFromFailures

/-- What a step of the master does to its figures. -/
def Reckons (engine next : Engine) (effects : List Effect) : Prop :=
  Reckoning engine.learns engine.figures next.figures (Effect.marks effects)

section Moves

variable {engine next : Engine} {effects : List Effect}

/-- A step is told by its marks. -/
private theorem Reckons.of_eq {figures : Figures} {marks : List Effect}
    (reckoning : Reckoning engine.learns engine.figures figures marks)
    (same : next.figures = figures) (told : Effect.marks effects = marks) :
    Reckons engine next effects := by
  subst same told
  exact reckoning

/-- A step without marks that leaves the records and the ledger as they are. -/
private theorem Reckons.rests (records : next.scheduler.records = engine.scheduler.records)
    (ledger : next.ledger = engine.ledger) (unmarked : Effect.marks effects = []) :
    Reckons engine next effects := by
  refine .of_eq .rests ?_ unmarked
  have tally? : next.scheduler.tally? = engine.scheduler.tally? := by
    funext worker
    rw [Scheduler.tally?, Scheduler.tally?, records]
  rw [figures, figures, tally?, ledger]

private theorem reckons_accept (event : Event) :
    Reckons engine (engine.accept event).value (engine.accept event).effects := by
  rcases engine.accept_cases event with ⟨ticket, job, input, _, taken⟩ | ⟨silent, sorted⟩
  · rw [taken]
    rcases engine.submit_cases ticket job input with
      ⟨_, _, _, _, value, deeds⟩ | ⟨_, _, _, _, _, value, deeds⟩
    all_goals
      rw [value]
      exact .rests rfl rfl (Effect.marks_of_deeds deeds)
  · have unmarked := Effect.marks_of_deeds silent
    rcases sorted with ⟨_, _, value⟩ | ⟨_, _, value⟩ | ⟨_, _, _, value⟩ | ⟨_, _, value⟩ |
      ⟨_, value⟩
    all_goals
      rw [value]
      exact .rests rfl rfl unmarked

/-- A submitter that is told is not counted. -/
private theorem marks_notify (engine : Engine) (job : JobId) (outcome : Outcome) :
    Effect.marks (engine.notify job outcome).effects = [] := by
  unfold notify
  split
  · rfl
  · rw [Traced.effects_bind]
    split <;> rfl

section Completions

variable (engine : Engine) (worker : NodeId) (request : RequestId) (result : Bytes)
  (failed : Bool) (seconds : Float)

/-- **A completion counts if it strikes a request or its worker has departed.** -/
private theorem books_complete :
    let act := engine.complete worker request result failed seconds
    let resolved := (engine.ledger.resolve worker request failed).value
    act.value.ledger = resolved.2 ∧
      act.value.scheduler =
        (if resolved.1.isSome || resolved.2.isDeparted worker then
          (engine.scheduler.complete worker seconds failed).value
        else engine.scheduler) ∧
      Effect.marks act.effects = [.resolved worker request resolved.1.isSome] := by
  intro act resolved
  have silent := Effect.marks_of_deeds (engine.ledger.resolve_cases worker request failed).1
  have quiet := Effect.marks_of_deeds (engine.scheduler.complete_eq worker seconds failed).1
  simp only [act, complete, Traced.value_bind, Traced.effects_bind, Effect.marks_append, silent]
  change _ ∧ _ ∧ _ = [Effect.resolved worker request resolved.1.isSome]
  cases resolved.1 with
  | none =>
    cases resolved.2.isDeparted worker with
    | true =>
      refine ⟨rfl, rfl, ?_⟩
      simp only [if_true, Traced.effects_bind, Effect.marks_append, quiet]
      rfl
    | false => exact ⟨rfl, rfl, rfl⟩
  | some submission =>
    simp only [Traced.value_bind, Traced.effects_bind, Effect.marks_append, quiet, marks_notify]
    exact ⟨(notify_books _ _ _).2, (notify_books _ _ _).1, rfl⟩

private theorem reckons_complete :
    let act := engine.complete worker request result failed seconds
    Reckons engine act.value act.effects := by
  intro act
  obtain ⟨ledger, scheduler, told⟩ :=
    books_complete engine worker request result failed seconds
  have counted := engine.scheduler.tally?_complete worker seconds failed
  rcases (engine.ledger.resolve_cases worker request failed).2 with
    ⟨ignored, _⟩ | ⟨before, struck, later, active, named, resolved⟩
  · rw [ignored] at ledger scheduler told
    cases departed : engine.ledger.isDeparted worker with
    | true =>
      have same : act.value.figures = { engine.figures with
          tally? := (engine.scheduler.complete worker seconds failed).value.tally? } := by
        rw [figures, ledger, scheduler, departed]
        rfl
      rw [counted] at same
      exact .of_eq (.trails departed) same told
    | false =>
      have same : act.value.figures = engine.figures := by
        rw [figures, ledger, scheduler, departed]
        rfl
      exact .of_eq (.ignores departed) same told
  · rw [resolved] at ledger scheduler told
    have listed : engine.ledger.requests worker = before ++ struck :: later :=
      Ledger.requests_of_get? active
    have present : engine.ledger.isDeparted worker = false := by
      rw [Ledger.isDeparted_eq, active]
      rfl
    have strikes : engine.ledger.outstandingIds worker =
        before.map Request.id ++ request :: later.map Request.id := by
      rw [Ledger.outstandingIds, listed, List.map_append, List.map_cons, named]
    have entered : act.value.ledger.accounts =
        engine.ledger.accounts.insert worker (.active (before ++ later)) := by rw [ledger]
    refine .of_eq (@Reckoning.strikes _ engine.figures _ _ _ _ failed strikes present)
      (Figures.ext ?_ ?_ ?_ ?_) told
    · show act.value.scheduler.tally? = _
      rw [scheduler]
      exact counted
    · rw [← List.map_append]
      exact Ledger.outstandingIds_of_insert entered
    · exact Ledger.isDeparted_of_insert_open entered rfl present
    · show act.value.ledger.requestIds.next = _
      rw [ledger]
      rfl

end Completions

/-- A worker that is admitted has not departed, so its numbers begin without a history. -/
private theorem reckons_join {worker : NodeId} (admitted : engine.scheduler.Admits worker →
      engine.ledger.isDeparted worker = false)
    (scheduler : next.scheduler = (engine.scheduler.join worker).value)
    (requests : next.ledger.requests = engine.ledger.requests)
    (isDeparted : next.ledger.isDeparted = engine.ledger.isDeparted)
    (requestIds : next.ledger.requestIds = engine.ledger.requestIds)
    (unmarked : Effect.marks effects = []) : Reckons engine next effects := by
  have outstanding : next.ledger.outstandingIds = engine.ledger.outstandingIds := by
    funext other
    rw [Ledger.outstandingIds, Ledger.outstandingIds, requests]
  have same : next.figures =
      { engine.figures with tally? := (engine.scheduler.join worker).value.tally? } := by
    rw [figures, scheduler, outstanding, isDeparted, requestIds]
    rfl
  rcases engine.scheduler.tally?_join worker with ⟨_, kept⟩ | ⟨admits, counted⟩
  · rw [kept] at same
    exact .of_eq .rests same unmarked
  · rw [counted] at same
    exact .of_eq (.joins admits.tally? (admitted admits)) same unmarked

private theorem reckons_handle (engine : Engine) (admitted : ∀ worker,
      engine.scheduler.Admits worker → engine.ledger.isDeparted worker = false)
    (message : Message) :
    Reckons engine (engine.handle message).value (engine.handle message).effects := by
  rcases engine.handle_cases message with
    ⟨_, _, _, _, _, value, deeds⟩ | ⟨request, result, failed, seconds, _, _, value, deeds⟩ |
    ⟨_, _, value, deeds⟩ | ⟨_, _, value, deeds⟩
  · rw [value]
    exact .rests rfl rfl (Effect.marks_of_deeds deeds)
  · have completed := reckons_complete { engine with messages := engine.messages + 1 }
      message.source request result failed seconds
    rw [value]
    refine .of_eq completed rfl ?_
    rw [Effect.marks_of_deeds deeds, ← Effect.marks_deeds (complete ..).effects]
    rfl
  · obtain ⟨requests, isDeparted, requestIds⟩ := engine.ledger.books_register message.source
    rw [value]
    exact reckons_join (admitted message.source) rfl requests isDeparted requestIds
      (Effect.marks_of_deeds deeds)
  · rw [value]
    exact .rests rfl rfl (Effect.marks_of_deeds deeds)

private theorem reckons_depart (engine : Engine) (master : engine.scheduler.isMaster = true)
    (node : NodeId) :
    Reckons engine (engine.depart node).value (engine.depart node).effects := by
  obtain ⟨scheduler, ledger⟩ := engine.books_depart node master
  have told : Effect.marks (engine.depart node).effects = [.applied (.departed node)] := by
    rcases engine.depart_exact node with ⟨_, _, _, _, deeds⟩ | ⟨worker, _⟩
    · rw [Effect.marks_of_deeds deeds, List.cons_append]
      refine congrArg (_ :: ·) (List.filter_eq_nil_iff.mpr fun effect member => ?_)
      rcases List.mem_append.mp member with queued | answered
      · obtain ⟨submission, _, rfl⟩ := List.mem_map.mp queued
        exact Bool.false_ne_true
      · obtain ⟨ticket, outcome, _, rfl⟩ := mem_tellings answered
        exact Bool.false_ne_true
    · cases master.symm.trans worker
  have returned : (engine.scheduler.reclaim engine.ledger node).value.2.1 = _ :=
    congrArg (fun result => result.2.1) (Scheduler.reclaim_eq engine.ledger node master).1
  rw [returned] at scheduler
  refine .of_eq .departs (Figures.ext ?_ ?_ ?_ ?_) told
  · show (engine.depart node).value.scheduler.tally? = _
    rw [scheduler]
    exact @Scheduler.tally?_leave (engine.scheduler.returning _) master node
  · exact Ledger.outstandingIds_of_insert (congrArg Ledger.accounts ledger)
  · exact funext (Ledger.isDeparted_of_insert (congrArg Ledger.accounts ledger))
  · show (engine.depart node).value.ledger.requestIds.next = _
    rw [ledger]
    rfl

private theorem reckons_arrive (admitted : ∀ worker,
      engine.scheduler.Admits worker → engine.ledger.isDeparted worker = false) (node : NodeId) :
    Reckons engine (engine.arrive node).value (engine.arrive node).effects := by
  rcases engine.arrive_cases node with ⟨_, value, deeds⟩ | ⟨_, value, deeds⟩
  · rw [value]
    exact .rests rfl rfl (Effect.marks_of_deeds deeds)
  · rw [value]
    exact reckons_join (admitted node) rfl rfl rfl rfl (Effect.marks_of_deeds deeds)

private theorem reckons_dispatch (engine : Engine) :
    Reckons engine engine.dispatch.value.1 engine.dispatch.effects := by
  unfold dispatch
  split
  next => exact .rests rfl rfl rfl
  next linked =>
    simp only [Traced.value_bind, Traced.effects_bind, Traced.value_pure, Traced.effects_pure,
      List.append_nil]
    rcases engine.scheduler.maintain_exact engine.ledger engine.link with ⟨_, nothing⟩ |
      ⟨submission, rest, worker, requests, rule, records, _, _, chosen, active, redrawn,
        ⟨_, value, deeds⟩ | ⟨id, source, taken, value, deeds⟩⟩
    · rw [nothing]
      exact .rests rfl rfl rfl
    · rw [value]
      exact .of_eq .rests (Figures.ext (Scheduler.tally?_redrawn redrawn rfl) rfl rfl rfl)
        (Effect.marks_of_deeds deeds)
    · obtain ⟨rfl, following⟩ := IdSource.take_next taken
      have known : (engine.scheduler.tally? worker).isSome = true := by
        obtain ⟨⟨record, found, _⟩, _⟩ := Scheduler.mem_candidates_iff.mp chosen
        rw [Scheduler.tally?, found]
        rfl
      have present : engine.ledger.isDeparted worker = false := by
        rw [Ledger.isDeparted_eq, active]
        rfl
      have outstanding : engine.ledger.outstandingIds worker = requests.map Request.id := by
        rw [Ledger.outstandingIds, Ledger.requests_of_get? active]
        rfl
      rw [value]
      refine .of_eq (.issues known present) (Figures.ext ?_ ?_ ?_ following)
        (Effect.marks_of_deeds deeds)
      · exact Scheduler.tally?_dispatched redrawn rfl
      · rw [show engine.figures.outstanding worker = _ from outstanding]
        refine (Ledger.outstandingIds_of_insert rfl).trans (funext fun other => ?_)
        simp [Account.requests, figures]
      · exact Ledger.isDeparted_of_insert_open rfl rfl present

private theorem reckons_execute (request : WorkRequest) :
    Reckons engine (engine.execute request).value (engine.execute request).effects := by
  obtain ⟨value, deeds⟩ := engine.execute_eq request
  rw [value]
  refine .rests rfl rfl ((Effect.marks_of_deeds deeds).trans ?_)
  cases engine.linked <;> rfl

/-- No end of a run is a mark. -/
private theorem unmarked_ending {closing : Effect} (closes : closing.isMark = false)
    (told : ∀ effect ∈ Effect.deeds effects,
      effect = closing ∨ ∃ ticket, effect = .answered ticket (.error .engineStopped)) :
    Effect.marks effects = [] :=
  Effect.marks_eq_nil (unselected_of_ending closes (fun _ => rfl) told)

private theorem reckons_shutdown (engine : Engine) :
    Reckons engine engine.shutdown.value engine.shutdown.effects := by
  obtain ⟨scheduler, ledger, _⟩ := engine.kept_shutdown
  exact .rests (by rw [scheduler]) ledger (unmarked_ending rfl fun _ => mem_deeds_shutdown)

private theorem reckons_finish (engine : Engine) :
    Reckons engine engine.finish.value engine.finish.effects := by
  obtain ⟨scheduler, ledger, _⟩ := engine.kept_finish
  exact .rests (by rw [scheduler]) ledger (unmarked_ending rfl fun _ => mem_deeds_finish)

end Moves

/-- **Every move of a master reckons with one request or one departure at most.** -/
theorem Move.reckons {engine : Engine} {act : Act Engine}
    (master : engine.scheduler.isMaster = true)
    (admitted : ∀ worker, engine.scheduler.Admits worker → engine.ledger.isDeparted worker = false)
    (move : Move engine act) : Reckons engine act.value act.effects := by
  cases move with
  | start created =>
    obtain ⟨value, deeds⟩ := engine.start_eq
    rw [value]
    refine .rests rfl rfl ((Effect.marks_of_deeds deeds).trans ?_)
    cases engine.scheduler.role with
    | master => rfl
    | worker => cases engine.linked <;> rfl
  | @accept event rest alive arrived => exact @reckons_accept { engine with mailbox := rest } event
  | cutOff alive | measure alive => exact .rests rfl rfl rfl
  | @handle message rest alive =>
    exact reckons_handle { engine with inbound := rest } admitted message
  | @depart node rest alive =>
    exact reckons_depart { engine with departed := rest } master node
  | @arrive node rest alive =>
    exact @reckons_arrive { engine with joined := rest } admitted node
  | dispatch alive => exact engine.reckons_dispatch
  | @run request rest alive => exact @reckons_execute { engine with work := rest } request
  | turn alive ongoing silent => exact .rests rfl rfl (Effect.marks_of_deeds silent)
  | finish alive => exact engine.reckons_finish
  | conclude alive => exact reckons_finish (engine.requestStop engine.naturalReason)
  | @breakDown cause alive =>
    have unmarked := unmarked_ending rfl fun _ => @mem_deeds_breakDown engine _ cause alive
    rw [(engine.breakDown_eq cause alive).1]
    exact .rests rfl rfl unmarked

end Engine

namespace Session

/-! ### All states of a master -/

/-- **The figures of a master agree with its history**, marks and failures included. -/
structure Reckoned (node : NodeId) (policy : Policy) (history : List Effect) (session : Session) :
    Prop where
  enrolled : Enrolled node history session
  samePolicy : session.engine.scheduler.policy = policy
  balanced : Balanced policy.learnFromFailures (Effect.marks history) session.engine.figures

section Runs

variable {node : NodeId} {policy : Policy} {history : List Effect} {session : Session}
  {act : Act Session}

/-- **Every stride of a master reckons with one request or one departure at most.** -/
theorem Stride.reckons (master : session.engine.scheduler.isMaster = true)
    (admitted : ∀ worker, session.engine.scheduler.Admits worker →
      session.engine.ledger.isDeparted worker = false)
    (stride : Stride session act) :
    Engine.Reckons session.engine act.value.engine act.effects := by
  cases stride with
  | turn fresh turn =>
    cases turn with
    | move move => exact move.reckons master admitted
    | surround | post | submit => exact .rests rfl rfl rfl
    | drop gone silent => exact .rests rfl rfl (Effect.marks_of_deeds silent)
    | dismiss gone told => exact .rests rfl rfl (Effect.marks_of_deeds told)
  | begin => exact .rests rfl rfl rfl
  | shutdown => exact session.engine.reckons_shutdown

theorem reckoned_create (options : Options) (node : NodeId) (link : Link) :
    Reckoned node options.policy [] (create options node node link) :=
  ⟨enrolled_create options node link, rfl, Balanced.empty options.policy.learnFromFailures⟩

/-- **Every stride keeps the figures in agreement with the history.** -/
theorem Reckoned.stride (reckoned : Reckoned node policy history session)
    (stride : Stride session act) : Reckoned node policy (history ++ act.effects) act.value := by
  have enrolled := reckoned.enrolled
  have admitted : ∀ worker, session.engine.scheduler.Admits worker →
      session.engine.ledger.isDeparted worker = false := by
    intro worker admits
    have agreement := enrolled.agreement worker (enrolled.own ▸ admits.other)
    refine Bool.eq_false_iff.mpr fun departed => admits.present ?_
    exact agreement.closed.mp (Ledger.isDeparted_iff.mp departed)
  have reckons := stride.reckons enrolled.master admitted
  rw [Engine.Reckons, Engine.learns, reckoned.samePolicy] at reckons
  refine ⟨enrolled.stride stride, ?_, ?_⟩
  · exact (stride.enrolment enrolled.master).change.policy.trans reckoned.samePolicy
  · rw [Effect.marks_append]
    exact reckoned.balanced.reckoning reckons

/-- The requests of the records, worker by worker. -/
private theorem Reckoned.dispatched (reckoned : Reckoned node policy history session) :
    (session.engine.scheduler.records.values.map WorkerRecord.dispatched).sum =
      (Effect.issues (Effect.marks history)).length := by
  have counted : session.engine.scheduler.records.values.map WorkerRecord.dispatched =
      session.engine.scheduler.records.keys.map
        fun worker => (Effect.issuesTo worker (Effect.marks history)).length := by
    rw [Roster.values, Roster.keys, List.map_map, List.map_map]
    refine List.map_congr_left ?_
    rintro ⟨worker, record⟩ entered
    have known : session.engine.scheduler.tally? worker = some record.tally := by
      rw [Scheduler.tally?, Roster.mem_entries_iff.mp entered]
      rfl
    exact ((reckoned.balanced.each worker).tallied record.tally known).2.1
  rw [counted]
  refine Effect.sum_issuesTo (Roster.keys_nodup _) fun worker unlisted => ?_
  refine (reckoned.balanced.each worker).unseen ?_
  exact Option.map_eq_none_iff.mpr ((Roster.get?_eq_none_iff _ worker).mpr unlisted)

end Runs

variable (options : Options) (node : NodeId) (link : Link) (handlings : List Handling)
  {history : List Effect} {session : Session}

/-- **The statistics of a master balance.** The requests that were dispatched to a worker that has
not departed are those that it completed and those that are outstanding. No more completions failed
than there were, and the forecaster of every worker has one sample at first and one more for every
completion that it learns from. The requests of all records are all requests that were ever
issued. -/
theorem statistics_balanced
    (passes : Chain.Passes Stride (create options node node link)
      ((create options node node link).handleAll handlings) history session) :
    let scheduler := session.engine.scheduler
    let ledger := session.engine.ledger
    let total := (scheduler.records.values.map WorkerRecord.dispatched).sum
    (∀ worker record, scheduler.records.get? worker = some record →
      (record.departed = false →
        record.dispatched = record.completed + ledger.outstandingOn worker) ∧
      record.failed ≤ record.completed ∧
      record.forecaster.model.count =
        if options.policy.learnFromFailures then 1 + record.completed
        else 1 + record.completed - record.failed) ∧
    total = (Effect.issues history).length ∧ total + 1 = ledger.requestIds.next := by
  intro scheduler ledger total
  have reckoned : Reckoned node options.policy history session :=
    passes.reached.keeps Reckoned.stride (reckoned_create options node link)
  have balanced := reckoned.balanced
  have dispatched : total = _ := reckoned.dispatched
  refine ⟨fun worker record found => ?_, ?_, ?_⟩
  · have known : scheduler.tally? worker = some record.tally := by
      rw [Scheduler.tally?, found]
      rfl
    have share := balanced.each worker
    obtain ⟨gone, issued, completed, sound⟩ := share.tallied record.tally known
    refine ⟨fun present => ?_, sound.failed, ?_⟩
    · have open' : session.engine.figures.isDeparted worker = false := gone.symm.trans present
      obtain ⟨taken, shared, none⟩ := share.shared
      have parts := shared.length_eq
      rw [none open', List.append_nil, List.length_append] at parts
      rw [share.lateOn open'] at completed
      have outstanding : (session.engine.figures.outstanding worker).length =
          ledger.outstandingOn worker := List.length_map _
      change record.dispatched = _ at issued
      change record.completed = _ at completed
      rw [List.length_nil] at completed
      omega
    · have samples : record.forecaster.model.count + _ = 1 + record.completed := sound.samples
      split
      next learns => rw [if_pos learns] at samples; exact samples
      next ignores => rw [if_neg ignores] at samples; exact Nat.eq_sub_of_add_eq samples
  · rw [dispatched, Effect.issues_marks]
  · rw [dispatched]
    exact balanced.following.symm

/-- Two workers are given three jobs. A failure that is not learned from arrives twice, and the
other worker departs with its request, so that its job is issued once more. -/
theorem statistics_balanced_departed :
    let options :=
      ({ scheduler := { selector := .roundRobin, learnFromFailures := false } } : Settings).options
    let handlings : List Handling := [.meet (.deliver ⟨2, .register⟩),
      .meet (.deliver ⟨3, .register⟩), .meet (.submit (.sleep 0) []), .meet (.submit (.sleep 0) []),
      .meet (.submit (.sleep 0) []), .meet .pass, .meet .pass, .meet .pass,
      .meet (.deliver ⟨2, .completed 1 [] true 1⟩), .meet (.deliver ⟨2, .completed 1 [] true 1⟩),
      .meet (.announce (.departed 3)), .meet .pass]
    let engine := ((create options 1 1 {}).handleAll handlings).value.engine
    (engine.scheduler.records.values.map WorkerRecord.dispatched).sum + 1 =
        engine.ledger.requestIds.next ∧
      engine.ledger.requestIds.next = 5 ∧
      ∃ record, engine.scheduler.records.get? 2 = some record ∧ record.failed = 1 ∧
        record.dispatched = record.completed + 2 ∧
        record.forecaster.model.count = 1 + record.completed - record.failed := by
  obtain ⟨each, _, following⟩ := statistics_balanced
    ({ scheduler := { selector := .roundRobin, learnFromFailures := false } } : Settings).options
    1 {} _ (passes_handled _ 1 1 {} [.meet (.deliver ⟨2, .register⟩),
      .meet (.deliver ⟨3, .register⟩), .meet (.submit (.sleep 0) []), .meet (.submit (.sleep 0) []),
      .meet (.submit (.sleep 0) []), .meet .pass, .meet .pass, .meet .pass,
      .meet (.deliver ⟨2, .completed 1 [] true 1⟩), .meet (.deliver ⟨2, .completed 1 [] true 1⟩),
      .meet (.announce (.departed 3)), .meet .pass] [])
  obtain ⟨present, _, samples⟩ := each 2 _ rfl
  exact ⟨following, rfl, _, rfl, rfl, present rfl, samples⟩

/-- **Every completion of a master counts once, and all that come after the departure of a worker
count again.** A request is struck at most once; a completion that strikes none counts only if its
worker has departed, and then whichever request it names and how often. So the completions of a
worker exceed its requests exactly if more of them were late than it left unanswered. -/
theorem completions_counted
    (passes : Chain.Passes Stride (create options node node link)
      ((create options node node link).handleAll handlings) history session)
    {worker : NodeId} {record : WorkerRecord}
    (found : session.engine.scheduler.records.get? worker = some record) :
    (Effect.issues history).Nodup ∧
    (Effect.strikesOn worker history).Nodup ∧
    Effect.strikesOn worker history ⊆ Effect.issuesTo worker history ∧
    record.dispatched = (Effect.issuesTo worker history).length ∧
    record.completed =
      (Effect.strikesOn worker history).length + (Effect.lateOn worker history).length ∧
    record.forecaster.model.count ≤ 1 + record.completed ∧
    (record.departed = false → Effect.lateOn worker history = []) ∧
    (record.completed ≤ record.dispatched ↔
      (Effect.lateOn worker history).length ≤ (Effect.unanswered worker history).length) := by
  have reckoned : Reckoned node options.policy history session :=
    passes.reached.keeps Reckoned.stride (reckoned_create options node link)
  have balanced := reckoned.balanced
  have known : session.engine.scheduler.tally? worker = some record.tally := by
    rw [Scheduler.tally?, found]
    rfl
  have share := balanced.each worker
  obtain ⟨gone, issued, completed, sound⟩ := share.tallied record.tally known
  have once := balanced.struck_once worker
  have answered := balanced.length_issuesTo worker
  have late := share.lateOn
  have distinct := balanced.nodup_issues
  rw [Effect.issues_marks] at distinct
  simp only [Effect.issuesTo_marks, Effect.strikesOn_marks, Effect.lateOn_marks,
    Effect.unanswered_marks] at issued completed once answered late
  have samples : record.forecaster.model.count + _ = 1 + record.completed := sound.samples
  refine ⟨distinct, once.1, once.2, issued, completed, Nat.le.intro samples,
    fun present => late (gone.symm.trans present), ?_⟩
  change record.dispatched = _ at issued
  change record.completed = _ at completed
  rw [issued, completed, answered]
  exact Nat.add_le_add_iff_left

/-- A worker completes its only request and departs, and then the completion arrives again. -/
def repeated : List Handling := [.meet (.deliver ⟨2, .register⟩), .meet (.submit (.sleep 0) []),
  .meet .pass, .meet (.deliver ⟨2, .completed 1 [] false 1⟩), .meet .pass,
  .meet (.announce (.departed 2)), .meet .pass, .meet (.deliver ⟨2, .completed 1 [] false 1⟩),
  .meet .pass]

/-- One request is issued and struck, and its completion is late the second time: it counts as two
completions and two samples. -/
theorem completions_counted_repeated :
    let options := ({ scheduler := { selector := .roundRobin } } : Settings).options
    let act := (create options 1 1 {}).handleAll repeated
    Effect.strikesOn 2 act.effects = [1] ∧ Effect.lateOn 2 act.effects = [1] ∧
      Effect.unanswered 2 act.effects = [] ∧
      ∃ record, act.value.engine.scheduler.records.get? 2 = some record ∧
        record.completed = 2 ∧ record.forecaster.model.count ≤ 3 ∧
        ¬ record.completed ≤ record.dispatched := by
  obtain ⟨_, _, _, _, completed, samples, _, bounded⟩ := @completions_counted
    ({ scheduler := { selector := .roundRobin } } : Settings).options 1 {} _ _ _
    (passes_handled _ 1 1 {} repeated []) 2 _ rfl
  exact ⟨rfl, rfl, rfl, _, rfl, completed, samples, bounded.not.mpr (by decide)⟩

/-- **The completions of a worker are not bounded by its requests.** -/
theorem completed_not_le_dispatched :
    ¬ ∀ (options : Options) (node : NodeId) (link : Link) (handlings : List Handling)
        (worker : NodeId) (record : WorkerRecord),
      ((create options node node link).handleAll handlings).value.engine.scheduler.records.get?
        worker = some record → record.completed ≤ record.dispatched := by
  intro bounded
  have exceeded := bounded ({ scheduler := { selector := .roundRobin } } : Settings).options 1 {}
    repeated 2 _ rfl
  exact absurd exceeded (by decide)

end Session

end JobPool
