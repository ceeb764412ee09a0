/-
**The scheduler and the ledger of a master agree about every worker.**

Both remember which workers have departed, each in its own way, and they hear of a worker through
different messages: a registration reaches both, a join only the scheduler, a departure both.
Whatever comes first, repeatedly or in the same pass, they agree about every worker other than the
node itself, and a worker that has departed never comes back.

* `Agreement` — how one worker stands with both, and what keeps it;
* `Change`, `Enrolment` — what a step of the master does to the standing of the workers;
* `Enrolled` — the agreement together with the history;
* `Session.membership_agrees` — every state of a master, and all that follows a departure.
-/

import JobPool.Proofs.Engine.Handlings
import JobPool.Proofs.Records

namespace JobPool

/-! ### One worker -/

namespace Scheduler

variable {scheduler : Scheduler} {worker : NodeId}

/-- A join gives a record without a mark to a worker that is admitted, and changes nothing else. -/
theorem gone?_join (scheduler : Scheduler) (worker other : NodeId) :
    (scheduler.Admits worker ∧ (scheduler.join worker).value.gone? other =
      if other = worker then some false else scheduler.gone? other) ∨
    (¬ scheduler.Admits worker ∧ (scheduler.join worker).value.gone? other =
      scheduler.gone? other) := by
  rcases scheduler.join_exact worker with ⟨refused, same⟩ | ⟨admits, _, _, joined⟩
  · rw [same]
    exact .inr ⟨refused, rfl⟩
  · rw [joined]
    refine .inl ⟨admits, ?_⟩
    rw [gone?, Roster.get?_insert]
    split <;> rfl

/-- A join changes neither the node nor its part nor the workers that have departed. -/
theorem departed_join (scheduler : Scheduler) (worker : NodeId) :
    (scheduler.join worker).value.node = scheduler.node ∧
      (scheduler.join worker).value.isMaster = scheduler.isMaster ∧
      (scheduler.join worker).value.departed = scheduler.departed := by
  rcases scheduler.join_exact worker with ⟨_, same⟩ | ⟨_, _, _, joined⟩
  · rw [same]
    exact ⟨rfl, rfl, rfl⟩
  · rw [joined]
    exact ⟨rfl, rfl, rfl⟩

/-- The master marks the record of a departed worker. -/
theorem gone?_leave (master : scheduler.isMaster = true) (other : NodeId) :
    (scheduler.leave worker).value.gone? other =
      if other = worker then (scheduler.gone? worker).map fun _ => true
      else scheduler.gone? other := by
  rcases scheduler.leave_exact worker with ⟨_, left⟩ | ⟨part, _⟩
  · rw [left, gone?, Roster.get?_modify]
    split
    next same => rw [same, gone?, Option.map_map, Option.map_map]; rfl
    next => rfl
  · cases part.symm.trans master

/-- The master lists a departed worker. -/
theorem mem_departed_leave (master : scheduler.isMaster = true) (other : NodeId) :
    other ∈ (scheduler.leave worker).value.departed ↔
      other = worker ∨ other ∈ scheduler.departed := by
  rcases scheduler.leave_exact worker with ⟨_, left⟩ | ⟨part, _⟩
  · rw [left]
    show other ∈ ite _ _ _ ↔ _
    split
    next listed =>
      refine ⟨.inr, fun either => either.elim (fun same => ?_) id⟩
      rw [same]
      simpa using listed
    next => rw [List.mem_append, List.mem_singleton, or_comm]
  · cases part.symm.trans master

theorem node_leave (scheduler : Scheduler) (worker : NodeId) :
    (scheduler.leave worker).value.node = scheduler.node := by
  rcases scheduler.leave_exact worker with ⟨_, left⟩ | ⟨_, _, _, left⟩
  · rw [left]
  · rw [left]

/-- Schedulers that know the same workers still do after a departure. -/
theorem Alike.leave {next : Scheduler} (alike : scheduler.Alike next) (worker : NodeId)
    (master : scheduler.isMaster = true) :
    (scheduler.leave worker).value.Alike (next.leave worker).value := by
  have still : next.isMaster = true := alike.isMaster.trans master
  have marks : (next.leave worker).value.gone? = (scheduler.leave worker).value.gone? := by
    funext other
    rw [gone?_leave still, gone?_leave master, alike.gone?]
  rcases scheduler.leave_exact worker with ⟨_, left⟩ | ⟨part, _⟩
  · rcases next.leave_exact worker with ⟨_, left'⟩ | ⟨part, _⟩
    · refine ⟨?_, ?_, ?_, ?_, marks⟩
      · rw [left, left']
        exact alike.policy
      · rw [left, left']
        exact alike.node
      · rw [isMaster_leave, isMaster_leave]
        exact alike.isMaster
      · rw [left, left']
        simp only [alike.departed]
    · cases part.symm.trans still
  · cases part.symm.trans master

end Scheduler

/-- **The scheduler and the ledger agree about a worker.** -/
structure Agreement (scheduler : Scheduler) (ledger : Ledger) (worker : NodeId) : Prop where
  closed : ledger.closed? worker = some true ↔ worker ∈ scheduler.departed
  marked : ∀ mark, scheduler.gone? worker = some mark → (mark = true ↔ worker ∈ scheduler.departed)
  known : ledger.closed? worker = some false → scheduler.gone? worker = some false

namespace Agreement

variable {scheduler next : Scheduler} {ledger after : Ledger} {worker other : NodeId}

/-- The agreement is about what both know of the worker. -/
theorem of_same (agreement : Agreement scheduler ledger worker)
    (departed : worker ∈ next.departed ↔ worker ∈ scheduler.departed)
    (gone : next.gone? worker = scheduler.gone? worker)
    (closed : after.closed? worker = ledger.closed? worker) : Agreement next after worker := by
  refine ⟨?_, ?_, ?_⟩
  · rw [closed, departed]
    exact agreement.closed
  · rw [gone, departed]
    exact agreement.marked
  · rw [closed, gone]
    exact agreement.known

theorem alike (agreement : Agreement scheduler ledger worker) (alike : scheduler.Alike next)
    (closed : after.closed? = ledger.closed?) : Agreement next after worker :=
  agreement.of_same (by rw [alike.departed]) (by rw [alike.gone?]) (by rw [closed])

/-- A worker that joins has not departed. -/
theorem join (agreement : Agreement scheduler ledger worker) (joining : NodeId) :
    Agreement (scheduler.join joining).value ledger worker := by
  have departed := (scheduler.departed_join joining).2.2
  rcases scheduler.gone?_join joining worker with ⟨admits, gone⟩ | ⟨_, same⟩
  · by_cases own : worker = joining
    · subst own
      rw [if_pos rfl] at gone
      have open' : ledger.closed? worker ≠ some true :=
        fun closed => admits.present (agreement.closed.mp closed)
      refine ⟨?_, fun mark marked => ?_, fun _ => gone⟩
      · rw [departed]
        exact agreement.closed
      · rw [gone] at marked
        cases marked
        rw [departed]
        exact ⟨nofun, fun listed => (admits.present listed).elim⟩
    · rw [if_neg own] at gone
      exact agreement.of_same (by rw [departed]) gone rfl
  · exact agreement.of_same (by rw [departed]) same rfl

/-- **A registration opens an account exactly if the worker has not departed**, and then the worker
has a record. -/
theorem register (agreement : Agreement scheduler ledger worker)
    (master : scheduler.isMaster = true) (other : worker ≠ scheduler.node) (registering : NodeId) :
    Agreement (scheduler.join registering).value (ledger.register registering).value worker := by
  have joined := agreement.join registering
  have account := ledger.closed?_register registering worker
  by_cases own : worker = registering
  · subst own
    rw [if_pos rfl] at account
    cases before : ledger.closed? worker with
    | some closed =>
      rw [before] at account
      exact joined.of_same .rfl rfl (account.trans before.symm)
    | none =>
      rw [before] at account
      have present : worker ∉ scheduler.departed := fun departed => by
        cases before.symm.trans (agreement.closed.mpr departed)
      have listed := (scheduler.departed_join worker).2.2
      -- A worker without a record is admitted, and a record it has bears no mark.
      have recorded : (scheduler.join worker).value.gone? worker = some false := by
        rcases scheduler.gone?_join worker worker with ⟨_, gone⟩ | ⟨refused, same⟩
        · rw [gone, if_pos rfl]
        · rw [same]
          cases seen : scheduler.gone? worker with
          | none => exact (refused ⟨other, master, present, seen⟩).elim
          | some mark =>
            cases mark with
            | false => rfl
            | true => exact (present ((agreement.marked _ seen).mp rfl)).elim
      refine ⟨?_, joined.marked, fun _ => recorded⟩
      rw [account, listed]
      exact ⟨nofun, fun departed => (present departed).elim⟩
  · rw [if_neg own] at account
    exact joined.of_same .rfl rfl account

/-- A departure closes the account, marks the record and lists the worker. -/
theorem depart (agreement : Agreement scheduler ledger worker)
    (master : scheduler.isMaster = true) (leaving : NodeId) :
    Agreement (scheduler.leave leaving).value (ledger.close leaving) worker := by
  have account := ledger.closed?_close leaving worker
  have gone : (scheduler.leave leaving).value.gone? worker = _ :=
    Scheduler.gone?_leave master worker
  have departed : worker ∈ (scheduler.leave leaving).value.departed ↔ _ :=
    Scheduler.mem_departed_leave master worker
  by_cases own : worker = leaving
  · subst own
    rw [if_pos rfl] at account gone
    have listed := departed.mpr (.inl rfl)
    refine ⟨?_, fun mark marked => ?_, fun known => ?_⟩
    · rw [account]
      exact ⟨fun _ => listed, fun _ => rfl⟩
    · rw [gone] at marked
      obtain ⟨_, _, rfl⟩ := Option.map_eq_some_iff.mp marked
      exact ⟨fun _ => listed, fun _ => rfl⟩
    · cases account.symm.trans known
  · rw [if_neg own] at account gone
    exact agreement.of_same (departed.trans (or_iff_right own)) gone account

end Agreement

/-! ### What a step does -/

/-- **What a step of the master does to the standing of the workers.** -/
inductive Change (scheduler : Scheduler) (ledger : Ledger) (next : Scheduler) (after : Ledger) :
    Prop
  | keeps (alike : scheduler.Alike next) (closed : after.closed? = ledger.closed?)
  | joins {worker : NodeId} (joined : next = (scheduler.join worker).value)
      (same : after = ledger)
  | registers {worker : NodeId} (joined : next = (scheduler.join worker).value)
      (registered : after = (ledger.register worker).value)
  | departs {worker : NodeId} (left : (scheduler.leave worker).value.Alike next)
      (closed : after = ledger.close worker)

namespace Change

variable {scheduler next : Scheduler} {ledger after : Ledger} {worker : NodeId}

/-- The node and its part stay. -/
theorem part (change : Change scheduler ledger next after) :
    next.node = scheduler.node ∧ next.isMaster = scheduler.isMaster := by
  cases change with
  | keeps alike closed => exact ⟨alike.node, alike.isMaster⟩
  | @joins worker joined same =>
    rw [joined]
    exact ⟨(scheduler.departed_join worker).1, (scheduler.departed_join worker).2.1⟩
  | @registers worker joined registered =>
    rw [joined]
    exact ⟨(scheduler.departed_join worker).1, (scheduler.departed_join worker).2.1⟩
  | @departs worker left closed =>
    exact ⟨left.node.trans (scheduler.node_leave worker),
      left.isMaster.trans (scheduler.isMaster_leave worker)⟩

/-- The policy stays. -/
theorem policy (change : Change scheduler ledger next after) :
    next.policy = scheduler.policy := by
  have joining : ∀ worker, (scheduler.join worker).value.policy = scheduler.policy := by
    intro worker
    rcases scheduler.join_exact worker with ⟨_, same⟩ | ⟨_, _, _, joined⟩
    · rw [same]
    · rw [joined]
  cases change with
  | keeps alike closed => exact alike.policy
  | joins joined same => rw [joined, joining]
  | registers joined registered => rw [joined, joining]
  | @departs worker left closed =>
    refine left.policy.trans ?_
    rcases scheduler.leave_exact worker with ⟨_, same⟩ | ⟨_, _, _, same⟩
    · rw [same]
    · rw [same]

/-- **Every step of the master keeps the agreement.** -/
theorem agreement (change : Change scheduler ledger next after)
    (agreement : Agreement scheduler ledger worker) (master : scheduler.isMaster = true)
    (other : worker ≠ scheduler.node) : Agreement next after worker := by
  cases change with
  | keeps alike closed => exact agreement.alike alike closed
  | joins joined same =>
    subst joined same
    exact agreement.join _
  | registers joined registered =>
    subst joined registered
    exact agreement.register master other _
  | departs left closed =>
    subst closed
    exact (agreement.depart master _).alike left rfl

/-- A closed account stays closed. -/
theorem closed? (change : Change scheduler ledger next after)
    (departed : ledger.closed? worker = some true) : after.closed? worker = some true := by
  cases change with
  | keeps alike closed => rw [closed, departed]
  | joins joined same => rw [same, departed]
  | registers joined registered =>
    rw [registered, Ledger.closed?_register]
    split
    next own => rw [← own, departed]; rfl
    next => exact departed
  | departs left closed =>
    rw [closed, Ledger.closed?_close]
    split
    · rfl
    · exact departed

/-- **A worker that has departed gets no record**, and the mark on its record stays. -/
theorem gone? (change : Change scheduler ledger next after)
    (agreement : Agreement scheduler ledger worker) (master : scheduler.isMaster = true)
    (departed : ledger.closed? worker = some true) :
    next.gone? worker = scheduler.gone? worker := by
  have listed := agreement.closed.mp departed
  have joining : ∀ joining, (scheduler.join joining).value.gone? worker =
      scheduler.gone? worker := by
    intro joining
    rcases scheduler.gone?_join joining worker with ⟨admits, gone⟩ | ⟨_, same⟩
    · have other : worker ≠ joining := fun own => admits.present (own ▸ listed)
      rw [gone, if_neg other]
    · exact same
  cases change with
  | keeps alike closed => rw [alike.gone?]
  | joins joined same => rw [joined, joining]
  | registers joined registered => rw [joined, joining]
  | departs left closed =>
    rw [left.gone?, Scheduler.gone?_leave master]
    split
    next own =>
      subst own
      cases seen : scheduler.gone? worker with
      | none => rfl
      | some mark => rw [(agreement.marked mark seen).mpr listed]; rfl
    next => rfl

end Change

namespace Engine

section Kinds

variable (engine next : Engine) (effects : List Effect)

/-- **A step of the master and its effects.** A departure that is applied closes its account, and a
request is sent to an active account. -/
structure Enrolment : Prop where
  change : Change engine.scheduler engine.ledger next.scheduler next.ledger
  noted : ∀ worker, .applied (.departed worker) ∈ Effect.outward effects →
    next.ledger.closed? worker = some true
  addressed : ∀ worker request job input accepted,
    .sent worker (.execute request job input) accepted ∈ Effect.outward effects →
    engine.ledger.closed? worker = some false

end Kinds

section Moves

variable {engine next : Engine} {effects : List Effect}

/-- A step without outward effects. -/
theorem Enrolment.quiet
    (change : Change engine.scheduler engine.ledger next.scheduler next.ledger)
    (silent : Effect.outward effects = []) : Enrolment engine next effects := by
  refine ⟨change, fun _ applied => ?_, fun _ _ _ _ _ sent => ?_⟩
  · rw [silent] at applied
    cases applied
  · rw [silent] at sent
    cases sent

/-- A step that leaves the scheduler and the ledger as they are, and closes the link at most. -/
theorem Enrolment.idle (scheduler : next.scheduler = engine.scheduler)
    (ledger : next.ledger = engine.ledger)
    (silent : ∀ effect ∈ Effect.outward effects, effect = .linkClosed) :
    Enrolment engine next effects := by
  refine ⟨.keeps ?_ ?_, fun _ applied => ?_, fun _ _ _ _ _ sent => ?_⟩
  · rw [scheduler]
    exact .refl _
  · rw [ledger]
  · cases silent _ applied
  · cases silent _ sent

theorem enrolment_accept {event : Event} {rest : List Event} :
    let act := { engine with mailbox := rest }.accept event
    Enrolment engine act.value act.effects := by
  intro act
  refine Enrolment.quiet ?_ (outward_accept _ event)
  rcases accept_cases { engine with mailbox := rest } event with
    ⟨ticket, job, input, _, taken⟩ |
    ⟨_, ⟨_, _, value⟩ | ⟨_, _, value⟩ | ⟨_, _, _, value⟩ | ⟨_, _, value⟩ | ⟨_, value⟩⟩
  · have accepted : act = submit { engine with mailbox := rest } ticket job input := taken
    rcases submit_cases { engine with mailbox := rest } ticket job input with
      ⟨_, _, _, _, value, _⟩ | ⟨_, _, _, _, _, value, _⟩
    · rw [accepted, value]
      exact .keeps (.refl _) rfl
    · rw [accepted, value]
      exact .keeps ⟨rfl, rfl, rfl, rfl, rfl⟩ rfl
  all_goals
    rw [value]
    exact .keeps (.refl _) rfl

/-- Telling a submitter leaves the scheduler and the ledger as they are. -/
theorem notify_books (engine : Engine) (job : JobId) (outcome : Outcome) :
    (engine.notify job outcome).value.scheduler = engine.scheduler ∧
      (engine.notify job outcome).value.ledger = engine.ledger := by
  unfold notify
  split
  · exact ⟨rfl, rfl⟩
  · rw [Traced.value_bind]
    split <;> exact ⟨rfl, rfl⟩

/-- A completion changes the requests of an account and the forecasts of a record. -/
private theorem change_complete (engine : Engine) (worker : NodeId) (request : RequestId)
    (result : Bytes) (failed : Bool) (seconds : Float) :
    let next := (engine.complete worker request result failed seconds).value
    Change engine.scheduler engine.ledger next.scheduler next.ledger := by
  intro next
  have learned := engine.scheduler.alike_complete worker seconds failed
  have account := engine.ledger.closed?_resolve worker request failed
  show Change _ _ (complete ..).value.scheduler (complete ..).value.ledger
  unfold complete
  simp only [Traced.value_bind]
  split
  · split
    · exact .keeps learned account
    · exact .keeps (.refl _) account
  next submission _ =>
    rw [Traced.value_bind]
    refine .keeps ?_ ?_
    · rw [(notify_books _ _ _).1]
      exact learned
    · rw [(notify_books _ _ _).2]
      exact account

theorem enrolment_handle {message : Message} {rest : List Message} :
    let act := { engine with inbound := rest }.handle message
    Enrolment engine act.value act.effects := by
  intro act
  refine Enrolment.quiet ?_ (outward_handle _ message)
  rcases handle_cases { engine with inbound := rest } message with
    ⟨_, _, _, _, _, value, _⟩ | ⟨request, result, failed, seconds, _, _, value, _⟩ |
    ⟨_, _, value, _⟩ | ⟨_, _, value, _⟩
  · rw [value]
    exact .keeps (.refl _) rfl
  · rw [value]
    exact change_complete { engine with inbound := rest, messages := engine.messages + 1 }
      message.source request result failed seconds
  · rw [value]
    exact .registers rfl rfl
  · rw [value]
    exact .keeps (.refl _) rfl

/-- The departure of a worker, with what was taken back on the way. -/
theorem books_depart (engine : Engine) (node : NodeId)
    (master : engine.scheduler.isMaster = true) :
    (engine.depart node).value.scheduler =
        { ((engine.scheduler.reclaim engine.ledger node).value.2.1.leave node).value with
          abandoned := [] } ∧
      (engine.depart node).value.ledger = engine.ledger.close node := by
  have closed := (engine.scheduler.ledger_reclaim engine.ledger node).2
  unfold depart
  simp only [Traced.value_bind, master, Bool.not_true, Bool.false_eq_true, if_false,
    Traced.value_pure]
  refine @Traced.foldlM_preserves _ _ _ (fun state : Engine => state.scheduler = _ ∧
    state.ledger = engine.ledger.close node) _ _ ?_ _ ⟨rfl, closed⟩
  intro state submission _ books
  rw [(notify_books ..).1, (notify_books ..).2]
  exact books

theorem enrolment_depart {node : NodeId} {rest : List NodeId}
    (master : engine.scheduler.isMaster = true) :
    let act := { engine with departed := rest }.depart node
    Enrolment engine act.value act.effects := by
  intro act
  obtain ⟨scheduler, ledger⟩ := books_depart { engine with departed := rest } node master
  have outward := outward_depart { engine with departed := rest } node
  have returned := engine.scheduler.alike_reclaim engine.ledger node
  have left : (engine.scheduler.leave node).value.Alike act.value.scheduler := by
    rw [scheduler]
    exact (returned.leave node master).trans ⟨rfl, rfl, rfl, rfl, rfl⟩
  refine ⟨.departs left ledger, fun worker applied => ?_, fun _ _ _ _ _ sent => ?_⟩
  · rw [outward] at applied
    cases List.mem_singleton.mp applied
    rw [ledger, Ledger.closed?_close, if_pos rfl]
  · rw [outward] at sent
    cases List.mem_singleton.mp sent

theorem enrolment_arrive {node : NodeId} {rest : List NodeId} :
    let act := { engine with joined := rest }.arrive node
    Enrolment engine act.value act.effects := by
  intro act
  refine Enrolment.quiet ?_ (outward_arrive _ node)
  rcases arrive_cases { engine with joined := rest } node with ⟨_, value, _⟩ | ⟨_, value, _⟩
  · rw [value]
    exact .keeps (.refl _) rfl
  · rw [value]
    exact .joins rfl rfl

theorem enrolment_dispatch :
    Enrolment engine engine.dispatch.value.1 engine.dispatch.effects := by
  have alike : engine.scheduler.Alike engine.dispatch.value.1.scheduler := by
    unfold dispatch
    split
    · exact .refl _
    · exact engine.scheduler.alike_maintain engine.ledger engine.link
  have accounts : engine.dispatch.value.1.ledger.closed? = engine.ledger.closed? := by
    rcases engine.dispatch_cases with
      ⟨_, _, value, _⟩ | ⟨_, _, _, _, _, _, _, _, _, _, _, active, _, value, _⟩
    · rw [value]
    · rw [value]
      exact Ledger.closed?_of_active active rfl
  refine ⟨.keeps alike accounts, fun worker applied => ?_, fun worker _ _ _ _ sent => ?_⟩
  · rcases engine.outward_dispatch with silent | ⟨_, _, _, _, _, _, sent⟩
    · rw [silent] at applied
      cases applied
    · rw [sent] at applied
      cases List.mem_singleton.mp applied
  · rcases engine.outward_dispatch with silent | ⟨_, requests, _, _, _, active, told⟩
    · rw [silent] at sent
      cases sent
    · rw [told] at sent
      cases List.mem_singleton.mp sent
      rw [Ledger.closed?, active]
      rfl

theorem enrolment_execute {request : WorkRequest} {rest : List WorkRequest} :
    let act := { engine with work := rest }.execute request
    Enrolment engine act.value act.effects := by
  intro act
  have outward := outward_execute { engine with work := rest } request
  have value := (execute_eq { engine with work := rest } request).1
  refine ⟨?_, fun worker applied => ?_, fun worker _ _ _ _ sent => ?_⟩
  · rw [value]
    exact .keeps (.refl _) rfl
  · rw [outward] at applied
    cases held : engine.linked <;> simp [held] at applied
  · rw [outward] at sent
    cases held : engine.linked <;> simp [held, replyTo] at sent

/-- Shutting down leaves the scheduler and the ledger as they are. -/
theorem enrolment_shutdown (reason : Option StopReason) :
    let act := { engine with stopReason := reason }.shutdown
    Enrolment engine act.value act.effects := by
  intro act
  rcases shutdown_cases { engine with stopReason := reason } with
    ⟨_, value, outward⟩ | ⟨_, same⟩
  · refine .idle ?_ ?_ fun effect member => ?_
    · rw [value]
      rfl
    · rw [value]
      rfl
    · rw [outward] at member
      split at member
      · exact List.mem_singleton.mp member
      · cases member
  · have still : act = pure { engine with stopReason := reason } := same
    rw [still]
    exact .idle rfl rfl nofun

private theorem enrolment_finish (reason : Option StopReason) :
    let act := { engine with stopReason := reason }.finish
    Enrolment engine act.value act.effects := by
  intro act
  obtain ⟨value, outward⟩ := finish_cases { engine with stopReason := reason }
  have shut := @enrolment_shutdown engine reason
  refine ⟨?_, ?_, ?_⟩
  · rw [value]
    exact shut.change
  · rw [value, outward]
    exact shut.noted
  · rw [outward]
    exact shut.addressed

end Moves

/-- **Every move of the master changes the standing of one worker at most.** -/
theorem Move.enrolment {engine : Engine} {act : Act Engine}
    (master : engine.scheduler.isMaster = true) (move : Move engine act) :
    Enrolment engine act.value act.effects := by
  cases move with
  | start created =>
    have outward := engine.outward_start
    have part : engine.scheduler.role = .master := by
      unfold Scheduler.isMaster at master
      split at master
      · assumption
      · cases master
    rw [part] at outward
    rw [engine.value_start]
    exact Enrolment.quiet (.keeps (.refl _) rfl) outward
  | accept alive arrived => exact enrolment_accept
  | cutOff alive | measure alive => exact .idle rfl rfl nofun
  | handle alive accepted arrived => exact enrolment_handle
  | depart alive => exact enrolment_depart master
  | arrive alive => exact enrolment_arrive
  | dispatch alive => exact enrolment_dispatch
  | run alive => exact enrolment_execute
  | turn alive ongoing silent =>
    exact Enrolment.quiet (.keeps (.refl _) rfl) (Effect.outward_of_deeds silent)
  | finish alive stopped => exact enrolment_finish engine.stopReason
  | conclude alive running idle done => exact enrolment_finish _
  | @breakDown cause alive =>
    rw [(engine.breakDown_eq cause alive).1]
    exact Enrolment.quiet (.keeps (.refl _) rfl) (engine.outward_breakDown cause alive)

end Engine

namespace Session

theorem Stride.enrolment {session : Session} {act : Act Session}
    (master : session.engine.scheduler.isMaster = true) (stride : Stride session act) :
    Engine.Enrolment session.engine act.value.engine act.effects := by
  cases stride with
  | turn fresh turn =>
    cases turn with
    | move move => exact move.enrolment master
    | surround | post | submit => exact .idle rfl rfl nofun
    | drop gone silent => exact .quiet (.keeps (.refl _) rfl) (Effect.outward_of_deeds silent)
    | dismiss gone told => exact .quiet (.keeps (.refl _) rfl) (Effect.outward_of_deeds told)
  | begin => exact .idle rfl rfl nofun
  | shutdown => exact Engine.enrolment_shutdown session.engine.stopReason

/-! ### All states of a master -/

/-- **The scheduler and the ledger of a master agree about all other nodes**, and a departure that
was applied has closed its account. -/
structure Enrolled (node : NodeId) (history : List Effect) (session : Session) : Prop where
  own : session.engine.scheduler.node = node
  master : session.engine.scheduler.isMaster = true
  agreement : ∀ worker, worker ≠ node →
    Agreement session.engine.scheduler session.engine.ledger worker
  noted : ∀ worker, .applied (.departed worker) ∈ history →
    session.engine.ledger.closed? worker = some true

theorem enrolled_create (options : Options) (node : NodeId) (link : Link) :
    Enrolled node [] (create options node node link) := by
  refine ⟨rfl, ?_, fun worker _ => ⟨?_, fun _ marked => ?_, fun known => ?_⟩, fun _ applied => ?_⟩
  · show Scheduler.isMaster { policy := _, node := _, role := _, rule := _, seeds := _ } = true
    rw [Scheduler.isMaster, if_pos rfl]
  · refine ⟨fun closed => ?_, fun listed => ?_⟩
    · cases closed
    · cases listed
  · cases marked
  · cases known
  · cases applied

section Runs

variable {node worker : NodeId} {history : List Effect} {session : Session} {act : Act Session}

/-- **Every stride keeps the agreement.** -/
theorem Enrolled.stride (enrolled : Enrolled node history session) (stride : Stride session act) :
    Enrolled node (history ++ act.effects) act.value := by
  obtain ⟨change, noted, _⟩ := stride.enrolment enrolled.master
  refine ⟨change.part.1.trans enrolled.own, change.part.2.trans enrolled.master,
    fun worker other => ?_, fun worker applied => ?_⟩
  · exact change.agreement (enrolled.agreement worker other) enrolled.master
      (enrolled.own ▸ other)
  · rcases List.mem_append.mp applied with before | now
    · exact change.closed? (enrolled.noted worker before)
    · exact noted worker (Effect.mem_outward.mpr ⟨now, rfl⟩)

/-- What a worker that has departed is to the master: it has no active account, the mark on its
record stays, and it has been sent no request. -/
structure Departed (worker : NodeId) (mark : Option Bool) (since : List Effect)
    (session : Session) : Prop where
  closed : session.engine.ledger.closed? worker = some true
  gone : session.engine.scheduler.gone? worker = mark
  unsent : ∀ request job input accepted,
    .sent worker (.execute request job input) accepted ∉ since

/-- **A worker that has departed stays away.** -/
theorem Departed.chain (enrolled : Enrolled node history session) (other : worker ≠ node)
    (closed : session.engine.ledger.closed? worker = some true)
    (chain : Chain Stride session act) :
    Departed worker (session.engine.scheduler.gone? worker) act.effects act.value := by
  -- The agreement goes on with the history, the departure is looked at from now on.
  have kept : ∀ {since : List Effect} {state : Session} {next : Act Session},
      Enrolled node (history ++ since) state ∧
        Departed worker (session.engine.scheduler.gone? worker) since state →
      Stride state next →
      Enrolled node (history ++ (since ++ next.effects)) next.value ∧
        Departed worker (session.engine.scheduler.gone? worker) (since ++ next.effects)
          next.value := by
    rintro since state next ⟨enrolled, departed⟩ stride
    obtain ⟨change, _, addressed⟩ := stride.enrolment enrolled.master
    refine ⟨List.append_assoc .. ▸ enrolled.stride stride, change.closed? departed.closed, ?_, ?_⟩
    · exact (change.gone? (enrolled.agreement worker other) enrolled.master
        departed.closed).trans departed.gone
    · intro request job input accepted sent
      rcases List.mem_append.mp sent with before | now
      · exact departed.unsent request job input accepted before
      · have active := addressed _ _ _ _ _ (Effect.mem_outward.mpr ⟨now, rfl⟩)
        cases active.symm.trans departed.closed
  refine (@Chain.keeps _ _ _ _ _ (fun since state => Enrolled node (history ++ since) state ∧
    Departed worker (session.engine.scheduler.gone? worker) since state) kept [] chain
    ⟨?_, closed, rfl, nofun⟩).2
  rw [List.append_nil]
  exact enrolled

end Runs

/-- **The scheduler and the ledger of a master agree about every other node, and a node that has
departed never comes back.** -/
theorem membership_agrees (options : Options) (node : NodeId) (link : Link)
    (handlings : List Handling) {history : List Effect} {session : Session}
    (passes : Chain.Passes Stride (create options node node link)
      ((create options node node link).handleAll handlings) history session)
    {worker : NodeId} (other : worker ≠ node) :
    let scheduler := session.engine.scheduler
    let ledger := session.engine.ledger
    (ledger.isDeparted worker = true ↔ worker ∈ scheduler.departed) ∧
    (∀ record, scheduler.records.get? worker = some record →
      (record.departed = true ↔ worker ∈ scheduler.departed)) ∧
    (ledger.isRegistered worker = true →
      ∃ record, scheduler.records.get? worker = some record ∧ record.departed = false) ∧
    (.applied (.departed worker) ∈ history →
      ∀ later, Chain Stride session later →
        later.value.engine.ledger.isRegistered worker = false ∧
        later.value.engine.ledger.requests worker = [] ∧
        (scheduler.records.get? worker = none →
          later.value.engine.scheduler.records.get? worker = none) ∧
        (∀ record, later.value.engine.scheduler.records.get? worker = some record →
          record.departed = true) ∧
        ∀ request job input accepted,
          .sent worker (.execute request job input) accepted ∉ later.effects) := by
  intro scheduler ledger
  have enrolled : Enrolled node history session :=
    passes.reached.keeps Enrolled.stride (enrolled_create options node link)
  have agreement := enrolled.agreement worker other
  refine ⟨Ledger.isDeparted_iff.trans agreement.closed, fun record found => ?_,
    fun registered => ?_, fun applied later chain => ?_⟩
  · refine agreement.marked record.departed ?_
    rw [Scheduler.gone?, found]
    rfl
  · exact Scheduler.gone?_eq_false_iff.mp (agreement.known (Ledger.isRegistered_iff.mp registered))
  have closed := enrolled.noted worker applied
  have departed := Departed.chain enrolled other closed chain
  have gone : later.value.engine.scheduler.gone? worker = scheduler.gone? worker := departed.gone
  refine ⟨?_, ?_, fun none => ?_, fun record found => ?_, departed.unsent⟩
  · rw [← Bool.not_eq_true, Ledger.isRegistered_iff, departed.closed]
    intro active
    cases active
  · exact Ledger.requests_of_isDeparted (Ledger.isDeparted_iff.mpr departed.closed)
  · rw [Scheduler.gone?, Scheduler.gone?, none] at gone
    exact Option.map_eq_none_iff.mp gone
  · refine (agreement.marked record.departed ?_).mpr (agreement.closed.mp closed)
    rw [← gone, Scheduler.gone?, found]
    rfl

/-- A worker departs with a request, and its registration and its join arrive again in the same pass
as its departure and once more in a later one: it stays away, and its job stays in the queue. -/
theorem membership_agrees_late :
    let options := ({ scheduler := { selector := .roundRobin } } : Settings).options
    let earlier : List Handling := [.meet (.deliver ⟨2, .register⟩), .meet (.submit (.sleep 0) []),
      .meet .pass, .meet (.deliver ⟨2, .register⟩), .meet (.announce (.joined 2)),
      .meet (.announce (.departed 2)), .meet .pass]
    let later : List Handling := [.meet (.deliver ⟨2, .register⟩), .meet (.announce (.joined 2)),
      .meet .pass]
    let session := ((create options 1 1 {}).handleAll earlier).value
    let next := (session.handleAll later).value
    session.engine.scheduler.departed = [2] ∧ session.engine.ledger.isDeparted 2 = true ∧
      next.engine.ledger.isRegistered 2 = false ∧
      next.engine.scheduler.queue.map Submission.attempt = [2] ∧
      .sent 2 (.execute 2 (.sleep 0) []) true ∉ (session.handleAll later).effects := by
  obtain ⟨_, handy⟩ := chain_handled _
    (handy_create ({ scheduler := { selector := .roundRobin } } : Settings).options 1 1 {})
    [.meet (.deliver ⟨2, .register⟩), .meet (.submit (.sleep 0) []), .meet .pass,
      .meet (.deliver ⟨2, .register⟩), .meet (.announce (.joined 2)),
      .meet (.announce (.departed 2)), .meet .pass]
  obtain ⟨departed, _, _, away⟩ := membership_agrees
    ({ scheduler := { selector := .roundRobin } } : Settings).options 1 {} _
    (passes_handled _ 1 1 {}
      [.meet (.deliver ⟨2, .register⟩), .meet (.submit (.sleep 0) []), .meet .pass,
        .meet (.deliver ⟨2, .register⟩), .meet (.announce (.joined 2)),
        .meet (.announce (.departed 2)), .meet .pass]
      [.meet (.deliver ⟨2, .register⟩), .meet (.announce (.joined 2)), .meet .pass])
    (show (2 : NodeId) ≠ 1 by decide)
  obtain ⟨unregistered, _, _, _, unsent⟩ := away (List.mem_of_getElem? (i := 11) rfl) _
    (chain_handled _ handy
      [.meet (.deliver ⟨2, .register⟩), .meet (.announce (.joined 2)), .meet .pass]).1
  exact ⟨rfl, departed.mpr List.mem_cons_self, unregistered, rfl, unsent 2 _ _ _⟩

end Session

end JobPool
