/-
**What the operations of an engine do not look at.**

The margin of an engine is what stands beside its work: the arrivals that wait in its queues, the
reason to stop, and what it counts for its report. The operations of a pass work through the arrivals
one at a time, and none of them looks at the margin. So an operation on an engine with another
margin does the same, and leaves the other margin as it is, but for a message that is counted and an
event that is noted.

* `Engine.Margin`, `withMargin` — the margin of an engine, and the engine with another one;
* `Margin.note`, `accept_withMargin` — the margin once an event is accepted;
* `handle_withMargin`, `depart_withMargin`, `arrive_withMargin`, `dispatch_withMargin`,
  `runOne_withMargin` — the steps of a pass.
-/

import JobPool.Proofs.Chains
import JobPool.Proofs.Engine.Operations

namespace JobPool.Engine

/-- **What stands beside the work of an engine**: the arrivals in its queues, the reason to stop,
and the counts of messages. -/
structure Margin where
  mailbox : List Event
  inbound : List Message
  departed : List NodeId
  joined : List NodeId
  stopReason : Option StopReason
  messages : Nat
  longestQueue : Nat

def margin (engine : Engine) : Margin :=
  { mailbox := engine.mailbox
    inbound := engine.inbound
    departed := engine.departed
    joined := engine.joined
    stopReason := engine.stopReason
    messages := engine.messages
    longestQueue := engine.longestQueue }

/-- The engine with another margin. -/
def withMargin (engine : Engine) (margin : Margin) : Engine :=
  { engine with
    mailbox := margin.mailbox
    inbound := margin.inbound
    departed := margin.departed
    joined := margin.joined
    stopReason := margin.stopReason
    messages := margin.messages
    longestQueue := margin.longestQueue }

@[simp] theorem withMargin_margin (engine : Engine) : engine.withMargin engine.margin = engine := rfl

@[simp] theorem margin_withMargin (engine : Engine) (margin : Margin) :
    (engine.withMargin margin).margin = margin := rfl

@[simp] theorem withMargin_withMargin (engine : Engine) (first second : Margin) :
    (engine.withMargin first).withMargin second = engine.withMargin second := rfl

namespace Margin

/-- One message more has been handled. -/
def counted (margin : Margin) (messages : Nat) : Margin :=
  { margin with messages := margin.messages + messages }

/-- The margin once the engine of a node has accepted an event. -/
def note (node : NodeId) (margin : Margin) : Event → Margin
  | .message message => { margin with inbound := margin.inbound ++ [message] }
  | .membership (.joined other) => { margin with joined := margin.joined ++ [other] }
  | .membership (.departed other) =>
    if other = node then
      { margin with stopReason := margin.stopReason.or (some .declaredDead) }
    else { margin with departed := margin.departed ++ [other] }
  | .membership .poolTerminated =>
    { margin with stopReason := margin.stopReason.or (some .poolTerminated) }
  | .shutdown => { margin with stopReason := margin.stopReason.or (some .shutdownRequested) }
  | .submit .. | .endSubmissions => margin

/-- An accepted event is not put back. -/
theorem note_mailbox (margin : Margin) (node : NodeId) (box : List Event) (event : Event) :
    { margin with mailbox := box }.note node event =
      { margin.note node event with mailbox := box } := by
  cases event with
  | message message => rfl
  | membership change =>
    cases change with
    | departed other =>
      rw [note, note]
      split <;> rfl
    | joined other | poolTerminated => rfl
  | submit ticket job input | endSubmissions | shutdown => rfl

end Margin

section Operations

variable (engine : Engine) (margin : Margin)

/-! ### Events -/

theorem submit_withMargin (ticket : Ticket) (job : Job) (input : Bytes) :
    (engine.withMargin margin).submit ticket job input =
      ⟨(engine.submit ticket job input).value.withMargin margin,
        (engine.submit ticket job input).effects⟩ := by
  have accepts : (engine.withMargin margin).acceptsSubmissions = engine.acceptsSubmissions := rfl
  have ids : (engine.withMargin margin).jobIds = engine.jobIds := rfl
  have scheduler : (engine.withMargin margin).scheduler = engine.scheduler := rfl
  unfold submit
  rw [accepts, ids, scheduler]
  cases engine.acceptsSubmissions with
  | false => rfl
  | true =>
    cases engine.jobIds.take with
    | none => rfl
    | some taken =>
      obtain ⟨id, source⟩ := taken
      simp only [bind]
      generalize engine.scheduler.submit { id := id, job := job, input := input } = answer
      obtain ⟨result, effects⟩ := answer
      cases result <;> rfl

/-- **Accepting an event notes it in the margin**, whatever else is there. -/
theorem accept_withMargin (event : Event) :
    (engine.withMargin margin).accept event =
      ⟨(engine.accept event).value.withMargin (margin.note engine.node event),
        (engine.accept event).effects⟩ := by
  cases event with
  | message message => rfl
  | membership change =>
    cases change with
    | joined node => rfl
    | departed node =>
      have same : (engine.withMargin margin).node = engine.node := rfl
      rw [accept, accept, Margin.note, same]
      split <;> rfl
    | poolTerminated => rfl
  | submit ticket job input => exact engine.submit_withMargin margin ticket job input
  | endSubmissions => rfl
  | shutdown => rfl

theorem margin_accept (event : Event) :
    (engine.accept event).value.margin = engine.margin.note engine.node event :=
  congrArg (fun act : Act Engine => act.value.margin)
    (engine.accept_withMargin engine.margin event)

/-! ### Messages -/

theorem notify_withMargin (job : JobId) (outcome : Outcome) :
    (engine.withMargin margin).notify job outcome =
      ⟨(engine.notify job outcome).value.withMargin margin,
        (engine.notify job outcome).effects⟩ := by
  unfold notify
  have subscribers : (engine.withMargin margin).subscribers = engine.subscribers := rfl
  have abandoned : (engine.withMargin margin).abandonedTickets = engine.abandonedTickets := rfl
  rw [subscribers, abandoned]
  cases engine.subscribers.get? job with
  | none => rfl
  | some ticket =>
    dsimp only
    cases engine.abandonedTickets.contains ticket <;> rfl

theorem complete_withMargin (worker : NodeId) (request : RequestId) (result : Bytes)
    (failed : Bool) (seconds : Float) :
    (engine.withMargin margin).complete worker request result failed seconds =
      ⟨(engine.complete worker request result failed seconds).value.withMargin margin,
        (engine.complete worker request result failed seconds).effects⟩ := by
  unfold complete
  have ledger : (engine.withMargin margin).ledger = engine.ledger := rfl
  rw [ledger]
  simp only [bind]
  generalize engine.ledger.resolve worker request failed = answer
  obtain ⟨⟨resolved, left⟩, effects⟩ := answer
  cases resolved with
  | none =>
    dsimp only
    cases left.isDeparted worker <;> rfl
  | some submission =>
    have notified := notify_withMargin
      { engine with
        ledger := left
        scheduler := (engine.scheduler.complete worker seconds failed).value }
      margin submission.id (reported worker submission result failed seconds)
    exact congrArg (fun act : Act Engine => Traced.mk act.value (effects ++
      ([.resolved worker request true] ++
        ((engine.scheduler.complete worker seconds failed).effects ++ act.effects)))) notified

/-- **Handling a message counts it**, and looks at nothing else in the margin. -/
theorem handle_withMargin (message : Message) :
    (engine.withMargin margin).handle message =
      ⟨(engine.handle message).value.withMargin (margin.counted 1),
        (engine.handle message).effects⟩ := by
  obtain ⟨source, payload⟩ := message
  have isMaster : (engine.withMargin margin).scheduler.isMaster = engine.scheduler.isMaster := rfl
  unfold handle
  simp only [isMaster]
  cases payload with
  | execute request job input => cases engine.scheduler.isMaster <;> rfl
  | register => cases engine.scheduler.isMaster <;> rfl
  | completed request result failed seconds =>
    cases engine.scheduler.isMaster with
    | false => rfl
    | true =>
      have completed := complete_withMargin { engine with messages := engine.messages + 1 }
        (margin.counted 1) source request result failed seconds
      exact congrArg (fun act : Act Engine => Traced.mk act.value
        (.handled ⟨source, .completed request result failed seconds⟩ :: act.effects)) completed

theorem margin_handle (message : Message) :
    (engine.handle message).value.margin = engine.margin.counted 1 :=
  congrArg (fun act : Act Engine => act.value.margin)
    (engine.handle_withMargin engine.margin message)

/-! ### Membership -/

private theorem notify_all_withMargin (submissions : List Submission) :
    submissions.foldlM (fun engine submission =>
        engine.notify submission.id (.abandoned submission.id submission.attempt))
        (engine.withMargin margin) =
      ⟨(submissions.foldlM (fun (engine : Engine) submission =>
          engine.notify submission.id (.abandoned submission.id submission.attempt))
          engine).value.withMargin margin,
        (submissions.foldlM (fun (engine : Engine) submission =>
          engine.notify submission.id (.abandoned submission.id submission.attempt))
          engine).effects⟩ :=
  Traced.foldlM_commutes _ (fun state => state.withMargin margin)
    (fun state submission => state.notify_withMargin margin submission.id _) submissions engine

theorem depart_withMargin (node : NodeId) :
    (engine.withMargin margin).depart node =
      ⟨(engine.depart node).value.withMargin margin, (engine.depart node).effects⟩ := by
  have isMaster : (engine.withMargin margin).scheduler.isMaster = engine.scheduler.isMaster := rfl
  unfold depart
  simp only [isMaster]
  cases engine.scheduler.isMaster with
  | false =>
    have notified := notify_all_withMargin
      { engine with
        activePeers := engine.activePeers - 1
        scheduler := (engine.scheduler.leave node).value.takeAbandoned.2 }
      margin (engine.scheduler.leave node).value.takeAbandoned.1
    exact congrArg (fun act : Act Engine => Traced.mk act.value
      (.applied (.departed node) :: ((engine.scheduler.leave node).effects ++ act.effects)))
      notified
  | true =>
    simp only [Bool.not_true, Bool.false_eq_true, if_false]
    have scheduler : (engine.withMargin margin).scheduler = engine.scheduler := rfl
    have ledger : (engine.withMargin margin).ledger = engine.ledger := rfl
    rw [scheduler, ledger]
    simp only [bind]
    generalize engine.scheduler.reclaim engine.ledger node = answer
    obtain ⟨⟨count, scheduler, ledger⟩, effects⟩ := answer
    have notified := notify_all_withMargin
      { engine with
        activePeers := engine.activePeers - 1
        ledger := ledger
        scheduler := (scheduler.leave node).value.takeAbandoned.2 }
      margin (scheduler.leave node).value.takeAbandoned.1
    exact congrArg (fun act : Act Engine => Traced.mk act.value
      (.applied (.departed node) ::
        ((effects ++ []) ++ ((scheduler.leave node).effects ++ act.effects)))) notified

theorem margin_depart (node : NodeId) : (engine.depart node).value.margin = engine.margin :=
  congrArg (fun act : Act Engine => act.value.margin) (engine.depart_withMargin engine.margin node)

theorem arrive_withMargin (node : NodeId) :
    (engine.withMargin margin).arrive node =
      ⟨(engine.arrive node).value.withMargin margin, (engine.arrive node).effects⟩ := by
  have same : (engine.withMargin margin).node = engine.node := rfl
  rw [arrive, arrive, same]
  split <;> rfl

theorem margin_arrive (node : NodeId) : (engine.arrive node).value.margin = engine.margin :=
  congrArg (fun act : Act Engine => act.value.margin) (engine.arrive_withMargin engine.margin node)

/-! ### Dispatching and running -/

theorem dispatch_withMargin :
    (engine.withMargin margin).dispatch =
      ⟨(engine.dispatch.value.1.withMargin margin, engine.dispatch.value.2),
        engine.dispatch.effects⟩ := by
  have linked : (engine.withMargin margin).linked = engine.linked := rfl
  unfold dispatch
  rw [linked]
  cases engine.linked <;> rfl

private theorem execute_withMargin (request : WorkRequest) :
    (engine.withMargin margin).execute request =
      ⟨(engine.execute request).value.withMargin margin, (engine.execute request).effects⟩ := by
  have linked : (engine.withMargin margin).linked = engine.linked := rfl
  have link : (engine.withMargin margin).link = engine.link := rfl
  have node : (engine.withMargin margin).node = engine.node := rfl
  unfold execute
  simp only [linked, link, node]
  cases engine.linked with
  | false => rfl
  | true =>
    simp only [Bool.not_true, Bool.false_eq_true, if_false, bind]
    generalize engine.link.send request.source _ = answer
    obtain ⟨result, effects⟩ := answer
    cases result <;> rfl

theorem runOne_withMargin :
    (engine.withMargin margin).runOne =
      ⟨(engine.runOne.value.1.withMargin margin, engine.runOne.value.2),
        engine.runOne.effects⟩ := by
  have work : (engine.withMargin margin).work = engine.work := rfl
  unfold runOne
  rw [work]
  cases engine.work with
  | nil => rfl
  | cons request rest =>
    have executed := execute_withMargin { engine with work := rest } margin request
    exact congrArg (fun act : Act Engine => Traced.mk (act.value, true) (act.effects ++ []))
      executed

end Operations

end JobPool.Engine
