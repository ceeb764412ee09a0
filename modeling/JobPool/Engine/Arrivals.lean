/-
**What a pass does to the arrivals of an engine.**

The arrivals are the events in the mailbox and the messages and membership changes that have been
accepted and not handled. Handling a message, applying a membership change, dispatching and running
leave them and the reason to stop alone (`SameArrivals`); only accepting an event adds to them.

* `accept_arrivals` bounds what accepting an event adds;
* `receive_arrivals` and `applyMembership_arrivals` say what the first two steps of a pass take;
* `length_queue_maintain` says that a dispatch takes one job from the queue.
-/

import JobPool.Engine.Pass

namespace JobPool

/-- A dispatch takes one job from the queue, and without one the queue keeps its length. -/
theorem Scheduler.length_queue_maintain (scheduler : Scheduler) (ledger : Ledger) (link : Link) :
    (scheduler.maintain ledger link).value.2.1.queue.length +
        (scheduler.maintain ledger link).value.1.toNat = scheduler.queue.length := by
  unfold maintain
  split
  · rfl
  split
  next empty => simp [empty]
  next submission rest queued =>
    simp only
    split
    split
    · simp
    next worker =>
      rw [Traced.value_bind]
      split
      · simp
      · rw [Traced.value_bind, Traced.value_bind]
        split <;> simp [queued]

namespace Engine

/-- Two states of an engine with the same arrivals and the same reason to stop. -/
structure SameArrivals (first second : Engine) : Prop where
  mailbox : second.mailbox = first.mailbox
  connected : second.connected = first.connected
  inbound : second.inbound = first.inbound
  departed : second.departed = first.departed
  joined : second.joined = first.joined
  stopReason : second.stopReason = first.stopReason

theorem SameArrivals.refl (engine : Engine) : engine.SameArrivals engine :=
  ⟨rfl, rfl, rfl, rfl, rfl, rfl⟩

theorem SameArrivals.after {first second third : Engine} (right : second.SameArrivals third)
    (left : first.SameArrivals second) : first.SameArrivals third :=
  ⟨right.mailbox.trans left.mailbox, right.connected.trans left.connected,
    right.inbound.trans left.inbound, right.departed.trans left.departed,
    right.joined.trans left.joined, right.stopReason.trans left.stopReason⟩

/-- The jobs that are left in the queues. -/
def undone (engine : Engine) : Nat := engine.scheduler.queue.length + engine.work.length

/-! ## Steps that leave the arrivals alone -/

theorem notify_same (engine : Engine) (job : JobId) (outcome : Outcome) :
    engine.SameArrivals (engine.notify job outcome).value := by
  unfold notify
  split
  · exact .refl engine
  · rw [Traced.value_bind]
    split <;> exact ⟨rfl, rfl, rfl, rfl, rfl, rfl⟩

theorem complete_same (engine : Engine) (worker : NodeId) (request : RequestId) (result : Bytes)
    (failed : Bool) (seconds : Float) :
    engine.SameArrivals (engine.complete worker request result failed seconds).value := by
  unfold complete
  rw [Traced.value_bind]
  split
  rw [Traced.value_bind]
  split
  · split <;> exact ⟨rfl, rfl, rfl, rfl, rfl, rfl⟩
  · rw [Traced.value_bind]
    exact (notify_same _ _ _).after ⟨rfl, rfl, rfl, rfl, rfl, rfl⟩

theorem handle_same (engine : Engine) (message : Message) :
    engine.SameArrivals (engine.handle message).value := by
  unfold handle
  rw [Traced.value_bind]
  simp only
  split
  · exact ⟨rfl, rfl, rfl, rfl, rfl, rfl⟩
  · exact ⟨rfl, rfl, rfl, rfl, rfl, rfl⟩
  · exact ⟨rfl, rfl, rfl, rfl, rfl, rfl⟩
  · exact ⟨rfl, rfl, rfl, rfl, rfl, rfl⟩
  · exact (complete_same _ _ _ _ _ _).after ⟨rfl, rfl, rfl, rfl, rfl, rfl⟩
  · exact ⟨rfl, rfl, rfl, rfl, rfl, rfl⟩

theorem depart_same (engine : Engine) (node : NodeId) :
    engine.SameArrivals (engine.depart node).value := by
  unfold depart
  rw [Traced.value_bind, Traced.value_bind, Traced.value_bind]
  refine @Traced.foldlM_preserves _ _ _ engine.SameArrivals _ _ ?_ _ ?_
  · intro state submission _ same
    exact (notify_same _ _ _).after same
  · split <;> exact ⟨rfl, rfl, rfl, rfl, rfl, rfl⟩

theorem arrive_same (engine : Engine) (node : NodeId) :
    engine.SameArrivals (engine.arrive node).value := by
  unfold arrive
  split <;> exact ⟨rfl, rfl, rfl, rfl, rfl, rfl⟩

theorem dispatch_same (engine : Engine) : engine.SameArrivals engine.dispatch.value.1 := by
  unfold dispatch
  split <;> exact ⟨rfl, rfl, rfl, rfl, rfl, rfl⟩

theorem execute_same (engine : Engine) (request : WorkRequest) :
    engine.SameArrivals (engine.execute request).value := by
  unfold execute
  simp only [Traced.value_bind]
  split
  · exact ⟨rfl, rfl, rfl, rfl, rfl, rfl⟩
  · rw [Traced.value_bind]
    split <;> exact ⟨rfl, rfl, rfl, rfl, rfl, rfl⟩

/-- Running a job leaves the queues to the pass. -/
theorem undone_execute (engine : Engine) (request : WorkRequest) :
    (engine.execute request).value.undone = engine.undone := by
  unfold execute
  simp only [Traced.value_bind]
  split
  · rfl
  · rw [Traced.value_bind]
    split <;> rfl

theorem runOne_same (engine : Engine) : engine.SameArrivals engine.runOne.value.1 := by
  unfold runOne
  split
  · exact .refl engine
  · rw [Traced.value_bind]
    exact (execute_same _ _).after ⟨rfl, rfl, rfl, rfl, rfl, rfl⟩

/-! ## Accepting events -/

/-- The arrivals that have been accepted and not handled. -/
def held (engine : Engine) : Nat :=
  engine.inbound.length + engine.departed.length + engine.joined.length

/-- The second state has at most so many more arrivals held than the first, the same mailbox, and
a reason to stop if the first has one. -/
structure Accepted (first second : Engine) (count : Nat) : Prop where
  mailbox : second.mailbox = first.mailbox
  connected : second.connected = first.connected
  held : second.held ≤ first.held + count
  stopReason : first.stopReason.isSome → second.stopReason.isSome

theorem requestStop_isSome (engine : Engine) (reason : StopReason) :
    (engine.requestStop reason).stopReason.isSome = true := by
  cases stated : engine.stopReason <;> simp [requestStop, stated]

theorem accepted_requestStop (engine : Engine) (reason : StopReason) :
    engine.Accepted (engine.requestStop reason) 0 :=
  ⟨rfl, rfl, Nat.le_refl _, fun _ => requestStop_isSome engine reason⟩

theorem Accepted.weaken {first second : Engine} {count : Nat}
    (accepted : first.Accepted second 0) : first.Accepted second count :=
  ⟨accepted.mailbox, accepted.connected,
    Nat.le_trans accepted.held (Nat.add_le_add_left (Nat.zero_le count) _), accepted.stopReason⟩

theorem Accepted.trans {first second third : Engine} {count more : Nat}
    (left : first.Accepted second count) (right : second.Accepted third more) :
    first.Accepted third (count + more) := by
  refine ⟨right.mailbox.trans left.mailbox, right.connected.trans left.connected, ?_,
    fun stated => right.stopReason (left.stopReason stated)⟩
  have := left.held
  have := right.held
  omega

theorem submit_same (engine : Engine) (ticket : Ticket) (job : Job) (input : Bytes) :
    engine.SameArrivals (engine.submit ticket job input).value := by
  unfold submit
  split
  · exact ⟨rfl, rfl, rfl, rfl, rfl, rfl⟩
  split
  · exact ⟨rfl, rfl, rfl, rfl, rfl, rfl⟩
  · rw [Traced.value_bind]
    split <;> exact ⟨rfl, rfl, rfl, rfl, rfl, rfl⟩

theorem SameArrivals.accepted {first second : Engine} (same : first.SameArrivals second) :
    first.Accepted second 0 :=
  ⟨same.mailbox, same.connected,
    by simp [Engine.held, same.inbound, same.departed, same.joined],
    fun stated => same.stopReason ▸ stated⟩

/-- Accepting an event adds at most one arrival. -/
theorem accept_arrivals (engine : Engine) (event : Event) :
    engine.Accepted (engine.accept event).value 1 := by
  unfold accept
  split
  · exact ⟨rfl, rfl, by simp [Engine.held]; omega, id⟩
  · exact ⟨rfl, rfl, by simp [Engine.held]; omega, id⟩
  · split
    · exact (accepted_requestStop _ _).weaken
    · exact ⟨rfl, rfl, by simp [Engine.held]; omega, id⟩
  · exact (accepted_requestStop _ _).weaken
  · exact (submit_same _ _ _ _).accepted.weaken
  · exact ⟨rfl, rfl, by simp [Engine.held], id⟩
  · exact (accepted_requestStop _ _).weaken

theorem accept_all_arrivals (engine : Engine) (events : List Event) :
    engine.Accepted (events.foldlM accept engine).value events.length := by
  induction events generalizing engine with
  | nil => exact (SameArrivals.refl engine).accepted
  | cons event rest hypothesis =>
    rw [List.foldlM_cons, Traced.value_bind, List.length_cons, Nat.add_comm]
    exact (accept_arrivals engine event).trans (hypothesis _)

theorem handle_all_same (engine : Engine) (messages : List Message) :
    engine.SameArrivals (messages.foldlM handle engine).value :=
  Traced.foldlM_preserves handle messages
    (fun state message _ same => (handle_same state message).after same) (.refl engine)

/-! ## Progress -/

/-- The arrivals that are left, those in the mailbox counted twice because they are still to be
accepted. -/
def unhandled (engine : Engine) : Nat := 2 * engine.mailbox.length + engine.held

/-- The second state has no more left than the first, and after progress less: fewer arrivals, or as
many and fewer jobs. -/
structure Advances (first second : Engine) (progress : Bool) : Prop where
  stopReason : first.stopReason.isSome → second.stopReason.isSome
  idle : progress = false → second.unhandled ≤ first.unhandled ∧ second.undone ≤ first.undone
  less : progress = true → second.unhandled < first.unhandled ∨
    second.unhandled = first.unhandled ∧ second.undone < first.undone

theorem Advances.trans {first second third : Engine} {left right : Bool}
    (before : first.Advances second left) (after : second.Advances third right) :
    first.Advances third (left || right) := by
  refine ⟨fun stated => after.stopReason (before.stopReason stated), ?_, ?_⟩
  · intro none
    rw [Bool.or_eq_false_iff] at none
    have := before.idle none.1
    have := after.idle none.2
    omega
  · intro some
    cases left <;> cases right
    · cases some
    all_goals
      have := before.idle
      have := before.less
      have := after.idle
      have := after.less
      simp_all
      omega

/-- The state in which every event of the mailbox has been accepted. -/
private def accepting (engine : Engine) : Engine :=
  let engine := (engine.mailbox.foldlM accept { engine with mailbox := [] }).value
  if engine.connected then engine else engine.requestStop .disconnected

private theorem accepting_arrivals (engine : Engine) :
    { engine with mailbox := [] }.Accepted engine.accepting engine.mailbox.length := by
  have accepted := accept_all_arrivals { engine with mailbox := [] } engine.mailbox
  unfold accepting
  simp only
  split
  · exact accepted
  · exact accepted.trans (accepted_requestStop _ _)

private theorem accepting_of_empty (engine : Engine) (empty : engine.mailbox = []) :
    engine.accepting.scheduler = engine.scheduler ∧ engine.accepting.work = engine.work := by
  unfold accepting
  rw [empty]
  by_cases connected : engine.connected
  · simp [connected]
  · simp [connected, requestStop]

/-- Receiving empties the mailbox and handles every message. -/
theorem receive_advances (engine : Engine) :
    engine.Advances engine.receive.value.1 engine.receive.value.2 := by
  have accepted := engine.accepting_arrivals
  have handled := handle_all_same
    { engine.accepting with
      longestQueue := max engine.accepting.longestQueue engine.accepting.inbound.length
      inbound := [] } engine.accepting.inbound
  change engine.Advances
    (engine.accepting.inbound.foldlM handle
      { engine.accepting with
        longestQueue := max engine.accepting.longestQueue engine.accepting.inbound.length
        inbound := [] }).value
    (!engine.mailbox.isEmpty || !engine.accepting.inbound.isEmpty)
  have held := accepted.held
  have mailbox := handled.mailbox.trans accepted.mailbox
  have inbound := handled.inbound
  have departed := handled.departed
  have joined := handled.joined
  simp only [Engine.held] at held mailbox inbound departed joined
  refine ⟨?_, ?_, ?_⟩
  · intro stated
    rw [handled.stopReason]
    exact accepted.stopReason stated
  · intro none
    rw [Bool.or_eq_false_iff, Bool.not_eq_false', Bool.not_eq_false', List.isEmpty_iff,
      List.isEmpty_iff] at none
    have kept := engine.accepting_of_empty none.1
    rw [none.1] at held
    constructor
    · simp only [unhandled, Engine.held, mailbox, inbound, departed, joined, none.1]
      simp only [List.length_nil] at held ⊢
      omega
    · simp only [none.2, List.foldlM_nil, Traced.value_pure, undone, kept.1, kept.2]
      exact Nat.le_refl _
  · intro some
    left
    simp only [unhandled, Engine.held, mailbox, inbound, departed, joined]
    cases arrived : engine.mailbox with
    | cons event rest =>
      rw [arrived] at held
      simp only [List.length_cons, List.length_nil] at held ⊢
      omega
    | nil =>
      rw [arrived] at held some
      simp only [List.isEmpty_nil, Bool.not_true, Bool.false_or, Bool.not_eq_true',
        List.isEmpty_eq_false_iff, ← List.length_pos_iff] at some
      simp only [List.length_nil] at held ⊢
      omega

/-- The state in which every departure has been applied. -/
private def departing (engine : Engine) : Engine :=
  (engine.departed.foldlM depart { engine with departed := [] }).value

private theorem departing_same (engine : Engine) :
    { engine with departed := [] }.SameArrivals engine.departing :=
  Traced.foldlM_preserves depart engine.departed
    (fun state node _ same => (depart_same state node).after same) (.refl _)

theorem applyMembership_same (engine : Engine) :
    { engine with departed := [], joined := [] }.SameArrivals
      engine.applyMembership.value.1 := by
  have before := engine.departing_same
  have after : { engine.departing with joined := [] }.SameArrivals
      (engine.departing.joined.foldlM arrive { engine.departing with joined := [] }).value :=
    Traced.foldlM_preserves arrive engine.departing.joined
      (fun state node _ same => (arrive_same state node).after same) (.refl _)
  exact after.after ⟨before.mailbox, before.connected, before.inbound, before.departed, rfl,
    before.stopReason⟩

theorem applyMembership_advances (engine : Engine) :
    engine.Advances engine.applyMembership.value.1 engine.applyMembership.value.2 := by
  have same := engine.applyMembership_same
  refine ⟨fun stated => same.stopReason ▸ stated, ?_, ?_⟩
  · intro none
    have none : (!engine.departed.isEmpty || !engine.departing.joined.isEmpty) = false := none
    rw [Bool.or_eq_false_iff, Bool.not_eq_false', Bool.not_eq_false', List.isEmpty_iff,
      List.isEmpty_iff] at none
    refine ⟨?_, ?_⟩
    · simp only [unhandled, Engine.held, same.mailbox, same.inbound, same.departed, same.joined]
      simp
      omega
    · change undone (engine.departing.joined.foldlM arrive
        { engine.departing with joined := [] }).value ≤ engine.undone
      rw [none.2]
      change engine.departing.undone ≤ engine.undone
      unfold departing
      rw [none.1]
      exact Nat.le_refl _
  · intro some
    left
    have same_joined : engine.departing.joined = engine.joined := engine.departing_same.joined
    have some : (!engine.departed.isEmpty || !engine.departing.joined.isEmpty) = true := some
    rw [same_joined, Bool.or_eq_true, Bool.not_eq_true', Bool.not_eq_true',
      List.isEmpty_eq_false_iff, List.isEmpty_eq_false_iff, ← List.length_pos_iff,
      ← List.length_pos_iff] at some
    simp only [unhandled, Engine.held, same.mailbox, same.inbound, same.departed, same.joined]
    simp only [List.length_nil]
    omega

theorem dispatch_advances (engine : Engine) :
    engine.Advances engine.dispatch.value.1 engine.dispatch.value.2 := by
  have same := engine.dispatch_same
  have taken := engine.scheduler.length_queue_maintain engine.ledger engine.link
  have equal : engine.dispatch.value.1.unhandled = engine.unhandled := by
    simp only [unhandled, Engine.held, same.mailbox, same.inbound, same.departed, same.joined]
  have fewer : engine.dispatch.value.1.undone + engine.dispatch.value.2.toNat =
      engine.undone := by
    unfold dispatch undone
    split
    · simp
    · simp only [Traced.value_bind, Traced.value_pure]
      exact (Nat.add_right_comm _ _ _).trans (congrArg (· + engine.work.length) taken)
  refine ⟨fun stated => same.stopReason ▸ stated, fun none => ?_, fun some => ?_⟩
  · rw [none] at fewer
    exact ⟨Nat.le_of_eq equal, Nat.le_of_eq fewer⟩
  · rw [some] at fewer
    exact .inr ⟨equal, by rw [← fewer]; exact Nat.lt_succ_self _⟩

theorem runOne_advances (engine : Engine) :
    engine.Advances engine.runOne.value.1 engine.runOne.value.2 := by
  have same := engine.runOne_same
  have equal : engine.runOne.value.1.unhandled = engine.unhandled := by
    simp only [unhandled, Engine.held, same.mailbox, same.inbound, same.departed, same.joined]
  have fewer : engine.runOne.value.1.undone + engine.runOne.value.2.toNat = engine.undone := by
    unfold runOne
    split
    · rfl
    next request rest queued =>
      refine (congrArg (· + 1) (undone_execute { engine with work := rest } request)).trans ?_
      simp only [undone, queued, List.length_cons]
      omega
  refine ⟨fun stated => same.stopReason ▸ stated, fun none => ?_, fun some => ?_⟩
  · rw [none] at fewer
    exact ⟨Nat.le_of_eq equal, Nat.le_of_eq fewer⟩
  · rw [some] at fewer
    exact .inr ⟨equal, by rw [← fewer]; exact Nat.lt_succ_self _⟩

/-! ## Whole passes -/

/-- The two parts of a pass up to the dispatch, with or without a reason to stop in between. -/
theorem beginPass_advances (engine : Engine) :
    engine.Advances engine.beginPass.value.1 engine.beginPass.value.2 := by
  have received := engine.receive_advances
  unfold beginPass
  rw [Traced.value_bind]
  simp only
  split
  · exact received
  · simp only [Traced.value_bind, Traced.value_pure]
    exact (received.trans (applyMembership_advances _)).trans (dispatch_advances _)

theorem tick_advances (engine : Engine) :
    engine.Advances engine.tick.value.1 engine.tick.value.2 := by
  have begun := engine.beginPass_advances
  unfold tick
  rw [Traced.value_bind]
  simp only
  split
  · exact begun
  · simp only [Traced.value_bind, Traced.value_pure]
    exact begun.trans (runOne_advances _)

end Engine

end JobPool
