/-
**The run of an engine.**

A run starts, makes passes as long as they bring progress, waits for the next event, and ends once
there is a reason to stop: the engine then shuts down and leaves a report. `Engine.step?` is one
step of a run, and `Engine.settle` runs an engine until it waits for an event that has not come, is
blocked by a job, or has ended. Jobs that block wait for a gate, which stands for whatever lets them
go on from outside.

* `step?_shrinks` says that every step leaves less to do, in the order `Engine.remaining`: a reason
  to stop, then fewer arrivals, then fewer jobs in the queues, then a later stage;
* `step?_settle` says that a settled engine has no step left.
-/

import JobPool.Engine.Arrivals

namespace JobPool

/-- The place in the course of a run between two events, counted from its end. -/
def Stage.rank : Stage → Nat
  | .created => 4
  | .passing => 3
  | .holding => 2
  | .waiting => 1
  | .finished | .discarded => 0

namespace Options

/-- A wait longer than this is a long one, if the share of the interval is a duration. -/
def longWait (options : Options) : Except DurationFault Duration :=
  Duration.ofSeconds (options.longSleepRatio * options.sleepInterval.toSeconds)

end Options

namespace Engine

/-! ## Stopping -/

/-- Nothing is left to do and no more is expected. -/
def shouldStop (engine : Engine) : Bool :=
  engine.scheduler.isDone engine.ledger &&
    (!engine.scheduler.isMaster || !engine.acceptsSubmissions)

/-- The reason for which an engine with nothing left to do stops. -/
def naturalReason (engine : Engine) : StopReason :=
  if engine.scheduler.isMaster then .completed else .masterDeparted

/-- Gives an engine with nothing left to do a reason to stop. -/
def stopIfDone (engine : Engine) : Engine :=
  if engine.shouldStop then engine.requestStop engine.naturalReason else engine

/-- Tells every submitter that still waits that the engine has stopped. -/
def dismiss (tickets : List Ticket) : Act Unit :=
  tickets.forM fun ticket => answer ticket (.error .engineStopped)

/-- The tickets of the submissions in the mailbox. -/
def unacceptedTickets (engine : Engine) : List Ticket :=
  engine.mailbox.filterMap fun
    | .submit ticket .. => some ticket
    | _ => none

/-- The jobs without an outcome in the log, if there are any. -/
def logIncomplete (engine : Engine) : Act Unit := do
  if engine.subscribers.size ≠ 0 then
    Act.warn (s!"{engine.subscribers.size} submitted job(s) on node {engine.node} " ++
      "did not complete")

/-- Closes the link, if the engine still holds it. -/
def unlink (engine : Engine) : Act Engine := do
  if !engine.linked then return engine
  Traced.emit .linkClosed
  match engine.link.joinFault with
  | none => return { engine with linked := false }
  | some fault =>
    Act.warn s!"failed to drain the transport of node {engine.node}: {fault.message}"
    return { engine with linked := false }

/-- Closes the link and dismisses the submitters. A second time has no effect. -/
def shutdown (engine : Engine) : Act Engine := do
  if engine.phase ≠ .running then return engine
  let engine ← ({ engine with phase := .draining }.requestStop .shutdownRequested).unlink
  engine.logIncomplete
  dismiss engine.subscribers.values
  let engine := { engine with subscribers := .empty, phase := .stopped }
  engine.logStatistics
  return engine

/-- The engine goes away without a report. Nobody answers its submitters any more. -/
def discard (engine : Engine) : Act Engine := do
  if engine.isGone then return engine
  dismiss (engine.subscribers.values ++ engine.unacceptedTickets)
  return { engine with subscribers := .empty, mailbox := [], stage := .discarded }

/-- The engine cannot go on, and goes away. -/
def breakDown (engine : Engine) (cause : Breakdown) : Act Engine := do
  Traced.emit (.brokeDown cause)
  engine.discard

/-- Shuts the engine down and ends its run with a report. Nobody looks at the mailbox any more. -/
def finish (engine : Engine) : Act Engine := do
  let engine ← engine.shutdown
  dismiss engine.unacceptedTickets
  return { engine with mailbox := [], stage := .finished }

/-! ## The course of a run -/

/-- Starts the run. A worker registers with its master, if it still has its link. -/
def start (engine : Engine) : Act Engine := do
  Act.info s!"engine started on node {engine.node} as {engine.scheduler.role.text}"
  match engine.scheduler.role with
  | .master => return { engine with stage := .passing }
  | .worker master _ =>
    if !engine.linked then return { engine with stage := .passing }
    match ← engine.link.send master .register with
    | .ok () => return { engine with stage := .passing }
    | .error fault =>
      Act.warn s!"failed to register with master {master}: {fault.message}"
      return { engine with stage := .passing }

/-- What follows a pass or a wait: a pass after progress, else the end or a wait. -/
def conclude (engine : Engine) (progress : Bool) : Act Engine := do
  if progress && engine.stopReason.isNone then return { engine with stage := .passing }
  let engine := engine.stopIfDone
  if engine.stopReason.isSome then engine.finish else return { engine with stage := .waiting }

/-- The next job blocks, as the gate is closed. -/
def isHeldUp (engine : Engine) (gateOpen : Bool) : Bool :=
  match engine.work with
  | [] => false
  | request :: _ => request.job.gated && !gateOpen

/-- The rest of a pass that was held up. -/
def resume (engine : Engine) : Act Engine := do
  let (engine, ran) ← engine.runOne
  engine.conclude ran

/-- One pass and what follows it. -/
def pass (engine : Engine) (gateOpen : Bool) : Act Engine := do
  if engine.stopReason.isSome then engine.conclude false
  else
    let (engine, progress) ← engine.beginPass
    if engine.stopReason.isSome then engine.conclude progress
    else if engine.isHeldUp gateOpen then return { engine with stage := .holding }
    else
      let (engine, ran) ← engine.runOne
      engine.conclude (progress || ran)

/-- With the gate open one pass is a tick. -/
theorem pass_eq_tick (engine : Engine) (running : engine.stopReason = none) :
    engine.pass true = (do
      let (engine, progress) ← engine.tick
      engine.conclude progress) := by
  have never : ∀ state : Engine, state.isHeldUp true = false := by
    intro state
    unfold isHeldUp
    split <;> simp
  unfold pass tick
  simp only [running, Option.isSome_none, Bool.false_eq_true, if_false, never, bind_assoc]
  congr 1
  funext state
  split <;> simp

/-- A wait of more than the given time leaves the state in the log, if it reaches the limit and has
peers. -/
def logWait (engine : Engine) (limit waited : Duration) : Act Unit :=
  if limit.nanoseconds ≤ waited.nanoseconds && engine.activePeers > 0 then engine.logState
  else pure ()

/-- What follows a wait of more than the given time. Where it cannot be told which waits are long,
the engine breaks down. -/
def endWait (engine : Engine) (waited : Duration) : Act Engine :=
  match engine.options.longWait with
  | .error fault => engine.breakDown (.unmeasurable fault)
  | .ok limit => do
    engine.logWait limit waited
    engine.conclude true

/-- A wait that ends with an event. -/
def wake (engine : Engine) (event : Event) : Act Engine := do
  let engine ← engine.accept event
  engine.endWait {}

/-- A wait that ends because nobody can send events any more. -/
def giveUp (engine : Engine) : Act Engine := (engine.requestStop .disconnected).endWait {}

/-- A wait that ends without an event once the sleep interval is over. -/
def timeOut (engine : Engine) : Act Engine :=
  if engine.stage = .waiting then engine.endWait engine.options.sleepInterval else pure engine

/-- The next step of a run, none when there is nothing to do before the next event. -/
def step? (engine : Engine) (gateOpen : Bool) : Option (Act Engine) :=
  match engine.stage with
  | .created => some engine.start
  | .passing => some (engine.pass gateOpen)
  | .holding => if gateOpen then some engine.resume else none
  | .waiting =>
    match engine.mailbox with
    | event :: rest => some ({ engine with mailbox := rest }.wake event)
    | [] => if engine.connected then none else some engine.giveUp
  | .finished | .discarded => none

/-- There is a next step. -/
def isReady (engine : Engine) (gateOpen : Bool) : Bool :=
  match engine.stage with
  | .created | .passing => true
  | .holding => gateOpen
  | .waiting => !engine.mailbox.isEmpty || !engine.connected
  | .finished | .discarded => false

theorem isReady_eq (engine : Engine) (gateOpen : Bool) :
    engine.isReady gateOpen = (engine.step? gateOpen).isSome := by
  unfold isReady step?
  cases engine.stage with
  | waiting =>
    cases engine.mailbox with
    | nil => cases engine.connected <;> rfl
    | cons event rest => rfl
  | holding => cases gateOpen <;> rfl
  | created | passing | finished | discarded => rfl

/-- Takes the next step, if there is one. -/
def advance (engine : Engine) (gateOpen : Bool) : Act Engine :=
  (engine.step? gateOpen).getD (pure engine)

/-! ## Every step leaves less to do -/

theorem requestStop_advances (engine : Engine) (reason : StopReason) :
    engine.Advances (engine.requestStop reason) false :=
  ⟨fun _ => requestStop_isSome engine reason, fun _ => ⟨Nat.le_refl _, Nat.le_refl _⟩, nofun⟩

theorem unlink_advances (engine : Engine) : engine.Advances engine.unlink.value false := by
  unfold unlink
  split
  · exact ⟨id, fun _ => ⟨Nat.le_refl _, Nat.le_refl _⟩, nofun⟩
  · rw [Traced.value_bind]
    split <;> exact ⟨id, fun _ => ⟨Nat.le_refl _, Nat.le_refl _⟩, nofun⟩

theorem shutdown_advances (engine : Engine) : engine.Advances engine.shutdown.value false := by
  unfold shutdown
  split
  · exact ⟨id, fun _ => ⟨Nat.le_refl _, Nat.le_refl _⟩, nofun⟩
  · have stopped := ({ engine with phase := .draining }.requestStop_advances
      .shutdownRequested).trans (unlink_advances _)
    exact ⟨stopped.stopReason, stopped.idle, nofun⟩

theorem discard_advances (engine : Engine) : engine.Advances engine.discard.value false := by
  unfold discard
  split
  · exact ⟨id, fun _ => ⟨Nat.le_refl _, Nat.le_refl _⟩, nofun⟩
  · refine ⟨id, fun _ => ⟨?_, Nat.le_refl _⟩, nofun⟩
    exact Nat.add_le_add_right (Nat.mul_le_mul_left 2 (Nat.zero_le _)) _

theorem finish_advances (engine : Engine) : engine.Advances engine.finish.value false := by
  have stopped := engine.shutdown_advances
  refine ⟨stopped.stopReason, fun none => ⟨?_, (stopped.idle none).2⟩, nofun⟩
  refine Nat.le_trans ?_ (stopped.idle none).1
  exact Nat.add_le_add_right (Nat.mul_le_mul_left 2 (Nat.zero_le _)) _

theorem conclude_advances (engine : Engine) (progress : Bool) :
    engine.Advances (engine.conclude progress).value false := by
  unfold conclude
  split
  · exact ⟨id, fun _ => ⟨Nat.le_refl _, Nat.le_refl _⟩, nofun⟩
  · simp only
    have asked : engine.Advances engine.stopIfDone false := by
      unfold stopIfDone
      split
      · exact engine.requestStop_advances _
      · exact ⟨id, fun _ => ⟨Nat.le_refl _, Nat.le_refl _⟩, nofun⟩
    split
    · exact asked.trans (finish_advances _)
    · exact ⟨asked.stopReason, asked.idle, nofun⟩

/-- Without progress a pass is followed by a wait or by the end. -/
theorem rank_conclude (engine : Engine) :
    (engine.conclude false).value.stage.rank ≤ Stage.waiting.rank := by
  unfold conclude
  rw [if_neg (by simp)]
  simp only
  split
  · exact Nat.zero_le _
  · exact Nat.le_refl _

/-- With a reason to stop the run ends. -/
theorem rank_conclude_of_stopped (engine : Engine) (progress : Bool)
    (stopped : engine.stopReason.isSome = true) :
    (engine.conclude progress).value.stage.rank < Stage.waiting.rank := by
  unfold conclude
  rw [if_neg (by simp [Option.isSome_iff_ne_none.mp stopped])]
  have still : engine.stopIfDone.stopReason.isSome = true := by
    unfold stopIfDone
    split
    · exact requestStop_isSome _ _
    · exact stopped
  simp only [still, if_true]
  exact Nat.zero_lt_one

/-- An engine that goes away has nothing left to do. -/
theorem rank_discard (engine : Engine) : engine.discard.value.stage.rank = 0 := by
  unfold discard
  split
  next gone =>
    unfold isGone at gone
    revert gone
    change _ → engine.stage.rank = 0
    cases engine.stage <;> simp [Stage.rank]
  · rfl

theorem endWait_advances (engine : Engine) (waited : Duration) :
    engine.Advances (engine.endWait waited).value false := by
  unfold endWait
  split
  · exact engine.discard_advances
  · exact engine.conclude_advances true

/-- With a reason to stop the run ends with the wait. -/
theorem rank_endWait_of_stopped (engine : Engine) (waited : Duration)
    (stopped : engine.stopReason.isSome = true) :
    (engine.endWait waited).value.stage.rank < Stage.waiting.rank := by
  unfold endWait
  split
  · exact Nat.lt_of_le_of_lt (Nat.le_of_eq (rank_discard engine)) Nat.zero_lt_one
  · exact rank_conclude_of_stopped engine true stopped

theorem value_start (engine : Engine) : engine.start.value = { engine with stage := .passing } := by
  unfold start
  rw [Traced.value_bind]
  split
  · rfl
  · split
    · rfl
    · rw [Traced.value_bind]
      split <;> rfl

theorem start_advances (engine : Engine) : engine.Advances engine.start.value false := by
  rw [value_start]
  exact ⟨id, fun _ => ⟨Nat.le_refl _, Nat.le_refl _⟩, nofun⟩

theorem stage_start (engine : Engine) : engine.start.value.stage = .passing := by
  rw [value_start]

/-- What is left of a run, the most weighty first. -/
def remaining (engine : Engine) : Nat × Nat × Nat × Nat :=
  (1 - engine.stopReason.isSome.toNat, engine.unhandled, engine.undone, engine.stage.rank)

/-- Progress, or a later stage, leaves less of the run. -/
theorem Advances.lex {first second : Engine} {progress : Bool}
    (advances : first.Advances second progress)
    (later : progress = false → second.stage.rank < first.stage.rank) :
    Prod.Lex (· < ·) (Prod.Lex (· < ·) (Prod.Lex (· < ·) (· < ·)))
      second.remaining first.remaining := by
  have kept : 1 - second.stopReason.isSome.toNat ≤ 1 - first.stopReason.isSome.toNat := by
    have := advances.stopReason
    cases stated : first.stopReason.isSome
    · exact Nat.sub_le 1 _
    · simp [this stated]
  rcases Nat.lt_or_eq_of_le kept with fewer | same
  · exact .left _ _ fewer
  unfold remaining
  rw [same]
  refine .right _ ?_
  cases progress with
  | true =>
    rcases advances.less rfl with fewer | ⟨equal, fewer⟩
    · exact .left _ _ fewer
    · rw [equal]
      exact .right _ (.left _ _ fewer)
  | false =>
    have idle := advances.idle rfl
    rcases Nat.lt_or_eq_of_le idle.1 with fewer | equal
    · exact .left _ _ fewer
    rw [equal]
    refine .right _ ?_
    rcases Nat.lt_or_eq_of_le idle.2 with fewer | equal
    · exact .left _ _ fewer
    rw [equal]
    exact .right _ (later rfl)

theorem pass_lex (engine : Engine) (gateOpen : Bool) (passing : engine.stage = .passing) :
    Prod.Lex (· < ·) (Prod.Lex (· < ·) (Prod.Lex (· < ·) (· < ·)))
      (engine.pass gateOpen).value.remaining engine.remaining := by
  have early : ∀ state : Engine, (state.conclude false).value.stage.rank < engine.stage.rank := by
    intro state
    rw [passing]
    exact Nat.lt_of_le_of_lt (rank_conclude state) (by decide)
  unfold pass
  split
  · exact (engine.conclude_advances false).lex fun _ => early engine
  rw [Traced.value_bind]
  have begun := engine.beginPass_advances
  generalize engine.beginPass.value = result at begun ⊢
  obtain ⟨state, progress⟩ := result
  simp only at begun ⊢
  split
  · refine (begun.trans (conclude_advances _ _)).lex fun none => ?_
    rw [Bool.or_false] at none
    rw [none]
    exact early state
  split
  · have held : engine.Advances { state with stage := .holding } progress :=
      ⟨begun.stopReason, begun.idle, begun.less⟩
    refine held.lex fun _ => ?_
    rw [passing]
    exact (by decide : Stage.holding.rank < Stage.passing.rank)
  · rw [Traced.value_bind]
    have ran := state.runOne_advances
    generalize state.runOne.value = result at ran ⊢
    obtain ⟨last, more⟩ := result
    simp only at ran ⊢
    refine ((begun.trans ran).trans (conclude_advances _ _)).lex fun none => ?_
    rw [Bool.or_false] at none
    rw [none]
    exact early last

theorem resume_lex (engine : Engine) (holding : engine.stage = .holding) :
    Prod.Lex (· < ·) (Prod.Lex (· < ·) (Prod.Lex (· < ·) (· < ·)))
      engine.resume.value.remaining engine.remaining := by
  unfold resume
  rw [Traced.value_bind]
  have ran := engine.runOne_advances
  generalize engine.runOne.value = result at ran ⊢
  obtain ⟨last, more⟩ := result
  simp only at ran ⊢
  refine (ran.trans (conclude_advances _ _)).lex fun none => ?_
  rw [Bool.or_false] at none
  rw [none, holding]
  exact Nat.lt_of_le_of_lt (rank_conclude last) (by decide)

theorem wake_lex (engine : Engine) (event : Event) (rest : List Event)
    (arrived : engine.mailbox = event :: rest) :
    Prod.Lex (· < ·) (Prod.Lex (· < ·) (Prod.Lex (· < ·) (· < ·)))
      ({ engine with mailbox := rest }.wake event).value.remaining engine.remaining := by
  have accepted := accept_arrivals { engine with mailbox := rest } event
  have advances : engine.Advances ({ engine with mailbox := rest }.accept event).value true := by
    refine ⟨accepted.stopReason, (fun idle => by cases idle), fun _ => .inl ?_⟩
    have held := accepted.held
    have mailbox := accepted.mailbox
    change 2 * ({ engine with mailbox := rest }.accept event).value.mailbox.length +
      ({ engine with mailbox := rest }.accept event).value.held <
        2 * engine.mailbox.length + engine.held
    rw [mailbox, arrived]
    simp only [Engine.held, List.length_cons] at held ⊢
    omega
  exact (advances.trans (endWait_advances _ {})).lex fun idle => by cases idle

/-- Every step of a run leaves less of it. -/
theorem step?_shrinks (engine : Engine) (gateOpen : Bool) (next : Act Engine)
    (step : engine.step? gateOpen = some next) :
    Prod.Lex (· < ·) (Prod.Lex (· < ·) (Prod.Lex (· < ·) (· < ·)))
      next.value.remaining engine.remaining := by
  unfold step? at step
  split at step
  next created =>
    cases step
    refine (start_advances engine).lex fun _ => ?_
    rw [stage_start, created]
    decide
  next passing =>
    cases step
    exact engine.pass_lex gateOpen passing
  next holding =>
    split at step
    · cases step
      exact engine.resume_lex holding
    · cases step
  next waiting =>
    split at step
    next event rest arrived =>
      cases step
      exact engine.wake_lex event rest arrived
    · split at step
      · cases step
      · cases step
        refine ((engine.requestStop_advances _).trans (endWait_advances _ {})).lex fun _ => ?_
        rw [waiting]
        exact rank_endWait_of_stopped _ {} (requestStop_isSome _ _)
  · cases step
  · cases step

/-- Runs the engine until it has no step left. -/
def settle (engine : Engine) (gateOpen : Bool) : Act Engine :=
  match _ : engine.step? gateOpen with
  | none => pure engine
  | some next =>
    let rest := next.value.settle gateOpen
    ⟨rest.value, next.effects ++ rest.effects⟩
termination_by engine.remaining
decreasing_by exact engine.step?_shrinks gateOpen _ (by assumption)

/-- A settled engine has no step left. -/
theorem step?_settle (engine : Engine) (gateOpen : Bool) :
    (engine.settle gateOpen).value.step? gateOpen = none := by
  fun_induction settle engine gateOpen with
  | case1 engine done => exact done
  | case2 engine next step rest hypothesis => exact hypothesis

/-! ## Events from outside -/

/-- Puts an event into the mailbox. An engine that is gone drops it. -/
def post (engine : Engine) (event : Event) : Act Engine := do
  if !engine.isGone then return { engine with mailbox := engine.mailbox ++ [event] }
  Act.debug s!"engine on node {engine.node} has stopped, dropping event"
  match event with
  | .submit ticket .. => dismiss [ticket]
  | .message _ | .membership _ | .endSubmissions | .shutdown => pure ()
  return engine

/-- Nobody can send events any more. -/
def disconnect (engine : Engine) : Engine := { engine with connected := false }

/-- The submitter stops waiting for an answer. -/
def abandonTicket (engine : Engine) (ticket : Ticket) : Engine :=
  { engine with abandonedTickets := engine.abandonedTickets ++ [ticket] }

/-- The threads of the engine could not be started, and it goes away without a run. An engine that
has begun its run stays. -/
def abort (engine : Engine) : Act Engine :=
  if engine.stage = .created then engine.breakDown .unstarted else pure engine

/-- The name of the thread that runs the engine of a node. -/
def threadName (node : NodeId) : String := s!"maw-engine-{node}"

end Engine

end JobPool
