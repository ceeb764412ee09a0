/-
**The passes of an engine come to rest.**

An engine makes passes as long as they bring progress, and then waits for the next event. An event
brings new work, a departure brings dispatched jobs back into the queue, and a pass dispatches and
runs one job at most, so no queue gets shorter with every pass. What does not grow is the whole
workload, in which a dispatched job still counts. After the first pass nothing is left that could
refill a queue, and from then on every pass with progress takes a job from one.

* `Engine.repeatTicks` — passes until one brings no progress or leaves a reason to stop;
* `Engine.workload`, `receive_load`, `applyMembership_load` — what there is to do, and that the
  first steps of a pass only move it;
* `Engine.Cleared`, `tick_of_cleared` — an engine without arrivals, and its passes;
* `repeatTicks_le` — how many passes there are;
* `Engine.Rests`, `rests_repeatTicks` — what is left after them;
* `Session.passes_come_to_rest` — both, in every state of an engine.
-/

import JobPool.Proofs.DispatchEffect
import JobPool.Proofs.Engine.Reasons
import JobPool.Proofs.Records

namespace JobPool

namespace Ledger

variable {ledger after : Ledger}

/-- A departure leaves the requests of the other workers. -/
theorem total_close (ledger : Ledger) (worker : NodeId) :
    (ledger.requests worker).length + (ledger.close worker).total = ledger.total := by
  rw [total_eq_length_held, total_eq_length_held, (ledger.held_close worker).length_eq,
    List.length_append]

/-- A request that is struck counts no more. -/
theorem total_resolved {worker : NodeId} {before later : List Request} {request : Request}
    (active : ledger.accounts.get? worker = some (.active (before ++ request :: later)))
    (entered : after.accounts = ledger.accounts.insert worker (.active (before ++ later))) :
    after.total + 1 = ledger.total := by
  rw [total_eq_length_held, total_eq_length_held, (held_resolved active entered).length_eq,
    List.length_cons]

theorem total_register (ledger : Ledger) (worker : NodeId) :
    (ledger.register worker).value.total = ledger.total := by
  rw [total_eq_length_held, total_eq_length_held, (ledger.held_register worker).length_eq]

end Ledger

namespace Scheduler

variable {scheduler : Scheduler} {ledger : Ledger} {link : Link}

/-- **A dispatch that does not take place** has nothing or nobody to dispatch, or no identity. -/
theorem maintain_refused_cases (refused : (scheduler.maintain ledger link).value.1 = false) :
    (scheduler.isMaster = false ∨ scheduler.queue = [] ∨
        ∀ worker, ¬ scheduler.Ready ledger worker) ∧
      (scheduler.maintain ledger link).value = (false, scheduler, ledger) ∨
    ledger.requestIds.take = none ∧ (scheduler.maintain ledger link).value.2.2 = ledger := by
  rcases scheduler.maintain_exact ledger link with ⟨idle, same⟩ |
    ⟨_, _, _, _, _, _, _, _, _, _, _, ⟨exhausted, value, _⟩ | ⟨_, _, _, value, _⟩⟩
  · exact .inl ⟨idle.imp_right (.imp_right candidates_eq_nil_iff.mp), by rw [same]⟩
  · exact .inr ⟨exhausted, by rw [value]⟩
  · rw [value] at refused
    cases refused

/-- Without an identity no dispatch takes place. -/
theorem maintain_of_exhausted (exhausted : ledger.requestIds.take = none) :
    (scheduler.maintain ledger link).value.1 = false := by
  rcases scheduler.maintain_exact ledger link with ⟨_, same⟩ |
    ⟨_, _, _, _, _, _, _, _, _, _, _, ⟨_, value, _⟩ | ⟨_, _, taken, _⟩⟩
  · rw [same]
  · rw [value]
  · cases exhausted.symm.trans taken

/-- A dispatch that does not take place does not take place the next time either. -/
theorem maintain_again (refused : (scheduler.maintain ledger link).value.1 = false) :
    ((scheduler.maintain ledger link).value.2.1.maintain
      (scheduler.maintain ledger link).value.2.2 link).value.1 = false := by
  rcases maintain_refused_cases refused with ⟨_, same⟩ | ⟨exhausted, kept⟩
  · rw [same]
    exact refused
  · rw [kept]
    exact maintain_of_exhausted exhausted

end Scheduler

namespace Engine

/-! ### The passes -/

/-- **Passes are made until one brings no progress or leaves a reason to stop.** The result is their
number with the engine after the last one. -/
def repeatTicks (engine : Engine) : Nat × Engine :=
  if engine.tick.value.2 = true ∧ engine.tick.value.1.stopReason = none then
    let rest := engine.tick.value.1.repeatTicks
    (rest.1 + 1, rest.2)
  else (1, engine.tick.value.1)
termination_by engine.remaining
decreasing_by
  rename_i goesOn
  exact engine.tick_advances.lex fun none => (Bool.false_ne_true (none.symm.trans goesOn.1)).elim

/-! ### The workload -/

/-- What has been accepted and not been done. A dispatched job counts until its completion. -/
def load (engine : Engine) : Nat :=
  engine.inbound.length + engine.departed.length + engine.joined.length +
    engine.scheduler.queue.length + engine.ledger.total + engine.work.length

/-- All that there is to do: the events, the messages, the departures, the joins, the pending jobs,
the outstanding requests and the requested jobs. -/
def workload (engine : Engine) : Nat := engine.mailbox.length + engine.load

theorem undone_le_load (engine : Engine) : engine.undone ≤ engine.load := by
  unfold undone load
  omega

/-- An event brings one thing to do at most. -/
theorem load_accept (engine : Engine) (event : Event) :
    (engine.accept event).value.load ≤ engine.load + 1 := by
  rcases engine.accept_cases event with ⟨ticket, job, input, _, taken⟩ |
    ⟨_, ⟨_, _, value⟩ | ⟨_, _, value⟩ | ⟨_, _, _, value⟩ | ⟨_, _, value⟩ | ⟨_, value⟩⟩
  · rw [taken]
    rcases engine.submit_cases ticket job input with
      ⟨_, _, _, _, value, _⟩ | ⟨_, _, _, _, _, value, _⟩
    · rw [value]
      exact Nat.le_succ _
    · rw [value]
      simp only [load, List.length_append, List.length_singleton]
      omega
  all_goals
    rw [value]
    simp only [load, requestStop, List.length_append, List.length_singleton]
    omega

/-- A completion does not add to the load: it strikes a request or none. -/
private theorem load_complete (engine : Engine) (worker : NodeId) (request : RequestId)
    (result : Bytes) (failed : Bool) (seconds : Float) :
    (engine.complete worker request result failed seconds).value.load ≤ engine.load := by
  rcases engine.complete_exact worker request result failed seconds with
    ⟨records, _, value, _⟩ | ⟨before, struck, later, records, active, _, value, _⟩
  · rw [value]
    exact Nat.le_refl _
  · rw [value]
    let after : Ledger := { engine.ledger with
      accounts := engine.ledger.accounts.insert worker (.active (before ++ later))
      outstanding := engine.ledger.outstanding - 1 }
    have fewer : after.total + 1 = engine.ledger.total := Ledger.total_resolved active rfl
    show _ + after.total + _ ≤ _
    simp only [load]
    omega

/-- A message brings one thing to do at most. -/
theorem load_handle (engine : Engine) (message : Message) :
    (engine.handle message).value.load ≤ engine.load + 1 := by
  rcases engine.handle_cases message with
    ⟨_, _, _, _, _, value, _⟩ | ⟨_, _, _, _, _, _, value, _⟩ | ⟨_, _, value, _⟩ | ⟨_, _, value, _⟩
  · rw [value]
    simp only [load, List.length_append, List.length_singleton]
    omega
  · rw [value]
    exact Nat.le_succ_of_le (load_complete _ _ _ _ _ _)
  · rw [value]
    simp only [load, (engine.scheduler.queue_join message.source).1,
      engine.ledger.total_register message.source]
    omega
  · rw [value]
    exact Nat.le_succ _

/-- A departure does not add to the load: what returns to the queue was outstanding. -/
theorem load_depart (engine : Engine) (node : NodeId) :
    (engine.depart node).value.load ≤ engine.load := by
  rcases engine.depart_exact node with
    ⟨_, departed, records, value, _⟩ | ⟨_, role, subscribers, told, _, _, value, _⟩
  · rw [value]
    have held := engine.ledger.total_close node
    have returned : (engine.scheduler.retried
        ((engine.ledger.requests node).map Request.submission)).length ≤
          (engine.ledger.requests node).length := by
      rw [Scheduler.retried, List.length_map]
      exact Nat.le_trans (List.length_filter_le _ _) (Nat.le_of_eq (List.length_map _))
    simp only [load, Scheduler.returning, List.length_append]
    omega
  · rw [value]
    exact Nat.le_refl _

theorem load_arrive (engine : Engine) (node : NodeId) :
    (engine.arrive node).value.load ≤ engine.load := by
  rcases engine.arrive_cases node with ⟨_, value, _⟩ | ⟨_, value, _⟩
  · exact Nat.le_of_eq (congrArg load value)
  · have same : (engine.arrive node).value.load = engine.load := by
      rw [value]
      simp only [load, (engine.scheduler.queue_join node).1]
    exact Nat.le_of_eq same

/-- The engine of a pass that has accepted its mailbox and noticed whether more can come. -/
def heeding (engine : Engine) : Engine :=
  (engine.mailbox.foldlM accept { engine with mailbox := [] }).value.severed

/-- **Receiving turns events into other things to do**, each into one at most. -/
theorem receive_load (engine : Engine) : engine.receive.value.1.load ≤ engine.workload := by
  have sorted : (engine.mailbox.foldlM accept { engine with mailbox := [] }).value.load ≤
      engine.load + 1 * engine.mailbox.length :=
    Traced.foldlM_grows load load_accept engine.mailbox { engine with mailbox := [] }
  have heeded : engine.heeding.load ≤ engine.load + 1 * engine.mailbox.length := by
    unfold heeding severed
    split <;> exact sorted
  have handled : engine.receive.value.1.load ≤
      engine.heeding.measured.load + 1 * engine.heeding.inbound.length :=
    Traced.foldlM_grows load load_handle engine.heeding.inbound engine.heeding.measured
  have emptied : engine.heeding.measured.load + engine.heeding.inbound.length =
      engine.heeding.load := by
    simp only [load, measured, List.length_nil]
    omega
  unfold workload
  omega

/-- **Applying the membership does not add to the load.** -/
theorem applyMembership_load (engine : Engine) :
    engine.applyMembership.value.1.load ≤ engine.load := by
  let departing := (engine.departed.foldlM depart { engine with departed := [] }).value
  let arriving := (departing.joined.foldlM arrive { departing with joined := [] }).value
  have moved : engine.applyMembership.value.1 = arriving := rfl
  rw [moved]
  have departed : departing.load ≤ _ + 0 * _ :=
    Traced.foldlM_grows load load_depart engine.departed { engine with departed := [] }
  have arrived : arriving.load ≤ _ + 0 * _ :=
    Traced.foldlM_grows load load_arrive departing.joined { departing with joined := [] }
  simp only [load, Nat.zero_mul, List.length_nil] at departed arrived ⊢
  omega

/-! ### An engine without arrivals -/

/-- Nothing has arrived that has not been handled, and somebody can still send events. -/
structure Cleared (engine : Engine) : Prop where
  mailbox : engine.mailbox = []
  connected : engine.connected = true
  inbound : engine.inbound = []
  departed : engine.departed = []
  joined : engine.joined = []

theorem Cleared.same {engine next : Engine} (cleared : engine.Cleared)
    (same : engine.SameArrivals next) : next.Cleared :=
  ⟨same.mailbox.trans cleared.mailbox, same.connected.trans cleared.connected,
    same.inbound.trans cleared.inbound, same.departed.trans cleared.departed,
    same.joined.trans cleared.joined⟩

theorem Cleared.unhandled {engine : Engine} (cleared : engine.Cleared) : engine.unhandled = 0 := by
  simp [Engine.unhandled, Engine.held, cleared.mailbox, cleared.inbound, cleared.departed,
    cleared.joined]

/-- Progress of an engine without arrivals takes a job from one of its queues. -/
theorem Cleared.undone {engine next : Engine} {progress : Bool} (cleared : engine.Cleared)
    (still : next.Cleared) (advances : engine.Advances next progress) :
    next.undone + progress.toNat ≤ engine.undone := by
  cases progress with
  | false => exact (advances.idle rfl).2
  | true =>
    rcases advances.less rfl with fewer | ⟨_, fewer⟩
    · rw [still.unhandled, cleared.unhandled] at fewer
      exact (Nat.lt_irrefl 0 fewer).elim
    · exact fewer

/-- Unless it finds a reason to stop, a pass leaves no event and no message. -/
private theorem receive_empties (engine : Engine)
    (running : engine.receive.value.1.stopReason = none) :
    engine.receive.value.1.mailbox = [] ∧ engine.receive.value.1.connected = true ∧
      engine.receive.value.1.inbound = [] := by
  obtain ⟨mailbox, _, reason⟩ := engine.took_receive
  have connected : engine.connected = true := by
    cases joined : engine.connected with
    | true => rfl
    | false =>
      rw [joined, running] at reason
      cases stated : engine.stopReason.or (firstCause engine.node engine.mailbox) <;>
        simp [stated] at reason
  have arrivals := accept_all_arrivals { engine with mailbox := [] } engine.mailbox
  have heeded : engine.heeding.connected = engine.connected := by
    unfold heeding severed
    split <;> exact arrivals.connected
  have handled : engine.heeding.measured.SameArrivals engine.receive.value.1 :=
    handle_all_same engine.heeding.measured engine.heeding.inbound
  exact ⟨List.self_eq_append_right.mp mailbox,
    handled.connected.trans (heeded.trans connected), handled.inbound⟩

/-- **Unless it finds a reason to stop, a pass leaves no arrivals.** -/
theorem cleared_applyMembership (engine : Engine)
    (running : engine.receive.value.1.stopReason = none) :
    engine.receive.value.1.applyMembership.value.1.Cleared := by
  obtain ⟨mailbox, connected, inbound⟩ := engine.receive_empties running
  have same := engine.receive.value.1.applyMembership_same
  exact ⟨same.mailbox.trans mailbox, same.connected.trans connected, same.inbound.trans inbound,
    same.departed, same.joined⟩

/-! ### The steps of a pass -/

/-- A pass ends after the messages if there is a reason to stop. -/
theorem tick_of_stopped (engine : Engine)
    (stopped : engine.receive.value.1.stopReason.isSome = true) :
    engine.tick.value = engine.receive.value := by
  simp only [tick, beginPass, Traced.value_bind, stopped, if_true, Traced.value_pure]

/-- Without a reason to stop a pass applies the membership, dispatches and runs. -/
theorem tick_of_running (engine : Engine) (running : engine.receive.value.1.stopReason = none) :
    let moved := engine.receive.value.1.applyMembership.value
    let dispatched := moved.1.dispatch.value
    let ran := dispatched.1.runOne.value
    engine.tick.value = (ran.1, engine.receive.value.2 || moved.2 || dispatched.2 || ran.2) ∧
      ran.1.stopReason = none := by
  intro moved dispatched ran
  have still : dispatched.1.stopReason = none :=
    moved.1.dispatch_same.stopReason.trans
      ((applyMembership_same _).stopReason.trans running)
  refine ⟨?_, dispatched.1.runOne_same.stopReason.trans still⟩
  have begun : engine.beginPass.value =
      (dispatched.1, engine.receive.value.2 || moved.2 || dispatched.2) := by
    simp only [beginPass, Traced.value_bind, running, Option.isSome_none, Bool.false_eq_true,
      if_false, Traced.value_pure]
    rfl
  simp only [tick, Traced.value_bind, begun, still, Option.isSome_none, Bool.false_eq_true,
    if_false, Traced.value_pure]
  rfl

/-- A pass without a reason to stop has found none after the messages. -/
theorem running_of_tick (engine : Engine) (running : engine.tick.value.1.stopReason = none) :
    engine.receive.value.1.stopReason = none := by
  cases stated : engine.receive.value.1.stopReason with
  | none => rfl
  | some reason =>
    rw [engine.tick_of_stopped (by rw [stated, Option.isSome_some]), stated] at running
    cases running

/-- **Without arrivals a pass only dispatches and runs.** -/
theorem tick_of_cleared (engine : Engine) (cleared : engine.Cleared)
    (running : engine.stopReason = none) :
    engine.tick.value =
      (engine.dispatch.value.1.runOne.value.1,
        engine.dispatch.value.2 || engine.dispatch.value.1.runOne.value.2) := by
  have received : engine.receive.value = (engine, false) := by
    obtain ⟨mailbox, connected, inbound, _, _⟩ := cleared
    obtain ⟨⟩ := engine
    subst mailbox connected inbound
    simp [receive]
  have moved : engine.applyMembership.value = (engine, false) := by
    obtain ⟨_, _, _, departed, joined⟩ := cleared
    obtain ⟨⟩ := engine
    subst departed joined
    simp [applyMembership]
  have passed := (engine.tick_of_running (by rw [received]; exact running)).1
  rw [received] at passed
  rw [moved] at passed
  exact passed

theorem runOne_eq_of_idle {engine : Engine} (idle : engine.runOne.value.2 = false) :
    engine.work = [] ∧ engine.runOne.value.1 = engine := by
  unfold runOne at idle ⊢
  split at idle
  next none => exact ⟨none, rfl⟩
  next => cases idle

theorem dispatch_of_linked (engine : Engine) (linked : engine.linked = true) :
    engine.dispatch.value =
      ({ engine with
          scheduler := (engine.scheduler.maintain engine.ledger engine.link).value.2.1
          ledger := (engine.scheduler.maintain engine.ledger engine.link).value.2.2 },
        (engine.scheduler.maintain engine.ledger engine.link).value.1) := by
  rw [dispatch, linked]
  rfl

/-- A dispatch that does not take place does not take place the next time either. -/
theorem dispatch_again (engine : Engine) (refused : engine.dispatch.value.2 = false) :
    engine.dispatch.value.1.dispatch.value.2 = false := by
  cases linked : engine.linked with
  | false =>
    have same : engine.dispatch = pure (engine, false) := by
      rw [dispatch, linked]
      rfl
    rw [same]
    exact refused
  | true =>
    rw [engine.dispatch_of_linked linked] at refused ⊢
    rw [dispatch]
    simp only [linked]
    exact Scheduler.maintain_again refused

/-- Without arrivals, without a job to run and without a dispatch a pass brings no progress. -/
theorem tick_of_spent {engine : Engine} (cleared : engine.Cleared)
    (running : engine.stopReason = none) (idle : engine.work = [])
    (refused : engine.dispatch.value.2 = false) : engine.tick.value.2 = false := by
  have left : engine.dispatch.value.1.work = [] := by
    rcases engine.dispatch_cases with
      ⟨_, _, value, _⟩ | ⟨_, _, _, _, _, _, _, _, _, _, _, _, _, value, _⟩
    all_goals
      rw [value]
      exact idle
  have still : engine.dispatch.value.1.runOne.value.2 = false := by
    rw [runOne, left]
    rfl
  rw [engine.tick_of_cleared cleared running, refused, still]
  rfl

/-! ### The number of passes -/

/-- Without arrivals and without a reason to stop an engine stays so. -/
theorem cleared_tick (engine : Engine) (cleared : engine.Cleared)
    (running : engine.stopReason = none) :
    engine.tick.value.1.Cleared ∧ engine.tick.value.1.stopReason = none := by
  rw [engine.tick_of_cleared cleared running]
  have same := (runOne_same _).after engine.dispatch_same
  exact ⟨cleared.same same, same.stopReason.trans running⟩

/-- Without arrivals there is a pass for each job in the queues at most, and a last one. -/
theorem repeatTicks_of_cleared (engine : Engine) (cleared : engine.Cleared)
    (running : engine.stopReason = none) : engine.repeatTicks.1 ≤ engine.undone + 1 := by
  fun_induction repeatTicks engine with
  | case1 engine goesOn rest hypothesis =>
    obtain ⟨still, ongoing⟩ := engine.cleared_tick cleared running
    have fewer := cleared.undone still engine.tick_advances
    rw [goesOn.1] at fewer
    exact Nat.succ_le_succ (Nat.le_trans (hypothesis still ongoing) fewer)
  | case2 => exact Nat.le_add_left 1 _

/-- **There is a pass for each thing to do at most, and a last one.** -/
theorem repeatTicks_le (engine : Engine) : engine.repeatTicks.1 ≤ engine.workload + 1 := by
  rw [repeatTicks]
  split
  next goesOn =>
    have running := engine.running_of_tick goesOn.2
    have cleared := engine.cleared_applyMembership running
    have bounded : engine.receive.value.1.applyMembership.value.1.undone ≤ engine.workload :=
      Nat.le_trans (undone_le_load _) (Nat.le_trans (applyMembership_load _) engine.receive_load)
    obtain ⟨passed, ongoing⟩ := engine.tick_of_running running
    have pending : 0 < engine.workload := by
      have advances := engine.tick_advances.less goesOn.1
      simp only [unhandled, Engine.held, undone] at advances
      simp only [workload, load]
      omega
    rw [passed] at goesOn ⊢
    generalize engine.receive.value.1.applyMembership.value.1 = moved at *
    have dispatched := cleared.same moved.dispatch_same
    have ran := dispatched.same moved.dispatch.value.1.runOne_same
    have taken := cleared.undone dispatched moved.dispatch_advances
    have done := dispatched.undone ran moved.dispatch.value.1.runOne_advances
    have rest := repeatTicks_of_cleared _ ran ongoing
    dsimp only
    by_cases worked : (moved.dispatch.value.2 || moved.dispatch.value.1.runOne.value.2) = true
    · have one : 1 ≤ moved.dispatch.value.2.toNat +
          moved.dispatch.value.1.runOne.value.2.toNat := by
        rcases Bool.or_eq_true_iff.mp worked with happened | happened
        · rw [happened]
          exact Nat.le_add_right 1 _
        · rw [happened]
          exact Nat.le_add_left 1 _
      omega
    · -- The arrivals were all the progress there was, so the next pass is the last one.
      rw [Bool.not_eq_true, Bool.or_eq_false_iff] at worked
      obtain ⟨idle, same⟩ := runOne_eq_of_idle worked.2
      rw [same] at ran ongoing ⊢
      have last : moved.dispatch.value.1.repeatTicks.1 = 1 := by
        rw [repeatTicks, if_neg]
        rintro ⟨progress, _⟩
        have none := tick_of_spent ran ongoing idle (moved.dispatch_again worked.1)
        exact Bool.false_ne_true (none.symm.trans progress)
      omega
  next => exact Nat.le_add_left 1 _

/-! ### What is left after the passes -/

/-- **The engine has come to rest**: nothing has arrived, no job is requested of it, and on the
master every job that is pending finds all workers that are present busy. -/
structure Rests (engine : Engine) : Prop where
  mailbox : engine.mailbox = []
  inbound : engine.inbound = []
  departed : engine.departed = []
  joined : engine.joined = []
  work : engine.work = []
  busy : engine.scheduler.isMaster = true → engine.ledger.requestIds.next < IdSource.limit →
    engine.scheduler.queue = [] ∨ ∀ worker, ¬ engine.scheduler.Ready engine.ledger worker

/-- An engine without arrivals that neither dispatches nor runs has come to rest. -/
theorem rests_of_idle {engine : Engine} (cleared : engine.Cleared) (linked : engine.linked = true)
    (refused : engine.dispatch.value.2 = false)
    (idle : engine.dispatch.value.1.runOne.value.2 = false) :
    engine.dispatch.value.1.runOne.value.1.Rests := by
  obtain ⟨work, same⟩ := runOne_eq_of_idle idle
  rw [same]
  obtain ⟨mailbox, _, inbound, departed, joined⟩ := cleared.same engine.dispatch_same
  refine ⟨mailbox, inbound, departed, joined, work, fun master left => ?_⟩
  rw [engine.dispatch_of_linked linked] at refused master left ⊢
  rcases Scheduler.maintain_refused_cases refused with ⟨unable, kept⟩ | ⟨exhausted, kept⟩
  · simp only [kept] at master ⊢
    exact unable.resolve_left (ne_false_of_eq_true master)
  · simp only [kept] at left
    rw [IdSource.take, if_pos left] at exhausted
    cases exhausted

/-- **After the passes an engine has come to rest**, or has a reason to stop. -/
theorem rests_repeatTicks (engine : Engine) (linked : engine.linked = true)
    (running : engine.repeatTicks.2.stopReason = none) : engine.repeatTicks.2.Rests := by
  fun_induction repeatTicks engine with
  | case1 engine goesOn rest hypothesis =>
    exact hypothesis (engine.steady_tick.linked.trans linked) running
  | case2 engine ends =>
    have none : engine.tick.value.2 = false :=
      Bool.eq_false_iff.mpr fun progress => ends ⟨progress, running⟩
    have received := engine.running_of_tick running
    rw [(engine.tick_of_running received).1] at none ⊢
    simp only [Bool.or_eq_false_iff] at none
    refine rests_of_idle (engine.cleared_applyMembership received) ?_ none.1.2 none.2
    exact (steady_applyMembership _).linked.trans (engine.steady_receive.linked.trans linked)

/-! ### The passes in a run -/

theorem settle_of_step {engine : Engine} {gateOpen : Bool} {next : Act Engine}
    (step : engine.step? gateOpen = some next) :
    (engine.settle gateOpen).value = (next.value.settle gateOpen).value := by
  rw [settle]
  split
  next done => cases done.symm.trans step
  next other taken =>
    cases taken.symm.trans step
    rfl

private theorem conclude_of_progress {engine : Engine} (passing : engine.stage = .passing)
    (running : engine.stopReason = none) : (engine.conclude true).value = engine := by
  rw [conclude, if_pos (by rw [running]; rfl), Traced.value_pure, ← passing]

private theorem conclude_of_last {engine : Engine} {progress : Bool}
    (ends : ¬ (progress = true ∧ engine.stopReason = none)) :
    engine.conclude progress = engine.conclude false := by
  have last : ¬ (progress && engine.stopReason.isNone) = true := by
    rwa [Bool.and_eq_true, Option.isNone_iff_eq_none]
  have idle : ¬ (false && engine.stopReason.isNone) = true := Bool.false_ne_true
  rw [conclude, conclude, if_neg last, if_neg idle]

/-- **These are the passes that a run makes** before it turns to waiting or to its end. -/
theorem settle_of_passing (engine : Engine) (passing : engine.stage = .passing)
    (running : engine.stopReason = none) :
    (engine.settle true).value =
      ((engine.repeatTicks.2.conclude false).value.settle true).value := by
  have passed : ∀ engine : Engine, engine.stage = .passing → engine.stopReason = none →
      (engine.settle true).value =
        ((engine.tick.value.1.conclude engine.tick.value.2).value.settle true).value := by
    intro engine passing running
    have step : engine.step? true = some (engine.pass true) := by rw [step?, passing]
    rw [settle_of_step step, engine.pass_eq_tick running]
    rfl
  fun_induction repeatTicks engine with
  | case1 engine goesOn rest hypothesis =>
    have still : engine.tick.value.1.stage = .passing := engine.steady_tick.stage.trans passing
    rw [passed engine passing running, goesOn.1, conclude_of_progress still goesOn.2]
    exact hypothesis still goesOn.2
  | case2 engine ends => rw [passed engine passing running, conclude_of_last ends]

end Engine

namespace Session

variable {options : Options} {node master : NodeId} {link : Link}

/-- A new engine keeps its link until it has a reason to stop. -/
theorem linked_of_running {act : Act Session}
    (chain : Chain Stride (create options node master link) act)
    (running : act.value.engine.stopReason = none) : act.value.engine.linked = true := by
  refine chain.preserves (motive := fun session =>
    session.engine.stopReason = none → session.engine.linked = true) ?_ (fun _ => rfl) running
  intro session next held stride running
  have course := stride.course
  cases course.passage with
  | stays _ linked =>
    rw [linked]
    refine held ?_
    cases stated : session.engine.stopReason with
    | none => rfl
    | some reason => cases running.symm.trans (course.kept reason stated)
  | stops _ _ _ _ stated =>
    rw [running] at stated
    cases stated

/-- **The passes of an engine come to rest.** In every state without a reason to stop, and whatever
is in its mailbox, an engine makes as many passes as there are things to do and one more at most.
Unless it has found a reason to stop it has then handled all that had arrived and run all that was
requested; and while identities are left, no pending job of a master waits for a worker that is
present and has room. -/
theorem passes_come_to_rest (options : Options) (node master : NodeId) (link : Link)
    (handlings : List Handling) {history : List Effect} {session : Session}
    (passes : Chain.Passes Stride (create options node master link)
      ((create options node master link).handleAll handlings) history session)
    (running : session.engine.stopReason = none) (mailbox : List Event) :
    let start := { session.engine with mailbox := mailbox }
    let last := start.repeatTicks.2
    start.repeatTicks.1 ≤ start.workload + 1 ∧
    (last.stopReason = none →
      last.mailbox = [] ∧ last.inbound = [] ∧ last.departed = [] ∧ last.joined = [] ∧
      last.work = [] ∧
      (last.scheduler.isMaster = true → last.ledger.requestIds.next < IdSource.limit →
        last.scheduler.queue = [] ∨
        ∀ worker, last.ledger.isRegistered worker = true →
          (∃ record, last.scheduler.records.get? worker = some record ∧
            record.departed = false) →
          last.scheduler.policy.maxOutstanding ≤ last.ledger.outstandingOn worker)) := by
  intro start last
  refine ⟨start.repeatTicks_le, fun ongoing => ?_⟩
  have linked : start.linked = true := linked_of_running passes.reached running
  obtain ⟨mailbox, inbound, departed, joined, work, busy⟩ := start.rests_repeatTicks linked ongoing
  refine ⟨mailbox, inbound, departed, joined, work, fun master left => ?_⟩
  exact (busy master left).imp_right fun unready worker registered present =>
    Scheduler.le_outstandingOn_of_not_ready (unready worker) registered present

/-- The only worker departs with a request as another one registers and a second job is submitted.
The second job is dispatched in the first pass, the first one is left in the queue for a worker that
has as many requests as it may have, and the second pass is the last one. -/
theorem passes_come_to_rest_busy :
    let options : Options :=
      ({ scheduler := { selector := .roundRobin, maxOutstanding := 1 } } : Settings).options
    let session := ((create options 1 1 {}).handleAll [.meet (.deliver ⟨2, .register⟩),
      .meet (.submit (.sleep 0) []), .meet .pass]).value
    let start := { session.engine with mailbox := [.membership (.departed 2),
      .message ⟨3, .register⟩, .submit 1 (.sleep 0) []] }
    let last := start.repeatTicks.2
    start.repeatTicks.1 = 2 ∧ start.workload = 4 ∧ 2 ≤ start.workload + 1 ∧
      last.scheduler.queue.map Submission.attempt = [2] ∧ last.work = [] ∧
      1 ≤ last.ledger.outstandingOn 3 := by
  intro options session start last
  have first : start.tick.value.2 = true ∧ start.tick.value.1.stopReason = none := by
    decide +kernel
  have second : start.tick.value.1.tick.value.2 = false := by decide +kernel
  have twice : start.repeatTicks = (2, start.tick.value.1.tick.value.1) := by
    rw [Engine.repeatTicks, if_pos first, Engine.repeatTicks,
      if_neg fun goesOn => Bool.false_ne_true (second.symm.trans goesOn.1)]
  have ends : last = start.tick.value.1.tick.value.1 := by
    show start.repeatTicks.2 = _
    rw [twice]
  obtain ⟨running, master, left, pending, registered, present, policy⟩ :
      last.stopReason = none ∧ last.scheduler.isMaster = true ∧
        last.ledger.requestIds.next < IdSource.limit ∧
        last.scheduler.queue.map Submission.attempt = [2] ∧
        last.ledger.isRegistered 3 = true ∧ last.scheduler.gone? 3 = some false ∧
        last.scheduler.policy.maxOutstanding = 1 := by
    rw [ends]
    decide +kernel
  obtain ⟨bounded, rests⟩ := passes_come_to_rest options 1 1 {} _
    (passes_handled options 1 1 {} [.meet (.deliver ⟨2, .register⟩),
      .meet (.submit (.sleep 0) []), .meet .pass] []) (by decide +kernel) start.mailbox
  obtain ⟨_, _, _, _, idle, busy⟩ := rests running
  have workload : start.workload = 4 := by decide +kernel
  have calls : start.repeatTicks.1 = 2 := by rw [twice]
  refine ⟨calls, workload, calls ▸ bounded, pending, idle, ?_⟩
  rcases busy master left with none | full
  · rw [show last.scheduler.queue = [] from none] at pending
    cases pending
  · exact policy ▸ full 3 registered (Scheduler.gone?_eq_false_iff.mp present)

end Session

end JobPool
