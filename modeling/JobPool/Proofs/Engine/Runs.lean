/-
**Every run of an engine is a chain of moves.**

A step of a run empties a queue and works through what it held. Taking the items one at a time comes
to the same, because no operation looks at the queue that its items come from. So a pass is a path
of moves in the order of the queues, and a step of a run is a pass or a wait followed by the end of
the run or the next turn.

* `receive_eq` — receiving as the two loops that it is made of;
* `steady_tick`, `chain_tick` — what a pass leaves alone, and its moves, from those of its parts;
* `chain_advance`, `chain_timeOut`, `chain_abort` — a step of a run, a wait that ends, and a run that
  never begins.
-/

import JobPool.Proofs.Engine.Margins
import JobPool.Proofs.Engine.Moves

namespace JobPool.Engine

/-! ### A pass -/

/-- Accepting a whole mailbox is a chain of moves. -/
private theorem chain_accept (engine : Engine) (events : List Event)
    (alive : engine.isGone = false) (empty : engine.mailbox = []) :
    Chain Move { engine with mailbox := events } (events.foldlM accept engine) := by
  induction events generalizing engine with
  | nil =>
    have same : { engine with mailbox := [] } = engine := by rw [← empty]
    rw [same]
    exact .refl engine
  | cons event rest hypothesis =>
    have move : Move { engine with mailbox := event :: rest }
        ((engine.withMargin { engine.margin with mailbox := rest }).accept event) :=
      .accept alive rfl
    rw [accept_withMargin] at move
    have later := hypothesis (engine.accept event).value
      ((steady_accept engine event).isGone.trans alive)
      ((accept_arrivals engine event).mailbox.trans empty)
    have same : { (engine.accept event).value with mailbox := rest } =
        (engine.accept event).value.withMargin
          ({ engine.margin with mailbox := rest }.note engine.node event) := by
      show withMargin _ { (engine.accept event).value.margin with mailbox := rest } = _
      rw [margin_accept, engine.margin.note_mailbox engine.node rest event]
    rw [same] at later
    have whole := Chain.step move later
    exact whole

/-- Handling the whole queue of messages is a chain of moves. -/
private theorem chain_handle (engine : Engine) (messages : List Message)
    (alive : engine.isGone = false) (accepted : engine.mailbox = [])
    (empty : engine.inbound = []) :
    Chain Move { engine with inbound := messages } (messages.foldlM handle engine) := by
  induction messages generalizing engine with
  | nil =>
    have same : { engine with inbound := [] } = engine := by rw [← empty]
    rw [same]
    exact .refl engine
  | cons message rest hypothesis =>
    have left := handle_same engine message
    have move : Move { engine with inbound := message :: rest }
        ((engine.withMargin { engine.margin with inbound := rest }).handle message) :=
      .handle alive accepted rfl
    rw [handle_withMargin] at move
    have later := hypothesis (engine.handle message).value
      ((steady_handle engine message).isGone.trans alive)
      (left.mailbox.trans accepted) (left.inbound.trans empty)
    have same : { (engine.handle message).value with inbound := rest } =
        (engine.handle message).value.withMargin
          ({ engine.margin with inbound := rest }.counted 1) := by
      show withMargin _ { (engine.handle message).value.margin with inbound := rest } = _
      rw [margin_handle]
      rfl
    rw [same] at later
    have whole := Chain.step move later
    exact whole

/-- Applying all departures is a chain of moves. -/
private theorem chain_depart (engine : Engine) (nodes : List NodeId)
    (alive : engine.isGone = false) (running : engine.stopReason = none)
    (accepted : engine.mailbox = []) (handled : engine.inbound = [])
    (empty : engine.departed = []) :
    Chain Move { engine with departed := nodes } (nodes.foldlM depart engine) := by
  induction nodes generalizing engine with
  | nil =>
    have same : { engine with departed := [] } = engine := by rw [← empty]
    rw [same]
    exact .refl engine
  | cons node rest hypothesis =>
    have left := depart_same engine node
    have move : Move { engine with departed := node :: rest }
        ((engine.withMargin { engine.margin with departed := rest }).depart node) :=
      .depart alive running accepted handled rfl
    rw [depart_withMargin] at move
    have later := hypothesis (engine.depart node).value
      ((steady_depart engine node).isGone.trans alive) (left.stopReason.trans running)
      (left.mailbox.trans accepted) (left.inbound.trans handled) (left.departed.trans empty)
    have same : { (engine.depart node).value with departed := rest } =
        (engine.depart node).value.withMargin { engine.margin with departed := rest } := by
      show withMargin _ { (engine.depart node).value.margin with departed := rest } = _
      rw [margin_depart]
    rw [same] at later
    have whole := Chain.step move later
    exact whole

/-- Applying all joins is a chain of moves. -/
private theorem chain_arrive (engine : Engine) (nodes : List NodeId)
    (alive : engine.isGone = false) (running : engine.stopReason = none)
    (accepted : engine.mailbox = []) (handled : engine.inbound = [])
    (departed : engine.departed = []) (empty : engine.joined = []) :
    Chain Move { engine with joined := nodes } (nodes.foldlM arrive engine) := by
  induction nodes generalizing engine with
  | nil =>
    have same : { engine with joined := [] } = engine := by rw [← empty]
    rw [same]
    exact .refl engine
  | cons node rest hypothesis =>
    have left := arrive_same engine node
    have move : Move { engine with joined := node :: rest }
        ((engine.withMargin { engine.margin with joined := rest }).arrive node) :=
      .arrive alive running accepted handled departed rfl
    rw [arrive_withMargin] at move
    have later := hypothesis (engine.arrive node).value
      ((steady_arrive engine node).isGone.trans alive) (left.stopReason.trans running)
      (left.mailbox.trans accepted) (left.inbound.trans handled)
      (left.departed.trans departed) (left.joined.trans empty)
    have same : { (engine.arrive node).value with joined := rest } =
        (engine.arrive node).value.withMargin { engine.margin with joined := rest } := by
      show withMargin _ { (engine.arrive node).value.margin with joined := rest } = _
      rw [margin_arrive]
    rw [same] at later
    have whole := Chain.step move later
    exact whole

/-- What an operation leaves alone, a chain of it leaves alone. -/
theorem steady_all {α : Type} {step : Engine → α → Act Engine}
    (steady : ∀ (state : Engine) item, state.Steady (step state item).value) (items : List α)
    (engine : Engine) : engine.Steady (items.foldlM step engine).value :=
  Traced.foldlM_preserves step items (fun state item _ kept => kept.trans (steady state item))
    (.refl engine)

/-- The engine is asked to stop if nobody can send events any more. -/
def severed (engine : Engine) : Engine :=
  if engine.connected then engine else engine.requestStop .disconnected

theorem steady_severed (engine : Engine) : engine.Steady engine.severed := by
  unfold severed
  split
  · exact .refl engine
  · exact ⟨rfl, rfl, rfl, rfl, rfl, rfl, rfl⟩

private theorem chain_severed (engine : Engine) (alive : engine.isGone = false)
    (empty : engine.mailbox = []) :
    Chain Move engine (pure engine.severed) ∧ engine.severed.mailbox = [] := by
  unfold severed
  cases connected : engine.connected with
  | true => exact ⟨.refl engine, empty⟩
  | false =>
    have move := Move.cutOff alive empty connected
    exact ⟨move.chain, empty⟩

/-- The engine that is about to handle its messages. -/
def measured (engine : Engine) : Engine :=
  { engine with
    longestQueue := max engine.longestQueue engine.inbound.length
    inbound := [] }

/-- **Receiving** accepts the mailbox, then handles the messages. -/
theorem receive_eq (engine : Engine) :
    let accepted := engine.mailbox.foldlM accept { engine with mailbox := [] }
    let handled := accepted.value.severed.inbound.foldlM handle accepted.value.severed.measured
    engine.receive.value.1 = handled.value ∧
      engine.receive.effects = accepted.effects ++ handled.effects := by
  refine ⟨rfl, ?_⟩
  unfold receive
  simp only [Traced.effects_bind, Traced.effects_pure, List.append_nil]
  rfl

theorem steady_receive (engine : Engine) : engine.Steady engine.receive.value.1 := by
  rw [engine.receive_eq.1]
  have sorted := steady_all steady_accept engine.mailbox { engine with mailbox := [] }
  generalize (engine.mailbox.foldlM accept { engine with mailbox := [] }).value = accepted
    at sorted ⊢
  have kept := sorted.trans accepted.steady_severed
  have begun : engine.Steady accepted.severed.measured :=
    ⟨kept.options, kept.node, kept.stage, kept.phase, kept.link, kept.linked, kept.isMaster⟩
  exact begun.trans (steady_all steady_handle accepted.severed.inbound accepted.severed.measured)

/-- Receiving is a chain of moves that leaves no event and no message. -/
private theorem chain_receive (engine : Engine) (alive : engine.isGone = false) :
    Chain Move engine ⟨engine.receive.value.1, engine.receive.effects⟩ ∧
      engine.receive.value.1.mailbox = [] ∧ engine.receive.value.1.inbound = [] := by
  obtain ⟨value, effects⟩ := engine.receive_eq
  rw [value, effects]
  have accepting := chain_accept { engine with mailbox := [] } engine.mailbox alive rfl
  have arrivals := accept_all_arrivals { engine with mailbox := [] } engine.mailbox
  have sorted := steady_all steady_accept engine.mailbox { engine with mailbox := [] }
  generalize engine.mailbox.foldlM accept { engine with mailbox := [] } = accepted
    at accepting arrivals sorted ⊢
  have present : accepted.value.isGone = false := sorted.isGone.trans alive
  obtain ⟨asking, drained⟩ := accepted.value.chain_severed present arrivals.mailbox
  have asked := accepted.value.steady_severed
  generalize accepted.value.severed = state at asking asked drained ⊢
  have still : state.isGone = false := asked.isGone.trans present
  have measuring := (Move.measure still).chain
  have handling := chain_handle state.measured state.inbound still drained rfl
  have left := handle_all_same state.measured state.inbound
  exact ⟨accepting.trans (asking.trans (measuring.trans handling)), left.mailbox.trans drained,
    left.inbound⟩

theorem steady_applyMembership (engine : Engine) :
    engine.Steady engine.applyMembership.value.1 := by
  have told := steady_all steady_depart engine.departed { engine with departed := [] }
  have begun : engine.Steady
      { (engine.departed.foldlM depart { engine with departed := [] }).value with joined := [] } :=
    ⟨told.options, told.node, told.stage, told.phase, told.link, told.linked, told.isMaster⟩
  exact begun.trans (steady_all steady_arrive _ _)

/-- Applying the membership is a chain of moves that leaves no arrival at all. -/
private theorem chain_applyMembership (engine : Engine) (alive : engine.isGone = false)
    (running : engine.stopReason = none) (accepted : engine.mailbox = [])
    (handled : engine.inbound = []) :
    Chain Move engine ⟨engine.applyMembership.value.1, engine.applyMembership.effects⟩ ∧
      engine.applyMembership.value.1.SameArrivals
        { engine with mailbox := [], inbound := [], departed := [], joined := [] } := by
  have effects : engine.applyMembership.effects =
      (engine.departed.foldlM depart { engine with departed := [] }).effects ++
        ((engine.departed.foldlM depart { engine with departed := [] }).value.joined.foldlM arrive
          { (engine.departed.foldlM depart { engine with departed := [] }).value with
            joined := [] }).effects := by
    unfold applyMembership
    simp only [Traced.effects_bind, Traced.effects_pure, List.append_nil]
  rw [effects, applyMembership, Traced.value_bind, Traced.value_bind, Traced.value_pure]
  have departing := chain_depart { engine with departed := [] } engine.departed alive running
    accepted handled rfl
  have told := steady_all steady_depart engine.departed { engine with departed := [] }
  have left : { engine with departed := [] }.SameArrivals
      (engine.departed.foldlM depart { engine with departed := [] }).value :=
    Traced.foldlM_preserves depart engine.departed
      (fun state node _ same => (depart_same state node).after same) (.refl _)
  generalize engine.departed.foldlM depart { engine with departed := [] } = departures
    at departing told left ⊢
  have arriving := chain_arrive { departures.value with joined := [] } departures.value.joined
    (told.isGone.trans alive) (left.stopReason.trans running) (left.mailbox.trans accepted)
    (left.inbound.trans handled) left.departed rfl
  have kept : { departures.value with joined := [] }.SameArrivals
      (departures.value.joined.foldlM arrive { departures.value with joined := [] }).value :=
    Traced.foldlM_preserves arrive departures.value.joined
      (fun state node _ same => (arrive_same state node).after same) (.refl _)
  refine ⟨departing.trans arriving, ?_⟩
  exact ⟨((kept.mailbox.trans left.mailbox).trans accepted).symm,
    (kept.connected.trans left.connected).symm,
    ((kept.inbound.trans left.inbound).trans handled).symm,
    (kept.departed.trans left.departed).symm, kept.joined.symm,
    (kept.stopReason.trans left.stopReason).symm⟩

theorem steady_beginPass (engine : Engine) : engine.Steady engine.beginPass.value.1 := by
  have received := engine.steady_receive
  unfold beginPass
  rw [Traced.value_bind]
  generalize engine.receive.value = first at received
  obtain ⟨state, progress⟩ := first
  dsimp only
  split
  · exact received
  · exact received.trans (state.steady_applyMembership.trans (steady_dispatch _))

/-- The part of a pass up to the dispatch is a chain of moves. -/
private theorem chain_beginPass (engine : Engine) (alive : engine.isGone = false) :
    Chain Move engine ⟨engine.beginPass.value.1, engine.beginPass.effects⟩ := by
  obtain ⟨receiving, accepted, handled⟩ := engine.chain_receive alive
  have present := engine.steady_receive.isGone.trans alive
  unfold beginPass
  rw [Traced.value_bind, Traced.effects_bind]
  generalize engine.receive = first at receiving accepted handled present ⊢
  obtain ⟨⟨state, more⟩, told⟩ := first
  dsimp only at receiving accepted handled present ⊢
  cases stopped : state.stopReason with
  | some reason =>
    simp only [Option.isSome_some, if_true, Traced.value_pure, Traced.effects_pure,
      List.append_nil]
    exact receiving
  | none =>
    simp only [Option.isSome_none, Bool.false_eq_true, if_false, Traced.value_bind,
      Traced.value_pure, Traced.effects_bind, Traced.effects_pure, List.append_nil]
    obtain ⟨moving, arrivals⟩ := state.chain_applyMembership present stopped accepted handled
    have moved := state.steady_applyMembership
    have dispatching := Move.dispatch (moved.isGone.trans present)
      (arrivals.stopReason.symm.trans stopped) arrivals.mailbox.symm arrivals.inbound.symm
      arrivals.departed.symm arrivals.joined.symm
    exact receiving.trans (moving.trans dispatching.chain)

theorem steady_runOne (engine : Engine) : engine.Steady engine.runOne.value.1 := by
  unfold runOne
  split
  · exact .refl engine
  · exact Steady.queues.trans (steady_execute _ _)

/-- Running at most one job is at most one move, and without progress no job is left to run. -/
private theorem chain_runOne (engine : Engine) (alive : engine.isGone = false)
    (running : engine.stopReason = none) :
    Chain Move engine ⟨engine.runOne.value.1, engine.runOne.effects⟩ ∧
      (engine.runOne.value.2 = false → engine.runOne.value.1.work = []) := by
  unfold runOne
  split
  next idle => exact ⟨.refl engine, fun _ => idle⟩
  next request rest queued =>
    rw [Traced.value_bind, Traced.effects_bind, Traced.effects_pure, List.append_nil]
    exact ⟨(Move.run alive running queued).chain, nofun⟩

/-- **A pass leaves the engine what it is.** -/
theorem steady_tick (engine : Engine) : engine.Steady engine.tick.value.1 := by
  have begun := engine.steady_beginPass
  unfold tick
  rw [Traced.value_bind]
  generalize engine.beginPass.value = first at begun
  obtain ⟨state, progress⟩ := first
  dsimp only
  split
  · exact begun
  · exact begun.trans state.steady_runOne

/-- **A pass is a chain of moves.** -/
theorem chain_tick (engine : Engine) (alive : engine.isGone = false) :
    Chain Move engine ⟨engine.tick.value.1, engine.tick.effects⟩ := by
  have beginning := engine.chain_beginPass alive
  have present := engine.steady_beginPass.isGone.trans alive
  unfold tick
  rw [Traced.value_bind, Traced.effects_bind]
  generalize engine.beginPass = first at beginning present ⊢
  obtain ⟨⟨state, more⟩, told⟩ := first
  dsimp only at beginning present ⊢
  cases stopped : state.stopReason with
  | some reason =>
    simp only [Option.isSome_some, if_true, Traced.value_pure, Traced.effects_pure,
      List.append_nil]
    exact beginning
  | none =>
    simp only [Option.isSome_none, Bool.false_eq_true, if_false, Traced.value_bind,
      Traced.value_pure, Traced.effects_bind, Traced.effects_pure, List.append_nil]
    exact beginning.trans (state.chain_runOne present stopped).1

/-! ### A step of a run -/

/-- What follows a pass or a wait is one move. -/
private theorem move_conclude (engine : Engine) (progress : Bool) (alive : engine.isGone = false)
    (idle : progress = false → engine.stopReason = none → engine.work = []) :
    Move engine (engine.conclude progress) := by
  unfold conclude stopIfDone
  cases stopped : engine.stopReason.isSome with
  | true =>
    have still : (if engine.shouldStop then engine.requestStop engine.naturalReason else engine) =
        engine := by
      rw [requestStop_of_stopped engine _ stopped, ite_self]
    have going : (progress && engine.stopReason.isNone) = false := by
      rw [← Option.not_isSome, stopped, Bool.not_true, Bool.and_false]
    simp only [going, still, stopped, Bool.false_eq_true, if_false, if_true]
    exact .finish alive stopped
  | false =>
    have running : engine.stopReason = none := by simpa using stopped
    cases progress with
    | true =>
      have going : engine.stopReason.isNone = true := by rw [running, Option.isNone_none]
      rw [going, Bool.and_self, if_pos rfl]
      exact .turn alive (.inl rfl) Effect.deeds_nil
    | false =>
      have spare := idle rfl running
      simp only [Bool.false_and, Bool.false_eq_true, if_false]
      by_cases done : engine.shouldStop = true
      · rw [if_pos done, if_pos (requestStop_isSome engine _)]
        exact .conclude alive running spare done
      · rw [if_neg done, stopped, if_neg Bool.false_ne_true]
        exact .turn alive (.inr (.inl rfl)) Effect.deeds_nil

/-- A pass and what follows it is a chain of moves. -/
private theorem chain_pass (engine : Engine) (gateOpen : Bool) (alive : engine.isGone = false) :
    Chain Move engine (engine.pass gateOpen) := by
  unfold pass
  split
  next stopped =>
    refine (engine.move_conclude false alive fun _ running => ?_).chain
    rw [running] at stopped
    cases stopped
  refine Chain.bind (engine.chain_beginPass alive) ?_
  have present := engine.steady_beginPass.isGone.trans alive
  generalize engine.beginPass.value = first at present ⊢
  obtain ⟨state, progress⟩ := first
  dsimp only at present ⊢
  split
  next stopped =>
    refine (state.move_conclude progress present fun _ running => ?_).chain
    rw [running] at stopped
    cases stopped
  next going =>
    have running : state.stopReason = none := by simpa using going
    split
    · exact (Move.turn present (.inr (.inr ⟨rfl, running⟩)) rfl).chain
    obtain ⟨run, spare⟩ := state.chain_runOne present running
    have still := state.steady_runOne.isGone.trans present
    refine Chain.bind run (move_conclude _ _ still fun none _ => ?_).chain
    exact spare (Bool.or_eq_false_iff.mp none).2

/-- The rest of a pass that was held up is a chain of moves. -/
private theorem chain_resume (engine : Engine) (alive : engine.isGone = false)
    (running : engine.stopReason = none) : Chain Move engine engine.resume := by
  obtain ⟨run, spare⟩ := engine.chain_runOne alive running
  have still := engine.steady_runOne.isGone.trans alive
  exact Chain.bind run (move_conclude _ _ still fun none _ => spare none).chain

/-- The end of a wait is a chain of moves. -/
private theorem chain_endWait (engine : Engine) (waited : Duration)
    (waiting : engine.stage = .waiting) : Chain Move engine (engine.endWait waited) := by
  have alive : engine.isGone = false := by rw [isGone, waiting]
  unfold endWait
  split
  next fault _ => exact (Move.breakDown alive).chain
  next limit _ =>
    have written : Move engine ⟨{ engine with stage := .waiting },
        (engine.logWait limit waited).effects⟩ :=
      .turn alive (.inr (.inl rfl)) (engine.deeds_logWait limit waited)
    have same : { engine with stage := .waiting } = engine := by rw [← waiting]
    rw [same] at written
    exact written.chain.trans (engine.move_conclude true alive fun idle => by cases idle).chain

/-- A pass is held up only as long as there is no reason to stop. -/
def Poised (engine : Engine) : Prop := engine.stage = .holding → engine.stopReason = none

/-- **A step of a run is a chain of moves.** -/
theorem chain_advance (engine : Engine) (gateOpen : Bool) (poised : engine.Poised) :
    Chain Move engine (engine.advance gateOpen) := by
  unfold advance step?
  split
  next created => exact (Move.start created).chain
  next passing => exact engine.chain_pass gateOpen (by rw [isGone, passing])
  next holding =>
    cases gateOpen with
    | true => exact engine.chain_resume (by rw [isGone, holding]) (poised holding)
    | false => exact .refl engine
  next waiting =>
    have alive : engine.isGone = false := by rw [isGone, waiting]
    split
    next event rest arrived =>
      have accepting := Move.accept alive arrived
      have steady := steady_accept { engine with mailbox := rest } event
      exact accepting.chain.trans (chain_endWait _ {} (steady.stage.trans waiting))
    next empty =>
      cases connected : engine.connected with
      | true => exact .refl engine
      | false =>
        have asking := Move.cutOff alive empty connected
        have waits : (engine.requestStop .disconnected).stage = .waiting := waiting
        exact asking.chain.trans (chain_endWait _ {} waits)
  next => exact .refl engine
  next => exact .refl engine

/-- **A wait that ends without an event is a chain of moves.** -/
theorem chain_timeOut (engine : Engine) : Chain Move engine engine.timeOut := by
  unfold timeOut
  split
  next waiting => exact engine.chain_endWait _ waiting
  next => exact .refl engine

/-- **An engine that never begins its run breaks down in one move.** -/
theorem chain_abort (engine : Engine) : Chain Move engine engine.abort := by
  unfold abort
  split
  next created => exact (Move.breakDown (by rw [isGone, created])).chain
  next => exact .refl engine

/-! ### Poised between two steps -/

private theorem stage_conclude (engine : Engine) (progress : Bool) :
    (engine.conclude progress).value.stage ≠ .holding := by
  unfold conclude
  split
  · nofun
  dsimp only
  split
  · rw [finish]
    nofun
  · nofun

private theorem stage_endWait (engine : Engine) (waited : Duration)
    (waiting : engine.stage = .waiting) : (engine.endWait waited).value.stage ≠ .holding := by
  have alive : engine.isGone = false := by rw [isGone, waiting]
  unfold endWait
  split
  next fault _ =>
    rw [(engine.breakDown_eq (.unmeasurable fault) alive).1]
    intro holding
    cases holding
  next => exact engine.stage_conclude true

private theorem poised_pass (engine : Engine) (gateOpen : Bool) :
    (engine.pass gateOpen).value.Poised := by
  unfold pass
  split
  · exact fun holding => (stage_conclude _ _ holding).elim
  rw [Traced.value_bind]
  generalize engine.beginPass.value = first
  obtain ⟨state, progress⟩ := first
  dsimp only
  split
  · exact fun holding => (stage_conclude _ _ holding).elim
  next going =>
    split
    · exact fun _ => by simpa using going
    · exact fun holding => (stage_conclude _ _ holding).elim

/-- Every step of a run leaves the engine poised for the next one. -/
theorem poised_advance (engine : Engine) (gateOpen : Bool) (poised : engine.Poised) :
    (engine.advance gateOpen).value.Poised := by
  unfold advance step?
  split
  next created =>
    have passing := engine.stage_start
    exact fun holding => by cases passing.symm.trans holding
  next => exact engine.poised_pass gateOpen
  next =>
    cases gateOpen with
    | true => exact fun holding => (stage_conclude _ _ holding).elim
    | false => exact poised
  next waiting =>
    split
    next event rest arrived =>
      have steady := steady_accept { engine with mailbox := rest } event
      have waits := steady.stage.trans waiting
      exact fun holding => (stage_endWait _ _ waits holding).elim
    next =>
      cases engine.connected with
      | true => exact poised
      | false =>
        have waits : (engine.requestStop .disconnected).stage = .waiting := waiting
        exact fun holding => (stage_endWait _ {} waits holding).elim
  next => exact poised
  next => exact poised

/-- A wait that ends leaves the engine poised for the next step. -/
theorem poised_timeOut (engine : Engine) (poised : engine.Poised) :
    engine.timeOut.value.Poised := by
  unfold timeOut
  split
  next waiting => exact fun holding => (stage_endWait _ _ waiting holding).elim
  next => exact poised

/-- An engine that never begins its run does not stand in the middle of a pass. -/
theorem poised_abort (engine : Engine) (poised : engine.Poised) : engine.abort.value.Poised := by
  unfold abort
  split
  next created =>
    rw [(engine.breakDown_eq .unstarted (by rw [isGone, created])).1]
    intro holding
    cases holding
  next => exact poised

end JobPool.Engine
