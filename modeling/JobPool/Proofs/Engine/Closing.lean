/-
**The way of an engine to its end.**

An engine that has a reason to stop keeps it, hands nothing more to its link and runs no more jobs.
Its link is in use until the engine shuts down, and is closed on the way. One step of a session is
described by what it means for this end; what every step does, all do.

* `Effect.isWork`, `Effect.Restful`, `Effect.closings` — work, effects without work, and how often
  the link was closed;
* `shutdown_eq_drain` — a shutdown drains the link and then lets go of the submitters;
* `Engine.Course`, `Stride.course` — what a stride means for the end of the engine;
* `chain_settled`, `rank_chain` — what is final from a reason to stop on, and the order of the
  phases;
* `Ending` — the link is closed exactly when the engine is no longer running.
-/

import JobPool.Proofs.Engine.Handlings

namespace JobPool

/-- The place of a phase in their order. -/
def Phase.rank : Phase → Nat
  | running => 0
  | draining => 1
  | stopped => 2

/-! ### Work -/

namespace Effect

/-- The effect is work: a message is handed to the link, or a job is run. -/
def isWork : Effect → Bool
  | sent .. | ran .. => true
  | log _ | handled _ | resolved .. | applied _ | admitted .. | queued .. | issued .. | answered ..
  | linkClosed | brokeDown _ => false

/-- None of the effects is work. -/
def Restful (effects : List Effect) : Prop := ∀ effect ∈ effects, effect.isWork = false

/-- How often the link was closed, among some effects. -/
def closings (effects : List Effect) : Nat :=
  effects.countP fun
    | linkClosed => true
    | _ => false

@[simp] theorem closings_append (first second : List Effect) :
    closings (first ++ second) = closings first + closings second :=
  List.countP_append

theorem closings_pos {effects : List Effect} (closed : linkClosed ∈ effects) :
    0 < closings effects :=
  List.countP_pos_iff.mpr ⟨linkClosed, closed, rfl⟩

theorem Restful.append {first second : List Effect} (left : Restful first)
    (right : Restful second) : Restful (first ++ second) :=
  fun effect member => (List.mem_append.mp member).elim (left effect) (right effect)

/-- Work reaches the outside. -/
theorem restful_of_outward {effects told : List Effect} (outward : outward effects = told)
    (restful : Restful told) : Restful effects := by
  intro effect member
  cases worked : effect.isWork with
  | false => rfl
  | true =>
    have reaches : effect.isOutward = true := by
      cases effect with
      | sent | ran => rfl
      | log _ | handled _ | resolved _ _ _ | applied _ | admitted _ _ | queued _ _
      | issued _ _ _ _ | answered _ _ | linkClosed | brokeDown _ => cases worked
    rw [← worked]
    exact restful effect (outward ▸ mem_outward.mpr ⟨member, reaches⟩)

/-- Closing the link reaches the outside. -/
theorem closings_of_outward {effects told : List Effect} (outward : outward effects = told) :
    closings effects = closings told := by
  rw [← outward, Effect.outward, closings, closings, List.countP_filter]
  refine List.countP_congr fun effect _ => ?_
  cases effect <;> simp [isOutward]

end Effect

namespace Engine

/-! ### Draining -/

/-- The first half of a shutdown: the link delivers what it has accepted and is closed. -/
def drain (engine : Engine) : Act Engine :=
  ({ engine with phase := .draining }.requestStop .shutdownRequested).unlink

/-- The second half of a shutdown: the submitters are let go. -/
def release (engine : Engine) : Act Engine := do
  engine.logIncomplete
  dismiss engine.subscribers.values
  let engine := { engine with subscribers := .empty, phase := .stopped }
  engine.logStatistics
  return engine

/-- **A shutdown drains the link and then lets the submitters go.** -/
theorem shutdown_eq_drain (engine : Engine) (running : engine.phase = .running) :
    engine.shutdown = engine.drain >>= release := by
  rw [shutdown, if_neg (by simp [running])]
  rfl

/-- A draining engine has closed its link, and has a reason to stop. -/
theorem drain_exact (engine : Engine) :
    engine.drain.value =
        { engine.requestStop .shutdownRequested with phase := .draining, linked := false } ∧
      Effect.closings engine.drain.effects = engine.linked.toNat := by
  obtain ⟨value, deeds⟩ :=
    ({ engine with phase := .draining }.requestStop .shutdownRequested).unlink_eq
  refine ⟨value, (Effect.closings_of_outward (Effect.outward_of_deeds deeds)).trans ?_⟩
  change Effect.closings (Effect.outward (if engine.linked then [.linkClosed] else [])) = _
  cases engine.linked <;> rfl

/-! ### Steps -/

/-- **An event that asks the engine to stop gives its reason, unless there is one.** -/
theorem stopReason_accept (engine : Engine) (event : Event) :
    (engine.accept event).value.stopReason =
      engine.stopReason.or (stopCause? engine.node event) := by
  rcases engine.accept_cases event with ⟨ticket, job, input, rfl, taken⟩ |
    ⟨_, ⟨_, rfl, value⟩ | ⟨_, rfl, value⟩ | ⟨_, rfl, other, value⟩ | ⟨reason, cause, value⟩ |
      ⟨rfl, value⟩⟩
  · rw [taken, (submit_same engine ticket job input).stopReason, stopCause?, Option.or_none]
  · rw [value, stopCause?, Option.or_none]
  · rw [value, stopCause?, Option.or_none]
  · rw [value, stopCause?, if_neg other, Option.or_none]
  · rw [value, cause]
    rfl
  · rw [value, stopCause?, Option.or_none]

/-- What a step means for the link: it stays as it is, or the engine shuts down. -/
inductive Passage (first second : Engine) (effects : List Effect) : Prop
  | stays (phase : second.phase = first.phase) (linked : second.linked = first.linked)
      (unclosed : Effect.closings effects = 0)
  | stops (running : first.phase = .running) (stopped : second.phase = .stopped)
      (unlinked : second.linked = false)
      (closed : Effect.closings effects = first.linked.toNat)
      (stated : second.stopReason.isSome = true)

/-- **What a step means for the end of an engine.** -/
structure Course (first second : Engine) (effects : List Effect) : Prop where
  node : second.node = first.node
  /-- The first reason to stop stays. -/
  kept : ∀ reason, first.stopReason = some reason → second.stopReason = some reason
  /-- A step that works finds no reason to stop. -/
  restful : second.stopReason.isSome = true → Effect.Restful effects
  passage : Passage first second effects
  finished : second.stage = .finished → first.stage = .finished ∨ second.phase ≠ .running

section Steps

variable {engine next : Engine} {effects told : List Effect}

/-- Steps that leave alone what the engine is, and that neither work nor close the link. -/
private theorem course_steady (steady : engine.Steady next)
    (kept : ∀ reason, engine.stopReason = some reason → next.stopReason = some reason)
    (outward : Effect.outward effects = told) (restful : Effect.Restful told)
    (unclosed : Effect.closings told = 0) : Course engine next effects := by
  refine ⟨steady.node, kept, fun _ => Effect.restful_of_outward outward restful, ?_,
    fun finished => .inl (steady.stage ▸ finished)⟩
  exact .stays steady.phase steady.linked ((Effect.closings_of_outward outward).trans unclosed)

/-- Steps that work, which an engine makes only without a reason to stop. -/
private theorem course_working (steady : engine.Steady next)
    (running : engine.stopReason = none) (same : next.stopReason = engine.stopReason)
    (outward : Effect.outward effects = told) (unclosed : Effect.closings told = 0) :
    Course engine next effects := by
  refine ⟨steady.node, fun reason stated => same.trans stated, fun stated => ?_, ?_,
    fun finished => .inl (steady.stage ▸ finished)⟩
  · rw [same, running] at stated
    cases stated
  · exact .stays steady.phase steady.linked ((Effect.closings_of_outward outward).trans unclosed)

private theorem kept_requestStop (engine : Engine) (other : StopReason) :
    ∀ reason, engine.stopReason = some reason →
      (engine.requestStop other).stopReason = some reason := by
  intro reason stated
  rw [requestStop, stated, Option.some_or]

theorem course_shutdown (engine : Engine) :
    Course engine engine.shutdown.value engine.shutdown.effects := by
  rcases engine.shutdown_cases with ⟨running, value, outward⟩ | ⟨_, same⟩
  · have restful : Effect.Restful engine.shutdown.effects := by
      refine Effect.restful_of_outward outward fun effect member => ?_
      split at member
      · rw [List.mem_singleton.mp member]
        rfl
      · cases member
    have closed : Effect.closings engine.shutdown.effects = engine.linked.toNat := by
      rw [Effect.closings_of_outward outward]
      cases engine.linked <;> rfl
    rw [value]
    exact ⟨rfl, engine.kept_requestStop .shutdownRequested, fun _ => restful,
      .stops running rfl rfl closed (engine.requestStop_isSome .shutdownRequested),
      fun _ => .inr nofun⟩
  · rw [same]
    exact ⟨rfl, fun _ => id, fun _ => nofun, .stays rfl rfl rfl, .inl⟩

/-- After a shutdown the engine is not running. -/
private theorem phase_shutdown (engine : Engine) : engine.shutdown.value.phase ≠ .running := by
  rcases engine.shutdown_cases with ⟨_, value, _⟩ | ⟨down, same⟩
  · rw [value]
    nofun
  · rw [same]
    exact down

theorem course_finish (engine : Engine) :
    Course engine engine.finish.value engine.finish.effects := by
  obtain ⟨value, outward⟩ := engine.finish_cases
  obtain ⟨node, kept, restful, passage, _⟩ := engine.course_shutdown
  rw [value]
  refine ⟨node, kept, fun stated => ?_, ?_, fun _ => .inr engine.phase_shutdown⟩
  · refine Effect.restful_of_outward outward fun effect member => ?_
    exact restful stated effect (Effect.mem_outward.mp member).1
  · have same : Effect.closings engine.finish.effects = Effect.closings engine.shutdown.effects :=
      (Effect.closings_of_outward outward).trans (Effect.closings_of_outward rfl).symm
    cases passage with
    | stays phase linked unclosed => exact .stays phase linked (same.trans unclosed)
    | stops running stopped unlinked closed stated =>
      exact .stops running stopped unlinked (same.trans closed) stated

/-- A step that first finds a reason to stop. -/
private theorem Course.asked {reason : StopReason} (running : engine.stopReason = none)
    (course : Course (engine.requestStop reason) next effects) : Course engine next effects := by
  refine ⟨course.node, fun stated found => ?_, course.restful, ?_, course.finished⟩
  · rw [running] at found
    cases found
  · cases course.passage with
    | stays phase linked unclosed => exact .stays phase linked unclosed
    | stops running stopped unlinked closed stated =>
      exact .stops running stopped unlinked closed stated

end Steps

/-- **What a move means for the end of the engine.** A new engine starts without a reason to stop,
or without its link. -/
theorem Move.course {engine : Engine} {act : Act Engine} (move : Move engine act)
    (fresh : engine.stage = .created → engine.stopReason = none ∨ engine.linked = false) :
    Course engine act.value act.effects := by
  cases move with
  | start created =>
    have outward := engine.outward_start
    rw [engine.value_start]
    refine ⟨rfl, fun _ => id, fun stated => ?_, .stays rfl rfl ?_, nofun⟩
    · -- With a reason to stop there is no link to register on.
      refine Effect.restful_of_outward outward ?_
      rcases fresh created with running | unlinked
      · change engine.stopReason.isSome = true at stated
        rw [running] at stated
        cases stated
      · rw [unlinked]
        cases engine.scheduler.role <;> nofun
    · rw [Effect.closings_of_outward outward]
      cases engine.scheduler.role with
      | master => rfl
      | worker => cases engine.linked <;> rfl
  | @accept event rest alive arrived =>
    refine course_steady (Steady.queues.trans (steady_accept _ event)) (fun reason stated => ?_)
      (outward_accept _ event) nofun rfl
    rw [stopReason_accept, stated, Option.some_or]
  | cutOff alive =>
    exact course_steady ⟨rfl, rfl, rfl, rfl, rfl, rfl, rfl⟩
      (engine.kept_requestStop .disconnected) rfl nofun rfl
  | measure alive =>
    exact course_steady ⟨rfl, rfl, rfl, rfl, rfl, rfl, rfl⟩ (fun _ => id) rfl nofun rfl
  | @handle message rest alive =>
    exact course_steady (Steady.queues.trans (steady_handle _ message))
      (fun _ stated => (handle_same _ message).stopReason.trans stated) (outward_handle _ message)
      nofun rfl
  | @depart node rest alive running =>
    exact course_working (Steady.queues.trans (steady_depart _ node)) running
      (depart_same _ node).stopReason (outward_depart _ node) rfl
  | @arrive node rest alive =>
    exact course_steady (Steady.queues.trans (steady_arrive _ node))
      (fun _ stated => (arrive_same _ node).stopReason.trans stated) (outward_arrive _ node) nofun
      rfl
  | dispatch alive running =>
    rcases engine.outward_dispatch with silent | ⟨_, _, _, _, _, _, told⟩
    · exact course_working engine.steady_dispatch running engine.dispatch_same.stopReason silent rfl
    · exact course_working engine.steady_dispatch running engine.dispatch_same.stopReason told rfl
  | @run request rest alive running =>
    refine course_working (Steady.queues.trans (steady_execute _ request)) running
      (execute_same _ request).stopReason (outward_execute _ request) ?_
    cases engine.linked <;> rfl
  | @turn stage effects alive ongoing silent =>
    have outward := Effect.outward_of_deeds silent
    refine ⟨rfl, fun _ => id, fun _ => Effect.restful_of_outward outward nofun,
      .stays rfl rfl (Effect.closings_of_outward outward), fun finished => ?_⟩
    rcases ongoing with rfl | rfl | ⟨rfl, _⟩
    all_goals cases finished
  | finish alive => exact engine.course_finish
  | conclude alive running => exact .asked running (course_finish _)
  | @breakDown cause alive =>
    have outward := engine.outward_breakDown cause alive
    rw [(engine.breakDown_eq cause alive).1]
    exact ⟨rfl, fun _ => id, fun _ => Effect.restful_of_outward outward nofun,
      .stays rfl rfl (Effect.closings_of_outward outward), nofun⟩

/-- The phases only go forward. -/
theorem Course.rank {first second : Engine} {effects : List Effect}
    (course : Course first second effects) : first.phase.rank ≤ second.phase.rank := by
  cases course.passage with
  | stays phase => exact Nat.le_of_eq (congrArg Phase.rank phase.symm)
  | stops running =>
    rw [running]
    exact Nat.zero_le _

end Engine

namespace Session

variable {session : Session} {act : Act Session}

/-- **What a stride means for the end of the engine.** -/
theorem Stride.course (stride : Stride session act) :
    Engine.Course session.engine act.value.engine act.effects := by
  cases stride with
  | turn fresh turn =>
    cases turn with
    | move move => exact move.course fresh
    | surround => exact ⟨rfl, fun _ => id, fun _ => nofun, .stays rfl rfl rfl, .inl⟩
    | post | submit => exact Engine.course_steady .queues (fun _ => id) rfl nofun rfl
    | drop gone silent =>
      exact Engine.course_steady (.refl _) (fun _ => id) (Effect.outward_of_deeds silent) nofun rfl
    | dismiss gone told =>
      exact Engine.course_steady (.refl _) (fun _ => id) (Effect.outward_of_deeds told) nofun rfl
  | begin => exact ⟨rfl, fun _ => id, fun _ => nofun, .stays rfl rfl rfl, nofun⟩
  | shutdown => exact session.engine.course_shutdown

/-- An engine that is gone stays gone. -/
theorem Stride.isGone (stride : Stride session act) (gone : session.engine.isGone = true) :
    act.value.engine.isGone = true := by
  have alive : ∀ {engine : Engine}, engine = session.engine → engine.isGone = false → False := by
    intro engine same alive
    rw [same, gone] at alive
    cases alive
  cases stride with
  | turn fresh turn =>
    cases turn with
    | move move => exact (alive rfl move.alive).elim
    | post present | submit present => exact (alive rfl present).elim
    | surround | drop | dismiss => exact gone
  | begin created => exact (alive rfl (by rw [Engine.isGone, created])).elim
  | shutdown present => exact (alive rfl present).elim

/-! ### Sessions -/

theorem isGone_chain (chain : Chain Stride session act) (gone : session.engine.isGone = true) :
    act.value.engine.isGone = true :=
  chain.preserves (motive := fun state => state.engine.isGone = true)
    (fun gone stride => stride.isGone gone) gone

theorem node_chain (chain : Chain Stride session act) :
    act.value.engine.node = session.engine.node :=
  chain.preserves (motive := fun state => state.engine.node = session.engine.node)
    (fun same stride => stride.course.node.trans same) rfl

/-- **A reason to stop is final**: it never changes, and no work follows. -/
theorem chain_settled {reason : StopReason} (chain : Chain Stride session act)
    (stated : session.engine.stopReason = some reason) :
    act.value.engine.stopReason = some reason ∧ Effect.Restful act.effects := by
  refine @Chain.keeps _ _ _ _ _ (fun history state =>
    state.engine.stopReason = some reason ∧ Effect.Restful history) ?_ [] chain ⟨stated, nofun⟩
  rintro history state next ⟨stated, restful⟩ stride
  have still := stride.course.kept reason stated
  exact ⟨still, restful.append (stride.course.restful (by rw [still, Option.isSome_some]))⟩

/-- **The phases only go forward.** -/
theorem rank_chain (chain : Chain Stride session act) :
    session.engine.phase.rank ≤ act.value.engine.phase.rank :=
  chain.preserves (motive := fun state => session.engine.phase.rank ≤ state.engine.phase.rank)
    (fun reached stride => Nat.le_trans reached stride.course.rank) (Nat.le_refl _)

/-- **The link is closed exactly once on the way to the end**, on which the engine also has a
reason to stop. -/
structure Ending (history : List Effect) (session : Session) : Prop where
  closed : Effect.closings history + session.engine.linked.toNat = 1
  stopped : session.engine.phase = .running ∨ session.engine.phase = .stopped ∧
    session.engine.linked = false ∧ session.engine.stopReason.isSome = true
  finished : session.engine.stage = .finished → session.engine.phase ≠ .running

theorem ending_create (options : Options) (node master : NodeId) (link : Link) :
    Ending [] (create options node master link) :=
  ⟨rfl, .inl rfl, nofun⟩

theorem Ending.stride {history : List Effect} (ending : Ending history session)
    (stride : Stride session act) : Ending (history ++ act.effects) act.value := by
  obtain ⟨_, kept, _, passage, finished⟩ := stride.course
  have closed := ending.closed
  cases passage with
  | stays phase linked unclosed =>
    refine ⟨?_, ?_, fun ended => (finished ended).elim (fun ended => ?_) id⟩
    · rw [Effect.closings_append, unclosed, linked]
      exact closed
    · rw [phase, linked]
      refine ending.stopped.imp_right fun ⟨stopped, unlinked, stated⟩ => ⟨stopped, unlinked, ?_⟩
      obtain ⟨reason, stated⟩ := Option.isSome_iff_exists.mp stated
      rw [kept reason stated, Option.isSome_some]
    · rw [phase]
      exact ending.finished ended
  | stops running stopped unlinked shut stated =>
    refine ⟨?_, .inr ⟨stopped, unlinked, stated⟩, fun _ => ?_⟩
    · rw [Effect.closings_append, shut, unlinked]
      exact closed
    · rw [stopped]
      nofun

end Session

end JobPool
