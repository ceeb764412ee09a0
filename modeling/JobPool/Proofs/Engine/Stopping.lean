/-
**Stopping is final.**

An engine stops once. Whatever reaches it and however often it is shut down, its reason to stop is
given once, comes from the first event that asks for it, and ends all work; its link is closed at
most once and after its last use; and its phases follow each other in one direction.

* `settled_at` — from a reason to stop on, nothing changes and nothing is done;
* `working_step` — work is done between two states without a reason to stop;
* `restful_after_closing` — nothing is done once the link is closed;
* `stopping_final` — all of it, for all handlings of a new engine.
-/

import JobPool.Proofs.Engine.Reasons

namespace JobPool.Session

section Chains

variable {start session : Session} {whole : Act Session} {history : List Effect}

/-- What follows a point with a reason to stop. -/
theorem settled_at {reason : StopReason} (passes : Chain.Passes Stride start whole history session)
    (stated : session.engine.stopReason = some reason) :
    whole.value.engine.stopReason = some reason ∧
      Effect.Restful (whole.effects.drop history.length) := by
  obtain ⟨_, rest, chain, rfl⟩ := passes
  rw [List.drop_left]
  exact chain_settled chain stated

/-- **Work is done between two states without a reason to stop.** -/
theorem working_step (chain : Chain Stride start whole) {before after : List Effect}
    {effect : Effect} (split : whole.effects = before ++ effect :: after)
    (works : effect.isWork = true) :
    ∃ history session act, Chain.Passes Stride start whole history session ∧
      Stride session act ∧ Chain.Passes Stride start whole (history ++ act.effects) act.value ∧
      effect ∈ act.effects ∧ session.engine.stopReason = none ∧
      act.value.engine.stopReason = none := by
  obtain ⟨history, session, act, early, late, passes, stride, further, own, _, _⟩ :=
    chain.exists_step split
  have member : effect ∈ act.effects := by
    rw [own]
    exact List.mem_append_right early List.mem_cons_self
  have after : act.value.engine.stopReason = none := by
    cases stated : act.value.engine.stopReason with
    | none => rfl
    | some reason =>
      have rests := stride.course.restful (by rw [stated, Option.isSome_some]) effect member
      cases works.symm.trans rests
  refine ⟨history, session, act, passes, stride, further, member, ?_, after⟩
  cases stated : session.engine.stopReason with
  | none => rfl
  | some reason => cases (stride.course.kept reason stated).symm.trans after

/-- **Once the link is closed no work follows.** -/
theorem restful_after_closing (chain : Chain Stride start whole) {before after : List Effect}
    (split : whole.effects = before ++ .linkClosed :: after) : Effect.Restful after := by
  obtain ⟨history, session, act, early, late, _, stride, further, own, rfl, _⟩ :=
    chain.exists_step split
  have closed : Effect.linkClosed ∈ act.effects := by
    rw [own]
    exact List.mem_append_right early List.mem_cons_self
  -- The engine closes its link only when it shuts down, and then has a reason to stop.
  have stated : act.value.engine.stopReason.isSome = true := by
    cases stride.course.passage with
    | stays _ _ unclosed => exact absurd (Effect.closings_pos closed) (by rw [unclosed]; decide)
    | stops _ _ _ _ stated => exact stated
  obtain ⟨reason, given⟩ := Option.isSome_iff_exists.mp stated
  obtain ⟨_, rest, onward, rfl⟩ := further
  have ends : after = late ++ rest.effects := by
    rw [own, List.append_assoc, List.append_assoc, List.append_assoc, List.cons_append] at split
    exact (List.cons.inj (List.append_cancel_left (List.append_cancel_left split))).2.symm
  rw [ends]
  refine Effect.Restful.append (fun effect member => ?_) (chain_settled onward given).2
  refine stride.course.restful stated effect ?_
  rw [own]
  exact List.mem_append_right early (List.mem_cons_of_mem _ member)

end Chains

/-- **Stopping is final.** A point of the handlings of an engine is a state that it passes through,
between two handlings or in the middle of one. -/
theorem stopping_final (options : Options) (node master : NodeId) (link : Link)
    (handlings : List Handling) :
    let start := create options node master link
    let whole := start.handleAll handlings
    let point := Chain.Passes Stride start whole
    -- The reason to stop stays, and no work follows.
    (∀ earlier later, handlings = earlier ++ later →
      point (start.handleAll earlier).effects (start.handleAll earlier).value) ∧
    (∀ history session reason, point history session → session.engine.stopReason = some reason →
      whole.value.engine.stopReason = some reason ∧
        Effect.Restful (whole.effects.drop history.length)) ∧
    (∀ before effect after, whole.effects = before ++ effect :: after → effect.isWork = true →
      ∃ history session act, point history session ∧ Stride session act ∧
        point (history ++ act.effects) act.value ∧ effect ∈ act.effects ∧
        session.engine.stopReason = none ∧ act.value.engine.stopReason = none) ∧
    -- It is that of the first event that asks for it, or is found.
    (∃ left, start.posted handlings = start.accepted handlings ++ left ∧
      (whole.value.engine.isGone = false → whole.value.engine.mailbox = left)) ∧
    (whole.value.engine.stopReason = none →
      Engine.firstCause node (start.accepted handlings) = none) ∧
    (∀ reason, whole.value.engine.stopReason = some reason →
      ∃ earlier handling later, handlings = earlier ++ handling :: later ∧
        start.StopOrigin earlier handling reason) ∧
    -- The link is closed at most once, and after its last use.
    (Effect.closings whole.effects ≤ 1 ∧
      (whole.value.engine.stage = .finished → Effect.closings whole.effects = 1) ∧
      ∀ before after, whole.effects = before ++ .linkClosed :: after → Effect.Restful after) ∧
    -- The phases go forward, and a shutdown goes through all of them.
    (∀ history session, point history session →
      session.engine.phase ≠ .draining ∧
      (∀ later, Chain Stride session later →
        session.engine.phase.rank ≤ later.value.engine.phase.rank) ∧
      (session.engine.phase = .running →
        session.engine.shutdown = session.engine.drain >>= Engine.release ∧
        session.engine.drain.value.phase = .draining ∧
        Effect.closings session.engine.drain.effects = session.engine.linked.toNat ∧
        session.engine.shutdown.value.phase = .stopped)) := by
  intro start whole point
  have handy := handy_create options node master link
  have chain : Chain Stride start whole := chain_owned options node master link handlings
  have ending : ∀ {history session}, Chain Stride start ⟨session, history⟩ →
      Ending history session := fun reached =>
    reached.keeps Ending.stride (ending_create options node master link)
  have ended : Ending whole.effects whole.value := ending chain
  refine ⟨?_, fun _ _ _ passes stated => settled_at passes stated,
    fun _ _ _ split works => working_step chain split works, posted_eq handy handlings,
    firstCause_accepted handy handlings, fun _ stated => origin handy rfl stated,
    ⟨?_, fun finished => ?_, fun _ _ split => restful_after_closing chain split⟩, ?_⟩
  · rintro earlier later rfl
    exact passes_handled options node master link earlier later
  · exact Nat.le.intro ended.closed
  · have stopped := ended.stopped.resolve_left (ended.finished finished)
    have closed := ended.closed
    rw [stopped.2.1] at closed
    exact closed
  · intro history session passes
    refine ⟨fun draining => ?_, fun _ onward => rank_chain onward,
      fun running => ⟨?_, ?_, session.engine.drain_exact.2, ?_⟩⟩
    · rcases (ending passes.reached).stopped with running | ⟨stopped, _⟩
      · cases running.symm.trans draining
      · cases stopped.symm.trans draining
    · exact session.engine.shutdown_eq_drain running
    · rw [session.engine.drain_exact.1]
    · rw [(session.engine.shutdown_eq running).1]

/-- A worker is declared dead and asked to shut down in the pass in which a request reaches it, and
is handled further: it runs nothing, and closes its link once. -/
theorem stopping_final_dead :
    let options := ({} : Settings).options
    let earlier : List Handling := [.meet (.advance true),
      .meet (.deliver ⟨1, .execute 5 (.sleep 0) []⟩), .meet (.announce (.departed 2)),
      .meet .shutdown, .meet .pass]
    let later : List Handling := [.meet (.deliver ⟨1, .execute 6 (.sleep 0) []⟩), .meet .pass,
      .shutdown, .shutdown, .meet (.advance true)]
    let stopped := (create options 2 1 {}).handleAll earlier
    let whole := (create options 2 1 {}).handleAll (earlier ++ later)
    stopped.value.engine.stopReason = some .declaredDead ∧
      whole.value.engine.stopReason = some .declaredDead ∧
      Effect.Restful (whole.effects.drop stopped.effects.length) ∧
      whole.value.engine.work.length = 2 ∧ whole.value.engine.stage = .finished ∧
      Effect.closings whole.effects = 1 := by
  obtain ⟨points, settled, _, _, _, _, ⟨_, once, _⟩, _⟩ :=
    stopping_final ({} : Settings).options 2 1 {}
      [.meet (.advance true), .meet (.deliver ⟨1, .execute 5 (.sleep 0) []⟩),
        .meet (.announce (.departed 2)), .meet .shutdown, .meet .pass,
        .meet (.deliver ⟨1, .execute 6 (.sleep 0) []⟩), .meet .pass, .shutdown, .shutdown,
        .meet (.advance true)]
  obtain ⟨kept, restful⟩ := settled _ _ .declaredDead
    (points [.meet (.advance true), .meet (.deliver ⟨1, .execute 5 (.sleep 0) []⟩),
      .meet (.announce (.departed 2)), .meet .shutdown, .meet .pass] _ rfl) rfl
  exact ⟨rfl, kept, restful, rfl, rfl, once rfl⟩

end JobPool.Session
