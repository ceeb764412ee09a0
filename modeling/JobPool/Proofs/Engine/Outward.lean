/-
**What an engine does to the outside.**

An engine reaches the outside in four ways: it hands a message to its link, it runs a job, it closes
its link, and it acts on the departure of another node. Every operation is described by these
effects alone; all others have none of them.

* `Effect.outward` — the outward effects, in order;
* `outward_accept`, `outward_handle`, `outward_arrive` — operations without any;
* `outward_start`, `outward_depart`, `outward_dispatch`, `outward_execute` — operations with some;
* `shutdown_cases`, `finish_cases` — the end of a run, whether or not the engine was shut down
  before;
* `mem_deeds_shutdown`, `mem_deeds_finish`, `mem_deeds_breakDown` — all that the ends of a run do.
-/

import JobPool.Proofs.Engine.Moves

namespace JobPool

namespace Effect

/-- The effect reaches the outside. -/
def isOutward : Effect → Bool
  | applied (.departed _) | sent .. | ran .. | linkClosed => true
  | log _ | handled _ | resolved .. | applied (.joined _) | applied .poolTerminated | admitted ..
  | queued .. | issued .. | answered .. | brokeDown _ => false

/-- The outward effects, in order. -/
def outward (effects : List Effect) : List Effect := effects.filter isOutward

@[simp] theorem outward_append (first second : List Effect) :
    outward (first ++ second) = outward first ++ outward second :=
  List.filter_append ..

theorem mem_outward {effects : List Effect} {effect : Effect} :
    effect ∈ outward effects ↔ effect ∈ effects ∧ effect.isOutward = true :=
  List.mem_filter

theorem outward_deeds (effects : List Effect) : outward (deeds effects) = outward effects := by
  rw [outward, deeds, List.filter_filter]
  refine List.filter_congr fun effect _ => ?_
  cases effect <;> simp [isOutward]

theorem outward_of_deeds {effects told : List Effect} (deeds : deeds effects = told) :
    outward effects = outward told := by
  rw [← outward_deeds, deeds]

/-- Answers stay inside. -/
theorem outward_of_answers {effects : List Effect}
    (answers : ∀ effect ∈ effects, ∃ ticket answer, effect = .answered ticket answer) :
    outward effects = [] := by
  refine List.filter_eq_nil_iff.mpr fun effect member => ?_
  obtain ⟨ticket, answer, rfl⟩ := answers effect member
  exact Bool.false_ne_true

end Effect

namespace Engine

variable (engine : Engine)

/-! ### Operations inside -/

private theorem outward_dismissals (tickets : List Ticket) :
    Effect.outward (tickets.map fun ticket => .answered ticket (.error .engineStopped)) = [] := by
  refine Effect.outward_of_answers fun effect member => ?_
  obtain ⟨ticket, _, rfl⟩ := List.mem_map.mp member
  exact ⟨ticket, _, rfl⟩

private theorem outward_tellings (subscribers : Roster JobId Ticket) (outcomes : List Outcome) :
    Effect.outward (tellings subscribers outcomes) = [] := by
  refine Effect.outward_of_answers fun effect member => ?_
  obtain ⟨ticket, outcome, _, rfl⟩ := mem_tellings member
  exact ⟨ticket, _, rfl⟩

private theorem outward_answersTo (subscribers : Roster JobId Ticket) (outcome : Outcome) :
    Effect.outward (answersTo subscribers outcome) = [] := by
  refine Effect.outward_of_answers fun effect member => ?_
  obtain ⟨ticket, _, rfl⟩ := List.mem_map.mp member
  exact ⟨ticket, _, rfl⟩

theorem outward_accept (event : Event) : Effect.outward (engine.accept event).effects = [] := by
  rcases engine.accept_cases event with ⟨ticket, job, input, _, taken⟩ | ⟨silent, _⟩
  · rw [taken]
    rcases engine.submit_cases ticket job input with
      ⟨_, _, _, _, _, deeds⟩ | ⟨_, _, _, _, _, _, deeds⟩
    · exact Effect.outward_of_deeds deeds
    · exact Effect.outward_of_deeds deeds
  · exact Effect.outward_of_deeds silent

theorem outward_complete (worker : NodeId) (request : RequestId) (result : Bytes) (failed : Bool)
    (seconds : Float) :
    Effect.outward (engine.complete worker request result failed seconds).effects = [] := by
  rcases engine.complete_exact worker request result failed seconds with
    ⟨_, _, _, deeds⟩ | ⟨_, struck, _, _, _, _, _, deeds⟩
  · exact Effect.outward_of_deeds deeds
  · exact (Effect.outward_of_deeds deeds).trans (outward_answersTo _ _)

theorem outward_handle (message : Message) :
    Effect.outward (engine.handle message).effects = [] := by
  rcases engine.handle_cases message with
    ⟨_, _, _, _, _, _, deeds⟩ | ⟨request, result, failed, seconds, _, _, _, deeds⟩ |
    ⟨_, _, _, deeds⟩ | ⟨_, _, _, deeds⟩
  · exact Effect.outward_of_deeds deeds
  · have completed := outward_complete { engine with messages := engine.messages + 1 }
      message.source request result failed seconds
    rw [← Effect.outward_deeds] at completed
    exact (Effect.outward_of_deeds deeds).trans completed
  · exact Effect.outward_of_deeds deeds
  · exact Effect.outward_of_deeds deeds

theorem outward_arrive (node : NodeId) : Effect.outward (engine.arrive node).effects = [] := by
  rcases engine.arrive_cases node with ⟨_, _, deeds⟩ | ⟨_, _, deeds⟩
  · exact Effect.outward_of_deeds deeds
  · exact Effect.outward_of_deeds deeds

theorem outward_breakDown (cause : Breakdown) (alive : engine.isGone = false) :
    Effect.outward (engine.breakDown cause).effects = [] :=
  (Effect.outward_of_deeds (engine.breakDown_eq cause alive).2).trans (outward_dismissals _)

/-! ### Operations that reach the outside -/

/-- A worker that starts with its link sends its registration. -/
theorem outward_start : Effect.outward engine.start.effects =
    match engine.scheduler.role with
    | .master => []
    | .worker master _ =>
      if engine.linked then [.sent master .register engine.link.refusal.isNone] else [] := by
  rw [Effect.outward_of_deeds engine.start_eq.2]
  cases engine.scheduler.role with
  | master => rfl
  | worker => cases engine.linked <;> rfl

/-- A departure reaches the outside once. -/
theorem outward_depart (node : NodeId) :
    Effect.outward (engine.depart node).effects = [.applied (.departed node)] := by
  rcases engine.depart_exact node with ⟨_, _, _, _, deeds⟩ | ⟨_, _, _, told, reported, _, _, deeds⟩
  · rw [Effect.outward_of_deeds deeds, Effect.outward_append, outward_tellings, List.append_nil]
    refine congrArg (_ :: ·) (List.filter_eq_nil_iff.mpr fun effect member => ?_)
    obtain ⟨submission, _, rfl⟩ := List.mem_map.mp member
    exact Bool.false_ne_true
  · refine (Effect.outward_of_deeds deeds).trans (congrArg (_ :: ·) ?_)
    refine Effect.outward_of_answers fun effect member => ?_
    obtain ⟨ticket, outcome, rfl, _⟩ := reported.answered effect member
    exact ⟨ticket, _, rfl⟩

/-- **A dispatch sends a request to an active account**, or nothing. -/
theorem outward_dispatch :
    Effect.outward engine.dispatch.effects = [] ∨
      ∃ worker requests request job input,
        engine.ledger.accounts.get? worker = some (.active requests) ∧
        Effect.outward engine.dispatch.effects =
          [.sent worker (.execute request job input) engine.link.refusal.isNone] := by
  rcases engine.dispatch_cases with ⟨_, _, _, deeds⟩ |
    ⟨submission, _, worker, requests, id, _, _, _, _, _, _, active, _, _, deeds⟩
  · exact .inl (Effect.outward_of_deeds deeds)
  · exact .inr ⟨worker, requests, id, _, _, active, Effect.outward_of_deeds deeds⟩

/-- A run of a job sends its completion, if the engine still has its link. -/
theorem outward_execute (request : WorkRequest) :
    Effect.outward (engine.execute request).effects = .ran request.source request.request ::
      if engine.linked then
        [.sent request.source (engine.replyTo request) engine.link.refusal.isNone]
      else [] := by
  rw [Effect.outward_of_deeds (engine.execute_eq request).2]
  cases engine.linked <;> rfl

/-! ### Shutting down -/

/-- **Shutting down closes the link and gives a reason to stop**, and a second time has no
effect. -/
theorem shutdown_cases :
    (engine.phase = .running ∧
      engine.shutdown.value =
        { engine.requestStop .shutdownRequested with
          phase := .stopped, linked := false, subscribers := .empty } ∧
      Effect.outward engine.shutdown.effects = if engine.linked then [.linkClosed] else []) ∨
    engine.phase ≠ .running ∧ engine.shutdown = pure engine := by
  by_cases running : engine.phase = .running
  · obtain ⟨value, deeds⟩ := engine.shutdown_eq running
    refine .inl ⟨running, value, ?_⟩
    rw [Effect.outward_of_deeds deeds, Effect.outward_append, outward_dismissals, List.append_nil]
    cases engine.linked <;> rfl
  · refine .inr ⟨running, ?_⟩
    rw [shutdown, if_pos running]

/-- **The end of a run is a shutdown**, after which nobody looks at the mailbox. -/
theorem finish_cases :
    engine.finish.value = { engine.shutdown.value with mailbox := [], stage := .finished } ∧
      Effect.outward engine.finish.effects = Effect.outward engine.shutdown.effects := by
  refine ⟨rfl, ?_⟩
  rw [finish, Traced.effects_bind, Traced.effects_bind, Traced.effects_pure, List.append_nil,
    Effect.outward_append, dismiss_effects, outward_dismissals, List.append_nil]

/-! ### The deeds of an end -/

section Endings

variable {engine : Engine} {effect : Effect}

private theorem dismissal_of_mem {tickets : List Ticket}
    (member : effect ∈ tickets.map fun ticket => .answered ticket (.error .engineStopped)) :
    ∃ ticket, effect = .answered ticket (.error .engineStopped) := by
  obtain ⟨ticket, _, rfl⟩ := List.mem_map.mp member
  exact ⟨ticket, rfl⟩

/-- **A shutdown closes the link and dismisses submitters**, and does nothing else. -/
theorem mem_deeds_shutdown (member : effect ∈ Effect.deeds engine.shutdown.effects) :
    effect = .linkClosed ∨ ∃ ticket, effect = .answered ticket (.error .engineStopped) := by
  by_cases running : engine.phase = .running
  · rw [(engine.shutdown_eq running).2] at member
    refine (List.mem_append.mp member).imp (fun closing => ?_) dismissal_of_mem
    split at closing
    · exact List.mem_singleton.mp closing
    · cases closing
  · rw [shutdown, if_pos running] at member
    cases member

/-- The end of a run does nothing else, whether or not the engine was shut down before. -/
theorem mem_deeds_finish (member : effect ∈ Effect.deeds engine.finish.effects) :
    effect = .linkClosed ∨ ∃ ticket, effect = .answered ticket (.error .engineStopped) := by
  rw [finish, Traced.effects_bind, Traced.effects_bind, Traced.effects_pure, List.append_nil,
    Effect.deeds_append, deeds_dismiss] at member
  exact (List.mem_append.mp member).elim mem_deeds_shutdown
    fun dismissed => .inr (dismissal_of_mem dismissed)

/-- An engine that cannot go on says so and dismisses submitters. -/
theorem mem_deeds_breakDown {cause : Breakdown} (alive : engine.isGone = false)
    (member : effect ∈ Effect.deeds (engine.breakDown cause).effects) :
    effect = .brokeDown cause ∨ ∃ ticket, effect = .answered ticket (.error .engineStopped) := by
  rw [(engine.breakDown_eq cause alive).2] at member
  exact (List.mem_cons.mp member).imp_right dismissal_of_mem

/-- A selection that takes neither the closing nor a dismissal takes nothing from an end. -/
theorem unselected_of_ending {effects : List Effect} {closing : Effect} {select : Effect → Bool}
    (closes : select closing = false)
    (dismisses : ∀ ticket, select (.answered ticket (.error .engineStopped)) = false)
    (told : ∀ effect ∈ Effect.deeds effects,
      effect = closing ∨ ∃ ticket, effect = .answered ticket (.error .engineStopped)) :
    ∀ effect ∈ Effect.deeds effects, select effect = false := by
  intro effect member
  rcases told effect member with rfl | ⟨ticket, rfl⟩
  · exact closes
  · exact dismisses ticket

/-- The end of a run leaves the scheduler, the ledger and the requested jobs as they are. -/
theorem kept_shutdown (engine : Engine) :
    engine.shutdown.value.scheduler = engine.scheduler ∧
      engine.shutdown.value.ledger = engine.ledger ∧ engine.shutdown.value.work = engine.work ∧
      engine.shutdown.value.executed = engine.executed := by
  rcases engine.shutdown_cases with ⟨_, value, _⟩ | ⟨_, same⟩
  · rw [value]
    exact ⟨rfl, rfl, rfl, rfl⟩
  · rw [same]
    exact ⟨rfl, rfl, rfl, rfl⟩

theorem kept_finish (engine : Engine) :
    engine.finish.value.scheduler = engine.scheduler ∧
      engine.finish.value.ledger = engine.ledger ∧ engine.finish.value.work = engine.work ∧
      engine.finish.value.executed = engine.executed := by
  rw [engine.finish_cases.1]
  exact engine.kept_shutdown

end Endings

end Engine

end JobPool
