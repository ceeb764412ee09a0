/-
**A submitter is told what the worker of its job reported.**

A job may have been issued several times, to different workers, and their completions may come late,
twice or from somebody else. The request in a completion decides: a submitter hears of success or
failure only while a completion is handled whose request was issued for the job of that submitter to
the sender and is still outstanding there, and it hears what this completion says. Any other
completion finds nothing to strike.

* `Handles` — a run handles a message after a history;
* `outcomes_faithful` — where the answers of a master come from, and what the other completions do.
-/

import JobPool.Proofs.Engine.Books

namespace JobPool

namespace Session

/-- **A run handles a message after a history**: it is the oldest one of the session that the run
has reached, and the run goes on from where handling it leads. -/
structure Handles (start : Session) (whole : Act Session) (history : List Effect)
    (session : Session) (message : Message) : Prop where
  before : Passes start whole history session
  oldest : session.engine.inbound.head? = some message
  after : Passes start whole (history ++ (session.engine.handleNext message).effects)
    { session with engine := (session.engine.handleNext message).value }

section Origins

variable {start : Session} {whole : Act Session} {before after : List Effect} {effect : Effect}

/-- A message that is handled in the turn of an entry. -/
private theorem Origin.handles (origin : Origin start whole before effect after)
    {message : Message} (oldest : origin.session.engine.inbound.head? = some message)
    (handled : (⟨origin.act.value.engine, origin.act.effects⟩ : Act Engine) =
      origin.session.engine.handleNext message) :
    Handles start whole origin.history origin.session message := by
  have follows := origin.follows
  rw [origin.moved] at follows
  rw [show origin.act.effects = (origin.session.engine.handleNext message).effects from
    congrArg Traced.effects handled, show origin.act.value.engine = _ from
    congrArg Traced.value handled] at follows
  exact ⟨origin.passes, oldest, follows⟩

end Origins

/-- A message is handled before anything else is done about it. -/
private theorem early_of_handled {engine : Engine} {message other : Message}
    {early late rest : List Effect}
    (own : (engine.handleNext message).effects = early ++ .handled other :: late)
    (deeds : Effect.deeds (engine.handleNext message).effects = .handled message :: rest)
    (unlike : .handled other ∉ rest) : early = [] ∧ other = message := by
  obtain ⟨tail, first⟩ :
      ∃ tail, (engine.handleNext message).effects = .handled message :: tail := ⟨_, rfl⟩
  rw [first] at own deeds
  cases early with
  | nil =>
    cases own
    exact ⟨rfl, rfl⟩
  | cons effect early =>
    have inside : .handled other ∈ tail := by
      rw [(List.cons.inj own).2]
      exact List.mem_append_right early List.mem_cons_self
    rw [Effect.deeds_cons] at deeds
    have deed : .handled other ∈ Effect.deeds tail := Effect.mem_deeds.mpr ⟨inside, rfl⟩
    rw [show Effect.deeds tail = rest from (List.cons.inj deeds).2] at deed
    exact (unlike deed).elim

/-- What comes before the last entry of a list, if that is not among it. -/
private theorem eq_of_append_last {α : Type} {front early late : List α} {last : α}
    (split : front ++ [last] = early ++ last :: late) (unlike : last ∉ front) : early = front := by
  rcases List.append_eq_append_iff.mp split with ⟨more, rfl, rest⟩ | ⟨more, rfl, rest⟩
  · cases more with
    | nil => exact List.append_nil front
    | cons _ _ => simp at rest
  · cases more with
    | nil => exact (List.append_nil early).symm
    | cons first _ =>
      rw [(List.cons.inj rest).1] at unlike
      exact (unlike (List.mem_append_right early List.mem_cons_self)).elim

/-- **A completion whose request is not outstanding on its sender answers nobody** and changes
neither the queue nor the ledger. -/
private theorem missed_of_stray {history : List Effect} {engine : Engine}
    (booked : engine.Booked history) {source : NodeId} {request : RequestId} {result : Bytes}
    {failed : Bool} {seconds : Float}
    (oldest : engine.inbound.head? = some ⟨source, .completed request result failed seconds⟩)
    (stray : ∀ job attempt, ¬ Effect.Outstanding history source request job attempt) :
    let handled := engine.handleNext ⟨source, .completed request result failed seconds⟩
    Effect.answers handled.effects = [] ∧
      handled.value.scheduler.queue = engine.scheduler.queue ∧
      handled.value.ledger = engine.ledger := by
  intro handled
  obtain ⟨tail, first⟩ : ∃ tail, handled.effects =
      .handled ⟨source, .completed request result failed seconds⟩ :: tail := ⟨_, rfl⟩
  have entered : .handled ⟨source, .completed request result failed seconds⟩ ∈
      Effect.entries handled.effects := by
    rw [first, Effect.mem_entries]
    exact ⟨List.mem_cons_self, rfl⟩
  rcases (Engine.booking_handleNext booked.master oldest).entry.handled entered with
    ⟨struck, earlier, later, rfl, resolution⟩ | miss
  · have member : struck ∈ engine.ledger.requests source := by
      rw [resolution.listed]
      exact List.mem_append_right earlier List.mem_cons_self
    exact (stray _ _ (booked.outstanding member)).elim
  · refine ⟨?_, miss.queue, miss.ledger⟩
    rw [← Effect.answers_deeds, miss.deeds]
    rfl

section Runs

variable (options : Options) (node : NodeId) (link : Link) (stimuli : List Stimulus)

/-- **An answer with the outcome of a run comes from the completion of an outstanding request.** -/
private theorem handles_of_answered {before after : List Effect} {ticket : Ticket}
    {outcome : Outcome} {worker : NodeId}
    (split : ((create options node node link).run stimuli).effects =
      before ++ .answered ticket (.ok outcome) :: after)
    (ran : outcome.worker? = some worker) :
    ∃ history session request result failed seconds submission,
      Handles (create options node node link) ((create options node node link).run stimuli)
        history session ⟨worker, .completed request result failed seconds⟩ ∧
      Effect.deeds before = Effect.deeds history ++
        [.handled ⟨worker, .completed request result failed seconds⟩,
          .resolved worker request true] ∧
      session.engine.ledger.isRegistered worker = true ∧
      ⟨request, submission⟩ ∈ session.engine.ledger.requests worker ∧
      Effect.Outstanding history worker request submission.id submission.attempt ∧
      .admitted ticket submission.id ∈ history ∧
      outcome = Engine.reported worker submission result failed seconds := by
  obtain ⟨origin⟩ := exists_origin options node link stimuli split rfl
  rcases origin.entry.answered origin.entered with
    ⟨other, struck, earlier, later, result, failed, seconds, resolution, waits, rfl⟩ |
    ⟨_, _, _, submission, _, rfl⟩
  · rw [Engine.worker?_reported, Option.some.injEq] at ran
    subst ran
    have booked := origin.sound.booked
    have member : struck ∈ origin.session.engine.ledger.requests other := by
      rw [resolution.listed]
      exact List.mem_append_right earlier List.mem_cons_self
    have answer : answersTo origin.session.engine.subscribers
        (Engine.reported other struck.submission result failed seconds) =
          [.answered ticket
            (.ok (Engine.reported other struck.submission result failed seconds))] := by
      rw [answersTo, Engine.job_reported, waits]
      rfl
    -- The answer is the last of the three deeds, so the other two are all that comes before it.
    have deeds := origin.deeds rfl
    rw [resolution.deeds, answer] at deeds
    refine ⟨origin.history, origin.session, struck.id, result, failed, seconds,
      struck.submission, origin.handles resolution.oldest resolution.handled, ?_,
      resolution.active, member, booked.outstanding member, booked.admitted _ _ waits, rfl⟩
    rw [origin.deeds_before, eq_of_append_last deeds (by simp)]
  · cases ran

/-- **A completion whose handling the history shows is handled after what came before it.** -/
private theorem handles_of_handled {before after : List Effect} {source : NodeId}
    {request : RequestId} {result : Bytes} {failed : Bool} {seconds : Float}
    (split : ((create options node node link).run stimuli).effects =
      before ++ .handled ⟨source, .completed request result failed seconds⟩ :: after) :
    ∃ session, Handles (create options node node link)
      ((create options node node link).run stimuli) before session
      ⟨source, .completed request result failed seconds⟩ := by
  obtain ⟨origin⟩ := exists_origin options node link stimuli split rfl
  have own := origin.own
  -- Nothing of its turn comes before the handling of a message.
  have first : ∀ rest, origin.session.engine.handleNext
        ⟨source, .completed request result failed seconds⟩ =
          ⟨origin.act.value.engine, origin.act.effects⟩ →
      Effect.deeds origin.act.effects =
        .handled ⟨source, .completed request result failed seconds⟩ :: rest →
      .handled ⟨source, .completed request result failed seconds⟩ ∉ rest →
      origin.history = before := by
    intro rest handled deeds unlike
    have effects := congrArg Traced.effects handled
    rw [← show (origin.session.engine.handleNext _).effects = origin.act.effects from effects]
      at own deeds
    exact origin.history_eq (early_of_handled own deeds unlike).1
  rcases origin.entry.handled origin.entered with ⟨struck, earlier, later, rfl, resolution⟩ | miss
  · have handles := origin.handles resolution.oldest resolution.handled
    rw [first _ resolution.handled.symm resolution.deeds (by simp [answersTo])] at handles
    exact ⟨origin.session, handles⟩
  · have handles := origin.handles miss.oldest miss.handled
    rw [first _ miss.handled.symm miss.deeds (by simp)] at handles
    exact ⟨origin.session, handles⟩

/-- **Outcomes are faithful.** Whatever is submitted, delivered and announced to a master: a ticket
is answered with the success or the failure of a job on a worker only while a completion from this
worker is handled whose request was issued to it for the very job of the ticket and is outstanding
there, and the answer is what the completion says. A completion that names a request of another
worker, a request already resolved, or comes from a worker whose departure was applied, answers
nobody and changes neither the queue nor the ledger. -/
theorem outcomes_faithful :
    let start := create options node node link
    let act := start.run stimuli
    (∀ before ticket outcome after worker,
      act.effects = before ++ .answered ticket (.ok outcome) :: after →
      outcome.worker? = some worker →
      ∃ history session request result failed seconds submission,
        Handles start act history session
          ⟨worker, .completed request result failed seconds⟩ ∧
        Effect.deeds before = Effect.deeds history ++
          [.handled ⟨worker, .completed request result failed seconds⟩,
            .resolved worker request true] ∧
        session.engine.ledger.isRegistered worker = true ∧
        ⟨request, submission⟩ ∈ session.engine.ledger.requests worker ∧
        Effect.Outstanding history worker request submission.id submission.attempt ∧
        .admitted ticket submission.id ∈ history ∧
        outcome = Engine.reported worker submission result failed seconds ∧
        outcome.isSuccess = !failed ∧
        outcome.result? = if failed then none else some result) ∧
    ∀ before source request result failed seconds after,
      act.effects =
        before ++ .handled ⟨source, .completed request result failed seconds⟩ :: after →
      (∃ session,
        Handles start act before session ⟨source, .completed request result failed seconds⟩) ∧
      ∀ session,
        Handles start act before session ⟨source, .completed request result failed seconds⟩ →
        (∃ other job attempt, other ≠ source ∧ .issued request other job attempt ∈ before) ∨
          (∃ other, .resolved other request true ∈ before) ∨
          .applied (.departed source) ∈ before →
        let handled := session.engine.handleNext
          ⟨source, .completed request result failed seconds⟩
        Effect.answers handled.effects = [] ∧
          handled.value.scheduler.queue = session.engine.scheduler.queue ∧
          handled.value.ledger = session.engine.ledger := by
  refine ⟨?_, ?_⟩
  · intro before ticket outcome after worker split ran
    obtain ⟨history, session, request, result, failed, seconds, submission, handles, deeds,
      active, member, outstanding, admitted, rfl⟩ :=
      handles_of_answered options node link stimuli split ran
    exact ⟨history, session, request, result, failed, seconds, submission, handles, deeds, active,
      member, outstanding, admitted, rfl, Engine.isSuccess_reported .., Engine.result?_reported ..⟩
  · intro before source request result failed seconds after split
    refine ⟨handles_of_handled options node link stimuli split, fun session handles stray => ?_⟩
    have booked := (Sound.of_passes handles.before).booked
    refine missed_of_stray booked handles.oldest ?_
    rintro job attempt ⟨issued, unresolved, present⟩
    rcases stray with ⟨other, job', attempt', unlike, elsewhere⟩ | ⟨other, resolved⟩ | departed
    · exact unlike (booked.once _ _ _ _ _ _ _ elsewhere issued)
    · obtain ⟨job', attempt', elsewhere⟩ := booked.resolved other request resolved
      rw [booked.once _ _ _ _ _ _ _ elsewhere issued] at resolved
      exact unresolved resolved
    · exact present departed

end Runs

/-- A run in which a job is issued again after the departure of its first worker, and both workers
report it. -/
def reissued : Act Session :=
  (create ({ scheduler := { selector := .roundRobin } } : Settings).options 1 1 {}).run
    [.submit (.sleep 0) [], .deliver ⟨2, .register⟩, .advance true, .advance true,
      .announce (.departed 2), .deliver ⟨3, .register⟩, .advance true,
      .deliver ⟨2, .completed 1 [] false 0⟩, .deliver ⟨3, .completed 2 [7] false 0⟩,
      .advance true]

/-- The late completion of the first worker is ignored, and the second worker answers. -/
theorem outcomes_faithful_reissued :
    let start := create ({ scheduler := { selector := .roundRobin } } : Settings).options 1 1 {}
    (∃ session, Handles start reissued (reissued.effects.take 19) session
        ⟨2, .completed 1 [] false 0⟩ ∧
      (session.engine.handleNext ⟨2, .completed 1 [] false 0⟩).value.ledger =
        session.engine.ledger) ∧
    ∃ history session request result failed seconds submission,
      Handles start reissued history session ⟨3, .completed request result failed seconds⟩ ∧
      Effect.Outstanding history 3 request submission.id submission.attempt ∧
      Outcome.succeeded 1 3 [7] ((Duration.ofSeconds? 0).getD {}) 2 =
        Engine.reported 3 submission result failed seconds := by
  intro start
  have faithful := outcomes_faithful
    ({ scheduler := { selector := .roundRobin } } : Settings).options 1 {}
    [.submit (.sleep 0) [], .deliver ⟨2, .register⟩, .advance true, .advance true,
      .announce (.departed 2), .deliver ⟨3, .register⟩, .advance true,
      .deliver ⟨2, .completed 1 [] false 0⟩, .deliver ⟨3, .completed 2 [7] false 0⟩,
      .advance true]
  constructor
  · obtain ⟨⟨session, handles⟩, ignored⟩ := faithful.2 (reissued.effects.take 19) 2 1 [] false 0
      (reissued.effects.drop 20) (split_of_getElem? (rfl : reissued.effects[19]? = _))
    have departed : .applied (.departed 2) ∈ reissued.effects.take 19 :=
      List.mem_of_getElem? (i := 12) rfl
    exact ⟨session, handles, (ignored session handles (.inr (.inr departed))).2.2⟩
  · obtain ⟨history, session, request, result, failed, seconds, submission, handles, _, _, _,
      outstanding, _, same, _⟩ := faithful.1 (reissued.effects.take 24) 0
        (.succeeded 1 3 [7] ((Duration.ofSeconds? 0).getD {}) 2) (reissued.effects.drop 25) 3
          (split_of_getElem? (rfl : reissued.effects[24]? = _)) rfl
    exact ⟨history, session, request, result, failed, seconds, submission, handles, outstanding,
      same⟩

end Session

end JobPool
