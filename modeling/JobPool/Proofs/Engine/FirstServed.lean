/-
**First in the queue, first dispatched.**

Jobs enter the queue of a master at its end, when they are admitted and when a departed worker gives
them back, and they leave it at its head under a request. What was put into the queue is therefore
at any time what was dispatched, in the same order, followed by what still waits. New jobs are
numbered as they enter, so they are first dispatched in the order of their numbers, and a job that
was given back cannot overtake what was waiting then.

* `Effect.enlisted`, `Effect.dispatched` — what was put into the queue, and what left it;
* `Enlists`, `Entry.line` — what an entry puts into the queue or takes out of it;
* `InOrder`, `InOrder.booking` — the queue is in order, and every entry keeps it so;
* `Session.first_served` — the order of the dispatches of a master.
-/

import JobPool.Proofs.Engine.Attempts

namespace JobPool

/-- A job with its attempt. -/
def Submission.label (submission : Submission) : JobId × Nat := (submission.id, submission.attempt)

namespace Effect

/-- **What was put into the queue**, in order: jobs with their attempts. -/
def enlisted (effects : List Effect) : List (JobId × Nat) :=
  effects.filterMap fun
    | queued job attempt => some (job, attempt)
    | _ => none

/-- **What was dispatched**, in the order of the requests. -/
def dispatched (effects : List Effect) : List (JobId × Nat) :=
  effects.filterMap fun
    | issued _ _ job attempt => some (job, attempt)
    | _ => none

@[simp] theorem enlisted_append (first second : List Effect) :
    enlisted (first ++ second) = enlisted first ++ enlisted second :=
  List.filterMap_append

@[simp] theorem dispatched_append (first second : List Effect) :
    dispatched (first ++ second) = dispatched first ++ dispatched second :=
  List.filterMap_append

/-- A selection of effects that takes entries only reads the entries only. -/
private theorem filterMap_entries {α : Type} (select : Effect → Option α)
    (silent : ∀ effect, effect.isEntry = false → select effect = none) (effects : List Effect) :
    (entries effects).filterMap select = effects.filterMap select := by
  rw [entries, List.filterMap_filter]
  have same : (fun effect => if effect.isEntry = true then select effect else none) = select := by
    funext effect
    split
    · rfl
    next other => exact (silent effect (Bool.eq_false_iff.mpr other)).symm
  rw [same]

theorem enlisted_entries (effects : List Effect) : enlisted (entries effects) = enlisted effects :=
  filterMap_entries _ (fun effect other => by cases effect <;> first | rfl | cases other) effects

theorem dispatched_entries (effects : List Effect) :
    dispatched (entries effects) = dispatched effects :=
  filterMap_entries _ (fun effect other => by cases effect <;> first | rfl | cases other) effects

theorem enlisted_deeds (effects : List Effect) : enlisted (deeds effects) = enlisted effects :=
  filterMap_deeds _ (fun _ => rfl) effects

theorem dispatched_deeds (effects : List Effect) :
    dispatched (deeds effects) = dispatched effects :=
  filterMap_deeds _ (fun _ => rfl) effects

end Effect

namespace Engine

open Effect (enlisted dispatched)

/-! ### What an entry does to the queue -/

section Entries

variable {engine next : Engine} {effects : List Effect}

/-- Answers are neither put into the queue nor dispatched. -/
private theorem unlisted_of_answers {told : List Effect}
    (answers : ∀ effect ∈ told, ∃ ticket answer, effect = .answered ticket answer) :
    enlisted told = [] ∧ dispatched told = [] := by
  constructor
  all_goals
    refine List.filterMap_eq_nil_iff.mpr fun effect member => ?_
    obtain ⟨_, _, rfl⟩ := answers effect member
    rfl

private theorem unlisted_tellings (subscribers : Roster JobId Ticket) (outcomes : List Outcome) :
    enlisted (tellings subscribers outcomes) = [] ∧
      dispatched (tellings subscribers outcomes) = [] :=
  unlisted_of_answers fun _ member => by
    obtain ⟨ticket, _, _, rfl⟩ := mem_tellings member
    exact ⟨ticket, _, rfl⟩

private theorem unlisted_answersTo (subscribers : Roster JobId Ticket) (outcome : Outcome) :
    enlisted (answersTo subscribers outcome) = [] ∧
      dispatched (answersTo subscribers outcome) = [] :=
  unlisted_of_answers fun _ member => by
    obtain ⟨ticket, _, rfl⟩ := List.mem_map.mp member
    exact ⟨ticket, _, rfl⟩

/-- An admitted job is put into the queue for its first attempt. -/
theorem Admission.line {ticket : Ticket} {job : Job} {input : Bytes}
    (admission : Admission engine next effects ticket job input) :
    enlisted effects = [(engine.jobIds.next, 1)] ∧ dispatched effects = [] := by
  rw [← Effect.enlisted_deeds, ← Effect.dispatched_deeds, admission.deeds]
  exact ⟨rfl, rfl⟩

theorem Issue.line {worker : NodeId} {submission : Submission}
    (issue : Issue engine next effects worker submission) :
    enlisted effects = [] ∧ dispatched effects = [submission.label] := by
  rw [← Effect.enlisted_entries, ← Effect.dispatched_entries, issue.entries]
  exact ⟨rfl, rfl⟩

/-- **The jobs of a departed worker are put into the queue in the order of their requests**, but for
those that have used up their attempts. -/
theorem Departure.line {worker : NodeId} {later : List Effect}
    (departure : Departure engine next effects worker later) :
    enlisted effects = (engine.scheduler.retried (engine.heldBy worker)).map Submission.label ∧
      dispatched effects = [] := by
  obtain ⟨unlisted, undispatched⟩ := unlisted_tellings engine.subscribers (engine.givenUp worker)
  have first : enlisted effects = enlisted later ∧ dispatched effects = dispatched later := by
    rw [departure.applied]
    exact ⟨rfl, rfl⟩
  rw [first.1, first.2, ← Effect.enlisted_deeds, ← Effect.dispatched_deeds, departure.deeds,
    Effect.enlisted_append, Effect.dispatched_append, unlisted, undispatched, List.append_nil,
    List.append_nil, Effect.enlisted, Effect.dispatched, List.filterMap_map, List.filterMap_map]
  exact ⟨congrFun (List.filterMap_eq_map (f := Submission.label)) _,
    List.filterMap_eq_nil_iff.mpr fun _ _ => rfl⟩

/-- **Where the jobs come from that an entry puts into the queue.** -/
inductive Enlists (engine next : Engine) (effects : List Effect) : List Submission → Prop
  | nothing (jobs : engine.jobIds.next ≤ next.jobIds.next) : Enlists engine next effects []
  | admitted {ticket : Ticket} {job : Job} {input : Bytes}
      (admission : Admission engine next effects ticket job input) :
      Enlists engine next effects [{ id := engine.jobIds.next, job := job, input := input }]
  | returned {worker : NodeId} {later : List Effect}
      (departure : Departure engine next effects worker later) :
      Enlists engine next effects (engine.scheduler.retried (engine.heldBy worker))

/-- **An entry puts jobs at the end of the queue, or takes the job at its head.** -/
theorem Entry.line (entry : Entry engine next effects) :
    (∃ added, Enlists engine next effects added ∧
      next.scheduler.queue = engine.scheduler.queue ++ added ∧
      enlisted effects = added.map Submission.label ∧ dispatched effects = []) ∨
    ∃ worker submission, Issue engine next effects worker submission := by
  cases entry with
  | idle idle =>
    refine .inl ⟨[], .nothing idle.jobs, by rw [idle.queue, List.append_nil], ?_, ?_⟩
    · rw [← Effect.enlisted_entries, idle.silent]
      rfl
    · rw [← Effect.dispatched_entries, idle.silent]
      rfl
  | admits admission =>
    exact .inl ⟨_, .admitted admission, admission.queue, admission.line⟩
  | issues issue => exact .inr ⟨_, _, issue⟩
  | resolves resolution =>
    obtain ⟨unlisted, undispatched⟩ := unlisted_answersTo engine.subscribers _
    refine .inl ⟨[], .nothing (Nat.le_of_eq (by rw [resolution.jobs])),
      by rw [resolution.queue, List.append_nil], ?_, ?_⟩
    · rw [← Effect.enlisted_deeds, resolution.deeds, Effect.enlisted_append, unlisted]
      rfl
    · rw [← Effect.dispatched_deeds, resolution.deeds, Effect.dispatched_append, undispatched]
      rfl
  | misses miss =>
    refine .inl ⟨[], .nothing (Nat.le_of_eq (by rw [miss.jobs])),
      by rw [miss.queue, List.append_nil], ?_, ?_⟩
    · rw [← Effect.enlisted_deeds, miss.deeds]
      rfl
    · rw [← Effect.dispatched_deeds, miss.deeds]
      rfl
  | departs departure => exact .inl ⟨_, .returned departure, departure.queue, departure.line⟩

/-! ### The order of the queue -/

/-- The jobs of the first attempts among some, in order. -/
def firstAttempts (labels : List (JobId × Nat)) : List JobId :=
  (labels.filter fun label => label.2 = 1).map Prod.fst

@[simp] theorem firstAttempts_append (first second : List (JobId × Nat)) :
    firstAttempts (first ++ second) = firstAttempts first ++ firstAttempts second := by
  rw [firstAttempts, List.filter_append, List.map_append]
  rfl

/-- A job is put into the queue for its first attempt when it is admitted, and then it has the
largest number so far. -/
private theorem Enlists.firstAttempts {added : List Submission}
    (enlists : Enlists engine next effects added)
    (tried : ∀ worker, ∀ request ∈ engine.ledger.requests worker, 0 < request.submission.attempt) :
    (firstAttempts (added.map Submission.label) = [] ∧ engine.jobIds.next ≤ next.jobIds.next) ∨
      firstAttempts (added.map Submission.label) = [engine.jobIds.next] ∧
        next.jobIds.next = engine.jobIds.next + 1 := by
  cases enlists with
  | nothing jobs => exact .inl ⟨rfl, jobs⟩
  | admitted admission => exact .inr ⟨rfl, admission.jobs⟩
  | @returned worker later departure =>
    refine .inl ⟨?_, Nat.le_of_eq (by rw [departure.jobs])⟩
    rw [Engine.firstAttempts, List.map_eq_nil_iff, List.filter_eq_nil_iff]
    intro label member
    obtain ⟨_, returned, rfl⟩ := List.mem_map.mp member
    obtain ⟨original, kept, rfl⟩ := List.mem_map.mp returned
    obtain ⟨request, held, rfl⟩ := List.mem_map.mp (List.mem_filter.mp kept).1
    have positive := tried worker request held
    simp [Submission.label, Submission.retry, Nat.ne_of_gt positive]

/-- **The queue is in order**: what was put into it was dispatched, in the same order, and the rest
still waits. The first attempts are in the order of the numbers of their jobs. -/
structure InOrder (history : List Effect) (engine : Engine) : Prop where
  waiting : enlisted history = dispatched history ++ engine.scheduler.queue.map Submission.label
  known : ∀ job ∈ firstAttempts (enlisted history), job < engine.jobIds.next
  ascending : (firstAttempts (enlisted history)).Pairwise (· < ·)

theorem inOrder_create (options : Options) (node master : NodeId) (link : Link) :
    (Engine.create options node master link).InOrder [] :=
  ⟨rfl, nofun, .nil⟩

/-- **Every entry keeps the queue in order.** -/
theorem InOrder.booking {history : List Effect} (inOrder : engine.InOrder history)
    (tried : ∀ worker, ∀ request ∈ engine.ledger.requests worker, 0 < request.submission.attempt)
    (entry : Entry engine next effects) : next.InOrder (history ++ effects) := by
  obtain ⟨waiting, known, ascending⟩ := inOrder
  rcases entry.line with ⟨added, enlists, queue, listed, undispatched⟩ | ⟨worker, submission, issue⟩
  · refine ⟨?_, ?_, ?_⟩
    · rw [Effect.enlisted_append, Effect.dispatched_append, waiting, listed, undispatched, queue,
        List.append_nil, List.map_append, List.append_assoc]
    all_goals
      rw [Effect.enlisted_append, listed, firstAttempts_append]
      rcases enlists.firstAttempts tried with ⟨none, jobs⟩ | ⟨new, jobs⟩
    · rw [none, List.append_nil]
      exact fun job member => Nat.lt_of_lt_of_le (known job member) jobs
    · rw [new, jobs]
      intro job member
      rcases List.mem_append.mp member with old | last
      · exact Nat.lt_succ_of_lt (known job old)
      · exact List.mem_singleton.mp last ▸ Nat.lt_succ_self _
    · rw [none, List.append_nil]
      exact ascending
    · rw [new]
      refine List.pairwise_append.mpr ⟨ascending, List.pairwise_singleton _ _, ?_⟩
      intro old member last single
      exact List.mem_singleton.mp single ▸ known old member
  · obtain ⟨unlisted, taken⟩ := issue.line
    have listed : enlisted (history ++ effects) = enlisted history := by
      rw [Effect.enlisted_append, unlisted, List.append_nil]
    refine ⟨?_, ?_, ?_⟩
    · rw [listed, waiting, Effect.dispatched_append, taken, issue.queue, List.map_cons,
        List.append_assoc]
      rfl
    · rw [listed, issue.jobs]
      exact known
    · rw [listed]
      exact ascending

end Entries

end Engine

namespace Session

open Effect (enlisted dispatched)

/-- The attempts and the queue of the session of a master. -/
structure Lined (policy : Policy) (history : List Effect) (session : Session) : Prop where
  tallied : Tallied policy history session
  inOrder : session.engine.InOrder history

/-- An outstanding request is an attempt that was made. -/
theorem Tallied.tried {policy : Policy} {history : List Effect} {session : Session}
    (tallied : Tallied policy history session) (worker : NodeId) :
    ∀ request ∈ session.engine.ledger.requests worker, 0 < request.submission.attempt := by
  intro request held
  rw [tallied.counted.held worker request held]
  exact Effect.dispatches_pos (tallied.sound.booked.outstanding held).issued

theorem Lined.turn {policy : Policy} {history : List Effect} {session : Session}
    {act : Act Session} (lined : Lined policy history session) (turn : Turn session act) :
    Lined policy (history ++ act.effects) act.value := by
  obtain ⟨tallied, inOrder⟩ := lined
  obtain ⟨booking, _⟩ := turn.booking tallied.sound.kept.1 tallied.sound.booked.master
  exact ⟨tallied.turn turn, inOrder.booking tallied.tried booking.entry⟩

/-- **The queue is in order in every state that the run of a master passes through.** -/
theorem Lined.of_passes {options : Options} {node : NodeId} {link : Link} {whole : Act Session}
    {history : List Effect} {session : Session}
    (passes : Passes (create options node node link) whole history session) :
    Lined options.policy history session :=
  have initial : Lined options.policy [] (create options node node link) :=
    ⟨⟨sound_create options node link, Engine.counted_create options node node link⟩,
      Engine.inOrder_create options node node link⟩
  passes.reached.keeps Lined.turn initial

/-- **What a turn puts into the queue**: a job that it admits, or what a departed worker gives back,
or nothing. -/
private theorem Turn.enlists {session : Session} {act : Act Session} (turn : Turn session act)
    (orderly : session.engine.Orderly) (master : session.engine.scheduler.isMaster = true) :
    (∀ ticket job, .admitted ticket job ∈ act.effects → enlisted act.effects = [(job, 1)]) ∧
    (∀ worker, .applied (.departed worker) ∈ act.effects → enlisted act.effects =
      (session.engine.scheduler.retried (session.engine.heldBy worker)).map Submission.label) ∧
    (enlisted act.effects ≠ [] → (∃ ticket job, .admitted ticket job ∈ act.effects) ∨
      ∃ worker, .applied (.departed worker) ∈ act.effects) := by
  have entry := (turn.booking orderly master).1.entry
  refine ⟨fun ticket job admitted => ?_, fun worker applied => ?_, fun some => ?_⟩
  · obtain ⟨rfl, _, _, admission⟩ := entry.admitted (Effect.mem_entries.mpr ⟨admitted, rfl⟩)
    exact admission.line.1
  · obtain ⟨_, departure⟩ := entry.applied (Effect.mem_entries.mpr ⟨applied, rfl⟩)
    exact departure.line.1
  · rcases entry.line with ⟨_, enlists, _, listed, _⟩ | ⟨_, _, issue⟩
    · cases enlists with
      | nothing => exact (some listed).elim
      | admitted admission =>
        have told : Effect.admitted _ _ ∈ Effect.deeds act.effects :=
          admission.deeds ▸ List.mem_cons_of_mem _ List.mem_cons_self
        exact .inl ⟨_, _, (Effect.mem_deeds.mp told).1⟩
      | returned departure => exact .inr ⟨_, departure.applied ▸ List.mem_cons_self⟩
    · exact (some issue.line.1).elim

section Runs

variable {options : Options} {node : NodeId} {link : Link} {stimuli : List Stimulus}

/-- A job that a worker holds does not wait in the queue. -/
private theorem not_queued_of_held {policy : Policy} {history : List Effect} {session : Session}
    (tallied : Tallied policy history session) {worker : NodeId} {job : JobId}
    (held : job ∈ (session.engine.heldBy worker).map Submission.id) :
    ∀ pending ∈ session.engine.scheduler.queue, pending.id ≠ job := by
  intro pending queued
  obtain ⟨_, holds, rfl⟩ := List.mem_map.mp held
  obtain ⟨request, listed, rfl⟩ := List.mem_map.mp holds
  have distinct := tallied.sound.kept.2.distinct
  rw [Engine.unsettledJobs, List.nodup_append] at distinct
  exact distinct.2.2 _ (List.mem_map_of_mem queued) _
    (List.mem_map_of_mem (Ledger.mem_held_iff.mpr ⟨worker, listed⟩))

/-- **A job that a departed worker gives back is dispatched again after all that waited then.** -/
private theorem dispatched_before_returned {earlier between after : List Effect}
    {worker other : NodeId} {request : RequestId} {job : JobId} {attempt : Nat} {session : Session}
    (split : ((create options node node link).run stimuli).effects =
      (earlier ++ between) ++ .issued request other job attempt :: after)
    (passes : Passes (create options node node link) ((create options node node link).run stimuli)
      earlier session)
    (held : job ∈ (session.engine.heldBy worker).map Submission.id) :
    ∀ pending ∈ session.engine.scheduler.queue, pending.label ∈ dispatched between := by
  obtain ⟨origin⟩ := exists_origin options node link stimuli split rfl
  obtain ⟨submission, issue, entries, rfl, _⟩ := origin.issue
  have lined := Lined.of_passes passes
  have now := (Lined.of_passes origin.passes).inOrder.waiting
  rw [← Effect.enlisted_entries, ← Effect.dispatched_entries, ← entries, Effect.enlisted_entries,
    Effect.dispatched_entries, Effect.enlisted_append, Effect.dispatched_append,
    lined.inOrder.waiting, List.append_assoc, List.append_assoc, List.append_cancel_left_eq,
    issue.queue, List.map_cons] at now
  -- Since the departure, what waited then was followed by what was put into the queue, and the
  -- dispatches up to this one have taken the first of it.
  intro pending queued
  rcases split_append now with ⟨_, inside, _⟩ | ⟨_, _, taken⟩
  · have waits : submission.label ∈ session.engine.scheduler.queue.map Submission.label := by
      rw [inside]
      exact List.mem_append_right _ List.mem_cons_self
    obtain ⟨same, member, label⟩ := List.mem_map.mp waits
    exact (not_queued_of_held lined.tallied held same member (congrArg Prod.fst label)).elim
  · rw [taken]
    exact List.mem_append_left _ (List.mem_map_of_mem queued)

/-- **First in the queue, first dispatched.** Whatever is submitted, delivered and announced to a
master and whatever its link refuses: in every state that its run passes through, the jobs that were
put into the queue, each with its attempt, are those that were dispatched, in the same order, and
then those that wait. A turn puts a job into the queue when it admits it, and the jobs of a departed
worker in the order of their requests. So first attempts are dispatched in the order of the numbers
of their jobs, and after a departure none of the jobs of the worker is dispatched again before all
jobs that waited then. -/
theorem first_served (options : Options) (node : NodeId) (link : Link) (stimuli : List Stimulus) :
    let start := create options node node link
    let act := start.run stimuli
    (∀ history session, Passes start act history session →
      enlisted history =
        dispatched history ++ session.engine.scheduler.queue.map Submission.label ∧
      ∀ turn, Turn session turn →
        (∀ ticket job, .admitted ticket job ∈ turn.effects →
          enlisted turn.effects = [(job, 1)]) ∧
        (∀ worker, .applied (.departed worker) ∈ turn.effects → enlisted turn.effects =
          (session.engine.scheduler.retried (session.engine.heldBy worker)).map
            Submission.label) ∧
        (enlisted turn.effects ≠ [] → (∃ ticket job, .admitted ticket job ∈ turn.effects) ∨
          ∃ worker, .applied (.departed worker) ∈ turn.effects)) ∧
    (Engine.firstAttempts (dispatched act.effects)).Pairwise (· < ·) ∧
    ∀ earlier worker after, act.effects = earlier ++ .applied (.departed worker) :: after →
      (∃ session, Passes start act earlier session) ∧
      ∀ session, Passes start act earlier session →
        ∀ job ∈ (session.engine.heldBy worker).map Submission.id,
          ∀ between request other attempt rest,
            after = between ++ .issued request other job attempt :: rest →
            ∀ pending ∈ session.engine.scheduler.queue, pending.label ∈ dispatched between := by
  intro start act
  refine ⟨fun history session passes => ?_, ?_, fun earlier worker after split => ?_⟩
  · have lined := Lined.of_passes passes
    exact ⟨lined.inOrder.waiting, fun _ turn =>
      turn.enlists lined.tallied.sound.kept.1 lined.tallied.sound.booked.master⟩
  · have last := (Lined.of_passes (Chain.passes_last (chain_create options node node link
      stimuli))).inOrder
    have ascending := last.ascending
    rw [last.waiting, Engine.firstAttempts_append] at ascending
    exact (List.pairwise_append.mp ascending).1
  · obtain ⟨origin⟩ := exists_origin options node link stimuli split rfl
    obtain ⟨later, departure⟩ := origin.entry.applied origin.entered
    have before := origin.passes
    rw [origin.history_eq (departure.first origin.own).1] at before
    refine ⟨⟨origin.session, before⟩, fun session passes => ?_⟩
    rintro job held between request other attempt rest rfl pending queued
    exact dispatched_before_returned
      (split.trans (List.append_assoc earlier (_ :: between) _).symm) passes held pending queued

end Runs

/-- A run in which the first job is given back while the second one waits, over a link that refuses
every message. -/
def givenBack : Act Session :=
  (create ({ scheduler := { selector := .roundRobin } } : Settings).options 1 1
    { refusal := some (.stated .transport "refused") }).run
    [.submit (.sleep 0) [], .deliver ⟨2, .register⟩, .advance true, .advance true,
      .submit (.sleep 0) [], .announce (.departed 2), .deliver ⟨3, .register⟩, .advance true,
      .advance true, .advance true]

/-- The second job is dispatched before the second attempt of the first one. -/
theorem first_served_givenBack :
    enlisted givenBack.effects = [(1, 1), (2, 1), (1, 2)] ∧
      givenBack.value.engine.scheduler.queue = [] ∧
      dispatched givenBack.effects = [(1, 1), (2, 1), (1, 2)] ∧
      (Engine.firstAttempts (dispatched givenBack.effects)).Pairwise (· < ·) ∧
      ∃ earlier between request other rest, ∃ session : Session,
        givenBack.effects =
          earlier ++ .applied (.departed 2) :: (between ++ .issued request other 1 2 :: rest) ∧
        1 ∈ (session.engine.heldBy 2).map Submission.id ∧
        session.engine.scheduler.queue.map Submission.label = [(2, 1)] ∧
        (2, 1) ∈ dispatched between := by
  obtain ⟨waiting, ascending, overtaken⟩ := first_served
    ({ scheduler := { selector := .roundRobin } } : Settings).options 1
    { refusal := some (.stated .transport "refused") }
    [.submit (.sleep 0) [], .deliver ⟨2, .register⟩, .advance true, .advance true,
      .submit (.sleep 0) [], .announce (.departed 2), .deliver ⟨3, .register⟩, .advance true,
      .advance true, .advance true]
  have split : givenBack.effects = givenBack.effects.take 15 ++
      .applied (.departed 2) :: givenBack.effects.drop 16 := split_of_getElem? rfl
  have again : givenBack.effects.drop 16 = (givenBack.effects.drop 16).take 7 ++
      .issued 3 3 1 2 :: (givenBack.effects.drop 16).drop 8 := split_of_getElem? rfl
  obtain ⟨⟨session, passes⟩, served⟩ := overtaken _ _ _ split
  have queue : session.engine.scheduler.queue.map Submission.label = [(2, 1)] := by
    have queue := (waiting _ _ passes).1
    rw [show enlisted (givenBack.effects.take 15) = [(1, 1), (2, 1)] by rfl,
      show dispatched (givenBack.effects.take 15) = [(1, 1)] by rfl] at queue
    exact (List.cons.inj queue).2.symm
  have held : 1 ∈ (session.engine.heldBy 2).map Submission.id := by
    have quiet : ((givenBack.effects.take 15).all fun
        | .resolved .. | .applied (.departed _) => false
        | _ => true) = true := rfl
    have outstanding : Effect.Outstanding (givenBack.effects.take 15) 2 1 1 1 :=
      ⟨List.mem_of_getElem? (i := 6) rfl,
        fun resolved => Bool.false_ne_true (List.all_eq_true.mp quiet _ resolved),
        fun departed => Bool.false_ne_true (List.all_eq_true.mp quiet _ departed)⟩
    obtain ⟨submission, same, _, listed⟩ :=
      ((Tallied.of_passes passes).sound.booked.listed ..).mp outstanding
    exact List.mem_map.mpr ⟨submission, List.mem_map.mpr ⟨_, listed, rfl⟩, same⟩
  obtain ⟨pending, queued, label⟩ := List.mem_map.mp (queue ▸ List.mem_singleton_self (2, 1))
  have before := served session passes 1 held _ 3 3 2 _ again pending queued
  rw [label] at before
  exact ⟨rfl, rfl, rfl, ascending, _, _, _, _, _, session,
    split.trans (congrArg _ (congrArg _ again)), held, queue, before⟩

end Session

end JobPool
