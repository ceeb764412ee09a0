/-
**Every ticket is answered exactly once.**

A ticket is handed out with each submission. It is open as long as its submission waits in the
mailbox or its job waits for an outcome; whatever takes it away from there answers it. So the
answered tickets and the open ones together are always the tickets handed out, each once, and once
the run has ended no ticket is open.

* `Answered` — the account of the tickets, and what kinds of answers there are;
* `Answered.settling` — each of the four ways of settling keeps it;
* `answered_once` — the answers after the end of a run.
-/

import JobPool.Proofs.Engine.Conservation

namespace JobPool

namespace Answer

/-- An answer is an outcome, the reason of a refusal, or the news that the engine has stopped. -/
def isExpected : Answer → Bool
  | .ok _ | .error .engineStopped => true
  | .error fault => Engine.isRefusal fault

end Answer

namespace Engine

/-- **The answered tickets and the open ones are the tickets handed out, each once.** -/
structure Answered (history : List Effect) (submissions : Nat) (engine : Engine) : Prop where
  tickets : ((Effect.answers history).map Prod.fst ++ engine.openTickets).Perm
    (List.range submissions)
  expected : ∀ told ∈ Effect.answers history, Answer.isExpected told.2 = true
  closed : engine.isGone = true → engine.openTickets = []

theorem answered_create (options : Options) (node master : NodeId) (link : Link) :
    (Engine.create options node master link).Answered [] 0 :=
  ⟨.refl _, nofun, fun _ => rfl⟩

/-- Tickets that leave the open ones with an answer stay accounted for. -/
private theorem Answered.exchange {history effects : List Effect} {submissions : Nat}
    {engine next : Engine} (answered : engine.Answered history submissions)
    (exchanged : ((Effect.answers effects).map Prod.fst ++ next.openTickets).Perm
      engine.openTickets)
    (expected : ∀ told ∈ Effect.answers effects, Answer.isExpected told.2 = true)
    (closed : next.isGone = true → next.openTickets = []) :
    next.Answered (history ++ effects) submissions := by
  refine ⟨?_, ?_, closed⟩
  · rw [Effect.answers_append, List.map_append, List.append_assoc]
    exact (exchanged.append_left _).trans answered.tickets
  · intro told member
    rw [Effect.answers_append, List.mem_append] at member
    exact member.elim (answered.expected told) (expected told)

/-- **Each of the four ways of settling keeps the account of the tickets.** -/
theorem Answered.settling {history effects : List Effect} {submissions : Nat}
    {engine next : Engine} (answered : engine.Answered history submissions)
    (conserved : engine.Conserved history) (alive : engine.isGone = false)
    (settling : Settling engine next effects) :
    next.Answered (history ++ effects) submissions := by
  have open_of_present : next.isGone = false → next.isGone = true → next.openTickets = [] :=
    fun present gone => by cases present.symm.trans gone
  cases settling with
  | reports jobs told reported split ids tickets present answers admissions =>
    refine answered.exchange ?_ ?_ (open_of_present present)
    · rw [answers, openTickets, openTickets, tickets, ← List.append_assoc]
      exact reported.tickets.append_right _
    · intro told member
      rw [answers] at member
      obtain ⟨ticket, outcome, same, _⟩ := reported.answered _ (Effect.mem_answers.mp member)
      cases told
      cases same
      rfl
  | refuses ticket fault refusal jobs ids submitters tickets present answers admissions =>
    refine answered.exchange ?_ ?_ (open_of_present present)
    · rw [answers, openTickets, openTickets, submitters, tickets]
      have moved : (ticket :: (engine.subscribers.values ++ next.unacceptedTickets)).Perm
          (engine.subscribers.values ++ ticket :: next.unacceptedTickets) :=
        List.perm_middle.symm
      exact moved
    · intro told member
      rw [answers, List.mem_singleton] at member
      rw [member]
      cases fault <;> first | exact refusal | rfl
  | admits ticket jobs ids submitters tickets present answers admissions =>
    refine answered.exchange ?_ ?_ (open_of_present present)
    · have fresh : engine.subscribers.get? engine.jobIds.next = none := by
        rw [Roster.get?_eq_none_iff, conserved.awaited alive]
        exact conserved.fresh
      rw [answers, openTickets, openTickets, submitters, tickets,
        Roster.values_insert_of_absent fresh, List.append_assoc]
      exact .refl _
    · intro told member
      rw [answers] at member
      cases member
  | ends gone tickets jobs ids completed answers admissions =>
    refine answered.exchange ?_ ?_ fun _ => tickets
    · rw [answers, tickets, List.append_nil, List.map_map]
      exact List.map_id'' (fun _ => rfl) _ ▸ .refl _
    · intro told member
      rw [answers] at member
      obtain ⟨ticket, _, rfl⟩ := List.mem_map.mp member
      rfl

end Engine

namespace Session

/-- The account of the tickets of a session. -/
private def Accounted (history : List Effect) (session : Session) : Prop :=
  session.Kept history ∧ session.engine.Answered history session.submissions

/-- An event at the end of the mailbox brings its ticket, if it has one. -/
private theorem openTickets_posted (engine : Engine) (event : Event) :
    Engine.openTickets { engine with mailbox := engine.mailbox ++ [event] } =
      engine.openTickets ++ (Engine.ticket? event).toList := by
  unfold Engine.openTickets Engine.unacceptedTickets
  rw [List.filterMap_append, ← List.append_assoc]
  cases event <;> rfl

private theorem answered_turn {history : List Effect} {session : Session} {act : Act Session}
    (accounted : Accounted history session) (turn : Turn session act) :
    Accounted (history ++ act.effects) act.value := by
  obtain ⟨kept, answered⟩ := accounted
  refine ⟨kept.turn turn, ?_⟩
  cases turn with
  | move move => exact answered.settling kept.2 move.alive (kept.1.move move).2
  | surround =>
    rw [Traced.effects_pure, List.append_nil]
    exact ⟨answered.tickets, answered.expected, answered.closed⟩
  | @post event alive other =>
    rw [Traced.effects_pure, List.append_nil]
    have tickets := answered.tickets
    have opened := openTickets_posted session.engine event
    rw [other, Option.toList_none, List.append_nil] at opened
    rw [← opened] at tickets
    exact ⟨tickets, answered.expected, fun gone => by cases alive.symm.trans gone⟩
  | @submit job input alive =>
    rw [Traced.effects_pure, List.append_nil]
    have tickets := answered.tickets.append_right [session.submissions]
    have opened := openTickets_posted session.engine (.submit session.submissions job input)
    rw [List.append_assoc, ← List.range_succ] at tickets
    change _ = _ ++ [session.submissions] at opened
    rw [← opened] at tickets
    exact ⟨tickets, answered.expected, fun gone => by cases alive.symm.trans gone⟩
  | @drop effects gone silent =>
    have none : Effect.answers effects = [] := by
      rw [← Effect.answers_deeds, silent]
      rfl
    refine answered.exchange ?_ ?_ answered.closed
    · rw [none]
      exact .refl _
    · intro told member
      rw [none] at member
      cases member
  | @dismiss effects gone told =>
    have one : Effect.answers effects = [(session.submissions, .error .engineStopped)] := by
      rw [← Effect.answers_deeds, told]
      rfl
    have closed := answered.closed gone
    have tickets := answered.tickets.append_right [session.submissions]
    rw [closed, List.append_nil, ← List.range_succ] at tickets
    refine ⟨?_, ?_, answered.closed⟩
    · rw [Effect.answers_append, one, List.map_append, closed, List.append_nil]
      exact tickets
    · intro told member
      rw [Effect.answers_append, one, List.mem_append, List.mem_singleton] at member
      rcases member with early | rfl
      · exact answered.expected told early
      · rfl

/-- A ticket among those that are listed once has one entry. -/
private theorem filter_of_perm {answers : List (Ticket × Answer)} {count : Nat}
    (perm : (answers.map Prod.fst).Perm (List.range count)) {ticket : Ticket}
    (handed : ticket < count) :
    ∃ answer, answers.filter (fun told => told.1 = ticket) = [(ticket, answer)] := by
  have once : (answers.map Prod.fst).count ticket = 1 := by
    rw [perm.count_eq, List.nodup_range.count, if_pos (List.mem_range.mpr handed)]
  rw [List.count_eq_countP, List.countP_map, List.countP_eq_length_filter,
    List.length_eq_one_iff] at once
  obtain ⟨⟨told, answer⟩, only⟩ := once
  have listed : (told, answer) ∈ answers.filter ((· == ticket) ∘ Prod.fst) :=
    only ▸ List.mem_singleton_self _
  obtain rfl : told = ticket := eq_of_beq (List.mem_filter.mp listed).2
  exact ⟨answer, only⟩

/-- **Every ticket is answered exactly once.** Whatever is submitted, delivered and announced to an
engine of either role, and however its run comes to an end: once it has, each ticket that was handed
out before or after the end has one answer, and none is open. If a report says that all is
completed, every admitted submission was answered with an outcome of its own job. -/
theorem answered_once (options : Options) (node master : NodeId) (link : Link)
    (stimuli : List Stimulus) :
    let act := (create options node master link).run stimuli
    let engine := act.value.engine
    engine.isGone = true →
      engine.openTickets = [] ∧
      (∀ ticket < act.value.submissions, ∃ answer, Answer.isExpected answer = true ∧
        (Effect.answers act.effects).filter (fun told => told.1 = ticket) = [(ticket, answer)]) ∧
      (engine.report.stopReason = .completed → ∀ ticket job,
        .admitted ticket job ∈ act.effects → Settled act.effects ticket job) := by
  intro act engine gone
  obtain ⟨⟨orderly, conserved⟩, answered⟩ : Accounted act.effects act.value :=
    @run_keeps Accounted answered_turn (create options node master link) nofun
      ⟨kept_create options node master link, Engine.answered_create options node master link⟩
      stimuli
  have none := answered.closed gone
  have tickets := answered.tickets
  rw [none, List.append_nil] at tickets
  refine ⟨none, fun ticket handed => ?_, fun stated => conserved.completed ?_⟩
  · obtain ⟨answer, once⟩ := filter_of_perm tickets handed
    have listed : (ticket, answer) ∈ Effect.answers act.effects := by
      have member : (ticket, answer) ∈ (Effect.answers act.effects).filter
          fun told => told.1 = ticket := once ▸ List.mem_singleton_self _
      exact (List.mem_filter.mp member).1
    exact ⟨answer, answered.expected _ listed, once⟩
  · have stated : engine.stopReason.getD .shutdownRequested = .completed := stated
    cases reason : engine.stopReason with
    | none =>
      rw [reason] at stated
      cases stated
    | some given =>
      rw [reason] at stated
      exact congrArg some stated

/-- A job runs to its end and its submitter is told, and a later submission is dismissed at once. -/
theorem answered_once_completed :
    let act := (create ({ scheduler := { selector := .roundRobin } } : Settings).options 1 1
      {}).run [.submit (.sleep 0) [], .deliver ⟨2, .register⟩, .endSubmissions, .advance true,
        .advance true, .deliver ⟨2, .completed 1 [] false 0⟩, .advance true, .advance true,
        .submit (.sleep 0) []]
    act.value.engine.isGone = true ∧ act.value.engine.report.stopReason = .completed ∧
      (Effect.answers act.effects).map Prod.fst = [0, 1] ∧ Settled act.effects 0 1 := by
  have answered := answered_once
    ({ scheduler := { selector := .roundRobin } } : Settings).options 1 1 {}
    [.submit (.sleep 0) [], .deliver ⟨2, .register⟩, .endSubmissions, .advance true,
      .advance true, .deliver ⟨2, .completed 1 [] false 0⟩, .advance true, .advance true,
      .submit (.sleep 0) []] rfl
  refine ⟨rfl, rfl, rfl, answered.2.2 rfl 0 1 ?_⟩
  rw [← Effect.mem_admissions]
  exact List.mem_singleton_self _

end Session

end JobPool
