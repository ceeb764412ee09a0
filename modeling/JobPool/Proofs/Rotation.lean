/-
**The round-robin rule passes over no ready worker twice.**

The rule remembers the position it took last and takes the first candidate behind it, or the first
of all. The candidates differ from call to call, and the position that was taken last need not be
among them. Still the rule only goes round: as long as one position is ready and not taken, no call
can go past it, so behind that position the taken positions only ascend.

In a pool the candidates are the ready workers in the order in which they were first seen. Records
are never removed, so a position belongs to one worker for good, and the calls of the rule are the
dispatches.

* `SelectionRule.InTurn` — the order in which one meets positions on the way round;
* `SelectionRule.rotation` — what the rule takes in a sequence of calls;
* `SelectionRule.rotation_nodup` — while a ready position is passed over, none is taken twice;
* `Dispatcher.assignments` — the dispatches of a run and the states in which they took place;
* `Dispatcher.ready_worker_served` — between two dispatches to one worker all others have a turn;
* `Dispatcher.ready_not_passed_twice` — the rule over any calls, and in every run of a scheduler.
-/

import JobPool.Proofs.Capacity
import JobPool.Proofs.DispatchEffect
import JobPool.Proofs.Selecting
import Mathlib.Data.List.Chain

namespace JobPool

namespace SelectionRule

/-! ### The way round -/

/-- **On the way round from behind `start`, `first` comes before `second`**, and both before one is
back at `start`. -/
def InTurn (start first second : Nat) : Prop :=
  start < first ∧ (first < second ∨ second < start) ∨ first < second ∧ second < start

namespace InTurn

variable {start first second third : Nat}

theorem trans (left : InTurn start first second) (right : InTurn start second third) :
    InTurn start first third := by
  unfold InTurn at *
  omega

theorem ne (inTurn : InTurn start first second) : first ≠ second := by
  unfold InTurn at inTurn
  omega

instance : Trans (InTurn start) (InTurn start) (InTurn start) := ⟨trans⟩

end InTurn

section Turns

variable {start : Nat} {candidates : List Candidate} {chosen : Candidate}

/-- **A call that does not take a ready position does not go past it.** -/
theorem firstBehind_inTurn {last : Nat} (other : last ≠ start)
    (ordered : (candidates.map Candidate.position).Pairwise (· < ·))
    (present : start ∈ candidates.map Candidate.position)
    (found : firstBehind (some last) candidates = some chosen) (skipped : chosen.position ≠ start) :
    InTurn start last chosen.position := by
  obtain ⟨ready, listed, rfl⟩ := List.mem_map.mp present
  rw [List.pairwise_map] at ordered
  unfold InTurn
  rcases Option.or_eq_some_iff.mp found with behind | ⟨nobody, first⟩
  · obtain ⟨later, before, after, rfl, passed⟩ := List.find?_eq_some_iff_append.mp behind
    have ahead : last < chosen.position := of_decide_eq_true later
    rcases List.mem_append.mp listed with early | late
    · have old : ¬ last < ready.position := by simpa using passed ready early
      omega
    · rcases List.mem_cons.mp late with rfl | late
      · exact (skipped rfl).elim
      have less : chosen.position < ready.position :=
        List.rel_of_pairwise_cons (List.pairwise_append.mp ordered).2.1 late
      omega
  -- Nothing is behind `last`, so the way goes over its end and up to `start` at most.
  · have old : ready.position ≤ last := by simpa using List.find?_eq_none.mp nobody ready listed
    obtain ⟨rest, rfl⟩ := List.head?_eq_some_iff.mp first
    rcases List.mem_cons.mp listed with rfl | late
    · exact (skipped rfl).elim
    have less : chosen.position < ready.position := List.rel_of_pairwise_cons ordered late
    omega

end Turns

/-! ### One call after the other -/

/-- A call takes a candidate, whose position it remembers. -/
def turn (last : Option Nat) (candidates : List Candidate) :
    Traced (Option Candidate) (Option Nat) :=
  let chosen := firstBehind last candidates
  ⟨(chosen.map Candidate.position).or last, [chosen]⟩

/-- **What calls take one after the other**, and the position that is remembered after them. -/
def rotation (last : Option Nat) (calls : List (List Candidate)) :
    Traced (Option Candidate) (Option Nat) :=
  calls.foldlM turn last

/-- A call of the rule is a turn, whatever the estimators would answer. -/
theorem select_roundRobin {m : Type → Type} [Monad m] (likely : Candidate → m Float)
    (last : Option Nat) (candidates : List Candidate) :
    (roundRobin last).select likely candidates =
      pure ((firstBehind last candidates).map Candidate.worker,
        roundRobin (turn last candidates).value) := by
  rw [select, turn]
  cases firstBehind last candidates <;> rfl

theorem effects_rotation_cons (last : Option Nat) (candidates : List Candidate)
    (rest : List (List Candidate)) :
    (rotation last (candidates :: rest)).effects =
      firstBehind last candidates :: (rotation (turn last candidates).value rest).effects := by
  rw [rotation, List.foldlM_cons, Traced.effects_bind]
  rfl

theorem effects_rotation_append (last : Option Nat) (earlier later : List (List Candidate)) :
    (rotation last (earlier ++ later)).effects =
      (rotation last earlier).effects ++
        (rotation (rotation last earlier).value later).effects := by
  rw [rotation, List.foldlM_append, Traced.effects_bind]
  rfl

theorem length_rotation (last : Option Nat) (calls : List (List Candidate)) :
    (rotation last calls).effects.length = calls.length := by
  induction calls generalizing last with
  | nil => rfl
  | cons candidates rest hypothesis =>
    rw [effects_rotation_cons, List.length_cons, hypothesis, List.length_cons]

section Windows

variable {start : Nat} {window : List (List Candidate)}

/-- While a position is passed over, the positions that are taken ascend on the way round, from the
one that is remembered. -/
private theorem rotation_inTurn (last : Option Nat)
    (ordered : ∀ candidates ∈ window, (candidates.map Candidate.position).Pairwise (· < ·))
    (present : ∀ candidates ∈ window, start ∈ candidates.map Candidate.position)
    (skipped : some start ∉ (rotation last window).effects.map (Option.map Candidate.position)) :
    ∃ positions : List Nat, (rotation last window).effects.map (Option.map Candidate.position) =
      positions.map some ∧ positions.IsChain (InTurn start) ∧
      ∀ old, last = some old → old ≠ start → ∀ next ∈ positions.head?, InTurn start old next := by
  induction window generalizing last with
  | nil => exact ⟨[], rfl, .nil, nofun⟩
  | cons candidates rest hypothesis =>
    obtain ⟨sorted, ordered⟩ := List.forall_mem_cons.mp ordered
    obtain ⟨ready, present⟩ := List.forall_mem_cons.mp present
    have somebody : candidates ≠ [] := by
      rintro rfl
      cases ready
    obtain ⟨chosen, found⟩ := Option.isSome_iff_exists.mp (firstBehind_isSome last somebody)
    rw [effects_rotation_cons, turn, found, List.map_cons, List.mem_cons, not_or] at skipped
    have passed : chosen.position ≠ start := fun same => skipped.1 (congrArg some same.symm)
    obtain ⟨positions, taken, chain, next⟩ := hypothesis _ ordered present skipped.2
    refine ⟨chosen.position :: positions, ?_, List.isChain_cons.mpr ⟨next _ rfl passed, chain⟩, ?_⟩
    · rw [effects_rotation_cons, turn, found, List.map_cons, List.map_cons]
      exact congrArg _ taken
    · rintro old rfl other _ ⟨⟩
      exact firstBehind_inTurn other sorted ready found passed

/-- **A position that is ready in all calls of a window and taken in none keeps every position from
being taken twice.** -/
theorem rotation_nodup (last : Option Nat)
    (ordered : ∀ candidates ∈ window, (candidates.map Candidate.position).Pairwise (· < ·))
    (present : ∀ candidates ∈ window, start ∈ candidates.map Candidate.position)
    (skipped : some start ∉ (rotation last window).effects.map (Option.map Candidate.position)) :
    ((rotation last window).effects.map (Option.map Candidate.position)).Nodup := by
  obtain ⟨positions, taken, chain, _⟩ := rotation_inTurn last ordered present skipped
  rw [taken]
  exact List.pairwise_map.mpr
    (chain.pairwise.imp fun inTurn same => inTurn.ne (Option.some.inj same))

/-- The same for a window in the middle of the calls. -/
theorem rotation_window_nodup {last : Option Nat} {earlier later : List (List Candidate)}
    {before chosen after : List (Option Candidate)}
    (taken : (rotation last (earlier ++ window ++ later)).effects = before ++ chosen ++ after)
    (lengthBefore : before.length = earlier.length) (length : chosen.length = window.length)
    (ordered : ∀ candidates ∈ window, (candidates.map Candidate.position).Pairwise (· < ·))
    (present : ∀ candidates ∈ window, start ∈ candidates.map Candidate.position)
    (skipped : some start ∉ chosen.map (Option.map Candidate.position)) :
    (chosen.map (Option.map Candidate.position)).Nodup := by
  rw [effects_rotation_append, effects_rotation_append] at taken
  have parts := (List.append_inj taken (by simp [length_rotation, lengthBefore, length])).1
  have same := (List.append_inj parts (by rw [length_rotation, lengthBefore])).2
  rw [← same] at skipped ⊢
  exact rotation_nodup _ ordered present skipped

/-- The same for workers that stand at their positions in a roster. -/
theorem rotation_workers_nodup {α : Type} {roster : Roster NodeId α} {last : Option Nat}
    {earlier later : List (List Candidate)} {before after : List (Option Candidate)}
    {turns : List Candidate} {other : NodeId}
    (taken : (rotation last (earlier ++ window ++ later)).effects =
      before ++ turns.map some ++ after)
    (lengthBefore : before.length = earlier.length) (length : turns.length = window.length)
    (ordered : ∀ candidates ∈ window, (candidates.map Candidate.position).Pairwise (· < ·))
    (placed : ∀ candidate ∈ turns, roster.keys[candidate.position]? = some candidate.worker)
    (present : ∀ candidates ∈ window,
      ∃ candidate ∈ candidates, roster.keys[candidate.position]? = some other)
    (skipped : other ∉ turns.map Candidate.worker) : (turns.map Candidate.worker).Nodup := by
  cases window with
  | nil =>
    rw [List.length_eq_zero_iff.mp length]
    exact List.nodup_nil
  | cons head tail =>
    obtain ⟨passed, _, stands⟩ := present head List.mem_cons_self
    have ready : ∀ candidates ∈ head :: tail,
        passed.position ∈ candidates.map Candidate.position := by
      intro candidates call
      obtain ⟨candidate, ready, place⟩ := present candidates call
      rw [Roster.place_unique stands place]
      exact List.mem_map_of_mem ready
    have free : some passed.position ∉ (turns.map some).map (Option.map Candidate.position) := by
      rw [List.map_map]
      intro taken
      obtain ⟨candidate, member, same⟩ := List.mem_map.mp taken
      have place := placed candidate member
      rw [Option.some.inj same, stands] at place
      exact skipped (Option.some.inj place ▸ List.mem_map_of_mem member)
    have distinct := rotation_window_nodup taken lengthBefore
      ((List.length_map some).trans length) ordered ready free
    rw [List.map_map, List.Nodup, List.pairwise_map] at distinct
    refine List.pairwise_map.mpr
      (distinct.imp_of_mem fun {first second} left right other same => other ?_)
    exact congrArg some (Roster.place_unique (placed first left) (same ▸ placed second right))

end Windows

end SelectionRule

/-! ### The calls of a pool -/

/-- A change of a value leaves the places of all keys. -/
private theorem Roster.prefix_keys_modify {κ α : Type} [DecidableEq κ] (roster : Roster κ α)
    (key : κ) (change : α → α) : roster.keys <+: (roster.modify key change).keys :=
  (roster.keys_modify key change).symm ▸ List.prefix_refl roster.keys

namespace Dispatcher

variable {dispatcher : Dispatcher}

/-- The workers to which jobs were dispatched. -/
def recipients (effects : List Effect) : List NodeId :=
  effects.filterMap fun
    | .issued _ worker _ _ => some worker
    | _ => none

/-- **What no other call than a dispatch touches**: the rule, the identities that are left, and the
positions of the workers that were seen. -/
structure Aside (before after : Dispatcher) : Prop where
  rule : after.scheduler.rule = before.scheduler.rule
  ids : after.ledger.requestIds = before.ledger.requestIds
  keys : before.scheduler.records.keys <+: after.scheduler.records.keys

theorem Aside.refl (dispatcher : Dispatcher) : dispatcher.Aside dispatcher :=
  ⟨rfl, rfl, List.prefix_refl _⟩

theorem perform_aside (dispatcher : Dispatcher) {call : Call}
    (other : ∀ link, call ≠ .maintain link) : dispatcher.Aside (dispatcher.perform call).value := by
  cases call with
  | submit submission =>
    rw [perform, Traced.value_bind]
    rcases dispatcher.scheduler.submit_cases submission with ⟨_, queued, _⟩ | ⟨_, refused, _⟩
    · rw [queued]
      exact ⟨rfl, rfl, List.prefix_refl _⟩
    · rw [refused]
      exact .refl dispatcher
  | join worker =>
    rw [perform, Traced.value_bind]
    rcases dispatcher.scheduler.join_exact worker with ⟨_, same⟩ | ⟨_, _, _, joined⟩
    · rw [same]
      exact .refl dispatcher
    · rw [joined]
      refine ⟨rfl, rfl, ?_⟩
      show _ <+: (Roster.insert _ _ _).keys
      rw [Roster.keys_insert]
      split
      · exact List.prefix_refl _
      · exact List.prefix_append ..
  | leave worker =>
    rw [perform, Traced.value_bind]
    rcases dispatcher.scheduler.leave_exact worker with ⟨_, left⟩ | ⟨_, _, _, left⟩
    · rw [left]
      exact ⟨rfl, rfl, Roster.prefix_keys_modify ..⟩
    · rw [left]
      exact ⟨rfl, rfl, List.prefix_refl _⟩
  | maintain link => exact (other link rfl).elim
  | giveBack submission =>
    obtain ⟨_, _, frame⟩ := dispatcher.scheduler.giveBack_frame submission
    rw [perform, Traced.value_bind, frame]
    exact ⟨rfl, rfl, List.prefix_refl _⟩
  | takeAbandoned => exact ⟨rfl, rfl, List.prefix_refl _⟩
  | complete worker seconds failed =>
    rw [perform, Traced.value_bind, Scheduler.complete]
    split
    · exact .refl dispatcher
    · exact ⟨rfl, rfl, Roster.prefix_keys_modify ..⟩
  | register worker =>
    exact ⟨rfl, (dispatcher.ledger.books_register worker).2.2, List.prefix_refl _⟩
  | resolve worker id failed =>
    rw [perform, Traced.value_bind]
    rcases (dispatcher.ledger.resolve_cases worker id failed).2 with
      ⟨ignored, _⟩ | ⟨_, _, _, _, _, resolved⟩
    · rw [ignored]
      exact .refl dispatcher
    · rw [resolved]
      exact ⟨rfl, rfl, List.prefix_refl _⟩
  | reclaim worker =>
    obtain ⟨_, _, frame⟩ := dispatcher.scheduler.reclaim_frame dispatcher.ledger worker
    have closed := (dispatcher.scheduler.ledger_reclaim dispatcher.ledger worker).2
    show dispatcher.Aside ⟨(dispatcher.scheduler.reclaim dispatcher.ledger worker).value.2.1,
      (dispatcher.scheduler.reclaim dispatcher.ledger worker).value.2.2⟩
    rw [frame, closed]
    exact ⟨rfl, rfl, List.prefix_refl _⟩

/-- No other call than a dispatch gives a job to a worker. -/
theorem recipients_perform (dispatcher : Dispatcher) {call : Call}
    (other : ∀ link, call ≠ .maintain link) :
    recipients (dispatcher.perform call).effects = [] := by
  refine List.filterMap_eq_nil_iff.mpr fun effect inside => ?_
  cases effect with
  | issued id worker job attempt =>
    obtain ⟨link, same, _⟩ := exists_link_of_deed (Effect.mem_deeds.mpr ⟨inside, rfl⟩) nofun
    exact (other link same).elim
  | _ => rfl

/-- What a dispatch gives to a worker can be read off its deeds. -/
theorem recipients_maintain (dispatcher : Dispatcher) (link : Link) :
    recipients (dispatcher.perform (.maintain link)).effects =
      recipients (Effect.deeds
        (dispatcher.scheduler.maintain dispatcher.ledger link).effects) := by
  refine Eq.trans ?_ (Effect.filterMap_deeds _ (fun _ => rfl) _).symm
  rw [perform, Traced.effects_bind, Traced.effects_pure, List.append_nil]
  rfl

theorem value_maintain (dispatcher : Dispatcher) (link : Link) :
    (dispatcher.perform (.maintain link)).value =
      ⟨(dispatcher.scheduler.maintain dispatcher.ledger link).value.2.1,
        (dispatcher.scheduler.maintain dispatcher.ledger link).value.2.2⟩ := rfl

/-- **The workers that were seen keep their positions.** -/
theorem keys_perform (dispatcher : Dispatcher) (call : Call) :
    dispatcher.scheduler.records.keys <+:
      (dispatcher.perform call).value.scheduler.records.keys := by
  by_cases dispatches : ∃ link, call = .maintain link
  case neg => exact (dispatcher.perform_aside fun link same => dispatches ⟨link, same⟩).keys
  obtain ⟨link, rfl⟩ := dispatches
  rw [value_maintain]
  rcases dispatcher.scheduler.maintain_exact dispatcher.ledger link with ⟨_, nothing⟩ |
    ⟨_, _, _, _, _, _, _, _, _, _, redrawn, ⟨_, same, _⟩ | ⟨_, _, _, issued, _⟩⟩
  · exact nothing.symm ▸ List.prefix_refl _
  · rw [same]
    exact redrawn.keys ▸ List.prefix_refl _
  · rw [issued]
    exact redrawn.keys ▸ Roster.prefix_keys_modify ..

/-- **A call dispatches nothing and leaves the rule alone, or it finds the identities used up, or it
dispatches to the worker whose turn it is.** -/
theorem perform_turn {last : Option Nat} (rule : dispatcher.scheduler.rule = .roundRobin last)
    (call : Call) :
    let act := dispatcher.perform call
    let candidates := dispatcher.scheduler.candidates dispatcher.ledger
    recipients act.effects = [] ∧ (act.value.scheduler.rule = .roundRobin last ∨
        act.value.ledger.requestIds.take = none) ∨
      ∃ chosen, SelectionRule.firstBehind last candidates = some chosen ∧
        recipients act.effects = [chosen.worker] ∧
        act.value.scheduler.rule = .roundRobin (some chosen.position) := by
  intro act candidates
  by_cases dispatches : ∃ link, call = .maintain link
  case neg =>
    have other : ∀ link, call ≠ .maintain link := fun link same => dispatches ⟨link, same⟩
    have same := (dispatcher.perform_aside other).rule
    exact .inl ⟨dispatcher.recipients_perform other, .inl (same.trans rule)⟩
  obtain ⟨link, rfl⟩ := dispatches
  have told : recipients act.effects = _ := dispatcher.recipients_maintain link
  have value : act.value = _ := dispatcher.value_maintain link
  rw [told, value]
  rcases dispatcher.scheduler.maintain_exact dispatcher.ledger link with ⟨_, nothing⟩ |
    ⟨submission, rest, worker, _, _, _, master, queued, _, _, _, moved⟩
  · rw [nothing]
    exact .inl ⟨rfl, .inl rule⟩
  rcases moved with ⟨exhausted, same, silent⟩ | ⟨_, _, _, _, deeds⟩
  · rw [same, silent]
    exact .inl ⟨rfl, .inr exhausted⟩
  obtain ⟨turned, silent | ⟨served, id, taken, _, selected⟩⟩ :=
    Scheduler.maintain_selects link master queued
      (by rw [rule, SelectionRule.select_roundRobin]; rfl)
  · rw [deeds] at silent
    cases silent
  · obtain ⟨chosen, found, rfl⟩ := Option.map_eq_some_iff.mp taken
    refine .inr ⟨chosen, found, by rw [selected]; rfl, turned.trans ?_⟩
    rw [SelectionRule.turn, found]
    rfl

/-- Without identities nothing is dispatched, and none come back. -/
theorem perform_exhausted (exhausted : dispatcher.ledger.requestIds.take = none) (call : Call) :
    recipients (dispatcher.perform call).effects = [] ∧
      (dispatcher.perform call).value.ledger.requestIds.take = none := by
  by_cases dispatches : ∃ link, call = .maintain link
  case neg =>
    have other : ∀ link, call ≠ .maintain link := fun link same => dispatches ⟨link, same⟩
    exact ⟨dispatcher.recipients_perform other,
      (congrArg IdSource.take (dispatcher.perform_aside other).ids).trans exhausted⟩
  obtain ⟨link, rfl⟩ := dispatches
  rw [recipients_maintain, value_maintain]
  rcases dispatcher.scheduler.maintain_exact dispatcher.ledger link with ⟨_, nothing⟩ |
    ⟨_, _, _, _, _, _, _, _, _, _, _, ⟨_, same, silent⟩ | ⟨_, _, left, _⟩⟩
  · rw [nothing]
    exact ⟨rfl, exhausted⟩
  · rw [same, silent]
    exact ⟨rfl, exhausted⟩
  · rw [exhausted] at left
    cases left

/-! ### Dispatches along a run -/

/-- The workers that are ready in a state, as a dispatch hands them to the rule. -/
def candidates (dispatcher : Dispatcher) : List Candidate :=
  dispatcher.scheduler.candidates dispatcher.ledger

/-- **The dispatches of a run**: the state in which each of them took place, and the worker it went
to. -/
def assignments (dispatcher : Dispatcher) : List Call → List (Dispatcher × NodeId)
  | [] => []
  | call :: rest =>
    let act := dispatcher.perform call
    (recipients act.effects).map (dispatcher, ·) ++ act.value.assignments rest

/-- Nothing is dispatched without identities. -/
theorem assignments_of_exhausted (exhausted : dispatcher.ledger.requestIds.take = none)
    (calls : List Call) : dispatcher.assignments calls = [] := by
  induction calls generalizing dispatcher with
  | nil => rfl
  | cons call rest hypothesis =>
    obtain ⟨silent, still⟩ := perform_exhausted exhausted call
    rw [assignments, silent, List.map_nil, List.nil_append]
    exact hypothesis still

/-- The workers that a run has seen keep their positions. -/
theorem keys_run (dispatcher : Dispatcher) (calls : List Call) :
    dispatcher.scheduler.records.keys <+:
      (dispatcher.run calls).value.scheduler.records.keys :=
  @Traced.foldlM_preserves _ _ _ (fun state : Dispatcher =>
      dispatcher.scheduler.records.keys <+: state.scheduler.records.keys) perform calls
    (fun state call _ seen => seen.trans (state.keys_perform call)) _ (List.prefix_refl _)

/-- The dispatches of a run took place among the workers that it has seen. -/
theorem keys_of_mem_assignments {calls : List Call} {assignment : Dispatcher × NodeId}
    (served : assignment ∈ dispatcher.assignments calls) :
    assignment.1.scheduler.records.keys <+:
      (dispatcher.run calls).value.scheduler.records.keys := by
  induction calls generalizing dispatcher with
  | nil => cases served
  | cons call rest hypothesis =>
    rw [assignments] at served
    rcases List.mem_append.mp served with first | later
    · obtain ⟨_, _, rfl⟩ := List.mem_map.mp first
      exact dispatcher.keys_run (call :: rest)
    · rw [run, List.foldlM_cons, Traced.value_bind]
      exact hypothesis later

/-- A candidate stands at its position among all workers that a run has seen. -/
theorem place_of_mem_candidates {state : Dispatcher} {candidate : Candidate} {seen : List NodeId}
    (listed : candidate ∈ state.candidates) (known : state.scheduler.records.keys <+: seen) :
    seen[candidate.position]? = some candidate.worker := by
  obtain ⟨later, rfl⟩ := known
  have place := Scheduler.candidates_listed listed
  rw [List.getElem?_append_left (List.getElem?_eq_some_iff.mp place).1]
  exact place

/-- **The dispatches of a run are the calls of its rule, one after the other.** The workers have the
positions that were taken. -/
theorem rotation_assignments {last : Option Nat}
    (rule : dispatcher.scheduler.rule = .roundRobin last) (calls : List Call) :
    let served := dispatcher.assignments calls
    ∃ chosen : List Candidate,
      (SelectionRule.rotation last (served.map fun assignment => assignment.1.candidates)).effects =
        chosen.map some ∧
      chosen.map Candidate.worker = served.map Prod.snd ∧
      ∀ candidate ∈ chosen,
        (dispatcher.run calls).value.scheduler.records.keys[candidate.position]? =
          some candidate.worker := by
  induction calls generalizing dispatcher last with
  | nil => exact ⟨[], rfl, rfl, nofun⟩
  | cons call rest hypothesis =>
    rw [run, List.foldlM_cons, Traced.value_bind]
    rcases perform_turn rule call with ⟨silent, same | exhausted⟩ | ⟨candidate, found, told, turned⟩
    · rw [assignments, silent]
      exact hypothesis same
    · rw [assignments, silent, assignments_of_exhausted exhausted]
      exact ⟨[], rfl, rfl, nofun⟩
    · obtain ⟨chosen, taken, workers, places⟩ := hypothesis turned
      rw [assignments, told]
      refine ⟨candidate :: chosen, ?_, congrArg _ workers, List.forall_mem_cons.mpr ⟨?_, places⟩⟩
      · show (SelectionRule.rotation last (dispatcher.candidates :: _)).effects = _
        rw [SelectionRule.effects_rotation_cons, SelectionRule.turn, candidates, found,
          List.map_cons]
        exact congrArg _ taken
      · exact place_of_mem_candidates (SelectionRule.firstBehind_mem found)
          (dispatcher.keys_run (call :: rest))

/-- **A worker that is ready at all dispatches of a window and gets none of them keeps every worker
from getting two.** -/
theorem window_nodup {last : Option Nat} {calls : List Call}
    {before window after : List (Dispatcher × NodeId)} {other : NodeId}
    (rule : dispatcher.scheduler.rule = .roundRobin last)
    (served : dispatcher.assignments calls = before ++ window ++ after)
    (ready : ∀ assignment ∈ window, assignment.1.scheduler.Ready assignment.1.ledger other)
    (skipped : other ∉ window.map Prod.snd) : (window.map Prod.snd).Nodup := by
  obtain ⟨chosen, taken, workers, placed⟩ := rotation_assignments rule calls
  have seen : ∀ assignment ∈ dispatcher.assignments calls, _ := fun _ => keys_of_mem_assignments
  rw [served, List.map_append, List.map_append] at taken workers
  obtain ⟨_, later, rfl, workers, _⟩ := List.map_eq_append_iff.mp workers
  obtain ⟨earlier, turns, rfl, early, own⟩ := List.map_eq_append_iff.mp workers
  rw [← own] at skipped ⊢
  refine SelectionRule.rotation_workers_nodup
    (taken.trans (by rw [List.map_append, List.map_append]))
    (by simpa using congrArg List.length early) (by simpa using congrArg List.length own)
    (fun _ call => ?_)
    (fun candidate member => placed candidate
      (List.mem_append_left later (List.mem_append_right earlier member)))
    (fun _ call => ?_) skipped
  · obtain ⟨assignment, _, rfl⟩ := List.mem_map.mp call
    exact Scheduler.candidates_ordered _ _
  · obtain ⟨assignment, member, rfl⟩ := List.mem_map.mp call
    obtain ⟨candidate, listed, rfl⟩ :=
      List.mem_map.mp (Scheduler.mem_candidates_iff_ready.mpr (ready assignment member))
    have known := seen assignment
      (served ▸ List.mem_append_left after (List.mem_append_right before member))
    exact ⟨candidate, listed, place_of_mem_candidates listed known⟩

/-- **Between two dispatches to one worker every other worker that is ready all the time has had a
turn.** -/
theorem ready_worker_served {last : Option Nat} {calls : List Call}
    {before between after : List (Dispatcher × NodeId)} {first second : Dispatcher}
    {worker other : NodeId} (rule : dispatcher.scheduler.rule = .roundRobin last)
    (served : dispatcher.assignments calls =
      before ++ (first, worker) :: between ++ (second, worker) :: after)
    (ready : ∀ assignment ∈ (first, worker) :: between ++ [(second, worker)],
      assignment.1.scheduler.Ready assignment.1.ledger other) :
    other = worker ∨ other ∈ between.map Prod.snd := by
  by_contra passed
  have split : dispatcher.assignments calls =
      before ++ ((first, worker) :: between ++ [(second, worker)]) ++ after := by
    rw [served]
    simp
  rw [not_or] at passed
  have distinct := window_nodup rule split ready (by simp [passed])
  simp at distinct

/-- **The round-robin rule passes over no ready worker twice.** Whatever the estimators would
answer, a selection is a turn of the rule. In calls with candidates in the order of their positions,
from any position that is remembered: if a position is among the candidates of all calls of a window
and is taken in none of them, nothing is taken twice in the window. So it is along all calls of a
scheduler and its ledger, where the workers that were seen keep their positions: between two
dispatches to one worker, every other worker that was ready at all dispatches from the first to the
second has been dispatched to. -/
theorem ready_not_passed_twice (last : Option Nat) :
    (∀ {m : Type → Type} [Monad m] (likely : Candidate → m Float) (candidates : List Candidate),
      (SelectionRule.roundRobin last).select likely candidates =
        pure ((SelectionRule.firstBehind last candidates).map Candidate.worker,
          .roundRobin (SelectionRule.turn last candidates).value)) ∧
    (∀ (earlier window later : List (List Candidate))
      (before chosen after : List (Option Candidate)) (position : Nat),
      (∀ candidates ∈ earlier ++ window ++ later,
        (candidates.map Candidate.position).Pairwise (· < ·)) →
      (SelectionRule.rotation last (earlier ++ window ++ later)).effects =
        before ++ chosen ++ after →
      before.length = earlier.length → chosen.length = window.length →
      (∀ candidates ∈ window, position ∈ candidates.map Candidate.position) →
      some position ∉ chosen.map (Option.map Candidate.position) →
      (chosen.map (Option.map Candidate.position)).Nodup) ∧
    (∀ (policy : Policy) (node master : NodeId), policy.selector = .roundRobin →
      (create policy node master).scheduler.rule = .roundRobin none) ∧
    (∀ (dispatcher : Dispatcher) (calls : List Call),
      dispatcher.scheduler.rule = .roundRobin last →
      dispatcher.scheduler.records.keys <+:
        (dispatcher.run calls).value.scheduler.records.keys ∧
      ∀ before first between second after worker other,
        dispatcher.assignments calls =
          before ++ (first, worker) :: between ++ (second, worker) :: after →
        (∀ assignment ∈ (first, worker) :: between ++ [(second, worker)],
          assignment.1.scheduler.Ready assignment.1.ledger other) →
        other = worker ∨ other ∈ between.map Prod.snd) := by
  refine ⟨fun likely candidates => SelectionRule.select_roundRobin likely last candidates,
    fun earlier window later before chosen after position ordered taken early length present
      skipped => ?_, fun policy node master selector => ?_, fun dispatcher calls rule =>
      ⟨dispatcher.keys_run calls, fun before first between second after worker other served ready =>
        ready_worker_served rule served ready⟩⟩
  · refine SelectionRule.rotation_window_nodup taken early length (fun candidates member => ?_)
      present skipped
    exact ordered candidates (List.mem_append_left later (List.mem_append_right earlier member))
  · show Scheduler.initialRule policy = _
    rw [Scheduler.initialRule, selector]

/-- After position one three calls take two, three and nought, passing over one. And of two workers
that may hold two requests each the second has its turn between two dispatches to the first. -/
theorem ready_not_passed_twice_pair :
    let place : Nat → Candidate := fun position => ⟨position + 5, position, 0, 0⟩
    let window := [[place 1, place 2], [place 1, place 3], [place 0, place 1]]
    let policy : Policy := { Settings.policy {} with selector := .roundRobin, maxOutstanding := 2 }
    let calls : List Call := [.register 2, .join 2, .register 3, .join 3,
      .submit ⟨7, .sleep 0, [], 1⟩, .submit ⟨8, .sleep 0, [], 1⟩, .submit ⟨9, .sleep 0, [], 1⟩,
      .maintain {}, .maintain {}, .maintain {}]
    ((SelectionRule.rotation none ([[place 1]] ++ window ++ [])).effects =
        [some (place 1)] ++ [some (place 2), some (place 3), some (place 0)] ++ [] ∧
      [some 2, some 3, some 0].Nodup) ∧
    policy.selector = .roundRobin ∧
    ∃ first middle second,
      (create policy 1 1).assignments calls =
        [] ++ (first, 2) :: [(middle, 3)] ++ (second, 2) :: [] ∧
      (∀ assignment ∈ (first, 2) :: [(middle, 3)] ++ [(second, 2)],
        assignment.1.scheduler.Ready assignment.1.ledger 3) ∧
      (3 = 2 ∨ 3 ∈ [(middle, 3)].map Prod.snd) := by
  intro place window policy calls
  obtain ⟨_, windows, created, runs⟩ := ready_not_passed_twice none
  refine ⟨⟨rfl, windows [[place 1]] window [] [some (place 1)]
    [some (place 2), some (place 3), some (place 0)] [] 1 (by decide) rfl rfl rfl (by decide)
    (by decide)⟩, rfl, ?_⟩
  have workers : ((create policy 1 1).assignments calls).map Prod.snd = [2, 3, 2] := by
    decide +kernel
  have listed : ∀ assignment ∈ (create policy 1 1).assignments calls,
      3 ∈ assignment.1.candidates.map Candidate.worker := by decide +kernel
  obtain ⟨⟨first, _⟩, _, served, rfl, others⟩ := List.map_eq_cons_iff.mp workers
  obtain ⟨⟨middle, _⟩, _, rfl, rfl, last⟩ := List.map_eq_cons_iff.mp others
  obtain ⟨⟨second, _⟩, _, rfl, rfl, nobody⟩ := List.map_eq_cons_iff.mp last
  obtain rfl := List.map_eq_nil_iff.mp nobody
  have ready : ∀ assignment ∈ (first, 2) :: [(middle, 3)] ++ [(second, 2)],
      assignment.1.scheduler.Ready assignment.1.ledger 3 := fun assignment member =>
    Scheduler.mem_candidates_iff_ready.mp (listed assignment (served ▸ member))
  exact ⟨first, middle, second, served, ready,
    (runs _ calls (created policy 1 1 rfl)).2 [] first _ second [] 2 3 served ready⟩

end Dispatcher

end JobPool
