/-
**Which worker a job goes to.**

A dispatch looks at the records and the accounts before it asks the selection rule, and both come
from different parts of the node. A candidate has a record that is not marked as departed and an
active account with room. Each rule takes one of the candidates, whatever the forecasters draw, and
none only if there is no candidate; the draws leave everything else in the records as it is.

* `Scheduler.Represents`, `mem_candidates` — what a candidate tells about a worker;
* `Scheduler.mem_candidates_iff` — the workers that are candidates;
* `SelectionRule.select_cases` — what a rule that asks in a state can take;
* `Redrawn` — records that differ in the draws of their forecasters only;
* `Scheduler.maintain_exact` — a dispatch with the worker that was chosen.
-/

import JobPool.Proofs.Scheduling

namespace JobPool

/-! ### Candidates -/

namespace Scheduler

variable {scheduler : Scheduler} {ledger : Ledger}

/-- **What a candidate tells about the record of its worker**, which is not marked as departed and
whose account has room. -/
structure Represents (scheduler : Scheduler) (ledger : Ledger) (candidate : Candidate)
    (record : WorkerRecord) : Prop where
  placed : scheduler.records.entries[candidate.position]? = some (candidate.worker, record)
  present : record.departed = false
  room : ledger.hasCapacity candidate.worker scheduler.policy.maxOutstanding = true
  outstanding : candidate.outstanding = ledger.outstandingOn candidate.worker
  high : candidate.high = record.forecaster.model.high

theorem Represents.get? {candidate : Candidate} {record : WorkerRecord}
    (represents : Represents scheduler ledger candidate record) :
    scheduler.records.get? candidate.worker = some record :=
  Roster.mem_entries_iff.mp (List.mem_of_getElem? represents.placed)

/-- **The candidates stand for the records of the ready workers.** -/
theorem mem_candidates {candidate : Candidate} :
    candidate ∈ scheduler.candidates ledger ↔
      ∃ record, Represents scheduler ledger candidate record := by
  constructor
  · intro listed
    obtain ⟨⟨⟨worker, record⟩, position⟩, placed, chosen⟩ := List.mem_filterMap.mp listed
    rw [Option.ite_none_right_eq_some] at chosen
    obtain ⟨ready, same⟩ := chosen
    cases same
    rw [Bool.and_eq_true, Bool.not_eq_true'] at ready
    exact ⟨record, List.mk_mem_zipIdx_iff_getElem?.mp placed, ready.1, ready.2, rfl, rfl⟩
  · rintro ⟨record, represents⟩
    obtain ⟨worker, position, outstanding, high⟩ := candidate
    obtain rfl : outstanding = ledger.outstandingOn worker := represents.outstanding
    obtain rfl : high = record.forecaster.model.high := represents.high
    have room : ledger.hasCapacity worker scheduler.policy.maxOutstanding = true := represents.room
    refine List.mem_filterMap.mpr ⟨((worker, record), position),
      List.mk_mem_zipIdx_iff_getElem?.mpr represents.placed, ?_⟩
    show (if !record.departed && ledger.hasCapacity worker scheduler.policy.maxOutstanding then _
      else none) = _
    rw [represents.present, room]
    rfl

/-- **The candidates are the workers whose record is not marked as departed and whose account has
room.** -/
theorem mem_candidates_iff {worker : NodeId} :
    worker ∈ (scheduler.candidates ledger).map Candidate.worker ↔
      (∃ record, scheduler.records.get? worker = some record ∧ record.departed = false) ∧
        ledger.hasCapacity worker scheduler.policy.maxOutstanding = true := by
  rw [List.mem_map]
  constructor
  · rintro ⟨candidate, listed, rfl⟩
    obtain ⟨record, represents⟩ := mem_candidates.mp listed
    exact ⟨⟨record, represents.get?, represents.present⟩, represents.room⟩
  · rintro ⟨⟨record, entered, present⟩, room⟩
    obtain ⟨position, placed⟩ := List.mem_iff_getElem?.mp (Roster.mem_entries_iff.mpr entered)
    exact ⟨⟨worker, position, ledger.outstandingOn worker, record.forecaster.model.high⟩,
      mem_candidates.mpr ⟨record, placed, present, room, rfl, rfl⟩, rfl⟩

end Scheduler

/-! ### What a rule takes -/

namespace SelectionRule

private theorem better_mem (best next : Candidate × Float) :
    better best next = best ∨ better best next = next := by
  unfold better
  split
  · exact .inl rfl
  · exact .inr rfl

/-- The best of some scored candidates is one of them. -/
private theorem foldl_better_mem (first : Candidate × Float) (rest : List (Candidate × Float)) :
    rest.foldl better first ∈ first :: rest := by
  induction rest generalizing first with
  | nil => exact List.mem_singleton_self first
  | cons next rest hypothesis =>
    rw [List.foldl_cons]
    rcases List.mem_cons.mp (hypothesis (better first next)) with best | later
    · rw [best]
      rcases better_mem first next with same | same
      · rw [same]
        exact List.mem_cons_self
      · rw [same]
        exact List.mem_cons_of_mem _ List.mem_cons_self
    · exact List.mem_cons_of_mem _ (List.mem_cons_of_mem _ later)

theorem firstBehind_mem {last : Option Nat} {candidates : List Candidate} {chosen : Candidate}
    (found : firstBehind last candidates = some chosen) : chosen ∈ candidates := by
  unfold firstBehind at found
  cases last with
  | none => exact List.mem_of_head? found
  | some last =>
    rcases Option.or_eq_some_iff.mp found with behind | ⟨_, first⟩
    · exact List.mem_of_find?_eq_some behind
    · exact List.mem_of_head? first

theorem firstBehind_isSome (last : Option Nat) {candidates : List Candidate}
    (ready : candidates ≠ []) : (firstBehind last candidates).isSome = true := by
  have first := List.isSome_head?.mpr ready
  cases last with
  | none => exact first
  | some last =>
    rw [firstBehind, Option.isSome_or, first, Bool.or_true]

variable {σ : Type} {related : σ → σ → Prop} {likely : Candidate → StateM σ Float}

/-- Asking some candidates scores each of them, in order. -/
private theorem exists_scored (same : ∀ state, related state state)
    (chained : ∀ {first second third}, related first second → related second third →
      related first third)
    (asks : ∀ candidate state, related state ((likely candidate).run state).2)
    (accountQueuedWork : Bool) (candidates : List Candidate) (state : σ) :
    ∃ scored after, (candidates.mapM fun candidate => do
        let drawn ← likely candidate
        return (candidate, score accountQueuedWork candidate drawn)).run state = (scored, after) ∧
      scored.map Prod.fst = candidates ∧ related state after := by
  induction candidates generalizing state with
  | nil => exact ⟨[], state, rfl, rfl, same state⟩
  | cons candidate rest hypothesis =>
    obtain ⟨scored, after, run, names, last⟩ := hypothesis ((likely candidate).run state).2
    refine ⟨(candidate, score accountQueuedWork candidate ((likely candidate).run state).1) ::
      scored, after, ?_, congrArg _ names, chained (asks candidate state) last⟩
    rw [List.mapM_cons]
    exact congrArg (fun result : List (Candidate × Float) × σ => (_ :: result.1, result.2)) run

/-- **A rule takes one of the candidates**, and none only if there is none. Its questions change the
state as each of them does. -/
theorem select_cases (same : ∀ state, related state state)
    (chained : ∀ {first second third}, related first second → related second third →
      related first third)
    (asks : ∀ candidate state, related state ((likely candidate).run state).2)
    (rule : SelectionRule) (candidates : List Candidate) (state : σ) :
    (candidates = [] ∧ (rule.select likely candidates).run state = ((none, rule), state)) ∨
      ∃ candidate ∈ candidates, ∃ rule' after,
        (rule.select likely candidates).run state = ((some candidate.worker, rule'), after) ∧
          related state after := by
  by_cases ready : candidates = []
  · subst ready
    cases rule with
    | learning _ => exact .inl ⟨rfl, rfl⟩
    | roundRobin last => cases last <;> exact .inl ⟨rfl, rfl⟩
  refine .inr ?_
  cases rule with
  | learning accountQueuedWork =>
    obtain ⟨scored, after, run, rfl, last⟩ :=
      exists_scored same chained asks accountQueuedWork candidates state
    cases scored with
    | nil => exact (ready rfl).elim
    | cons first rest =>
      refine ⟨(rest.foldl better first).1, List.mem_map_of_mem (foldl_better_mem first rest),
        learning accountQueuedWork, after, ?_, last⟩
      exact congrArg (fun result : List (Candidate × Float) × σ =>
        (((firstLeast result.1).map Candidate.worker, learning accountQueuedWork), result.2)) run
  | roundRobin last =>
    obtain ⟨chosen, found⟩ := Option.isSome_iff_exists.mp (firstBehind_isSome last ready)
    refine ⟨chosen, firstBehind_mem found, roundRobin (some chosen.position), state, ?_, same state⟩
    rw [select, found]
    rfl

end SelectionRule

/-! ### The draws of the forecasters -/

/-- A record whose stream has been put back to a fixed place. -/
def WorkerRecord.rewound (record : WorkerRecord) : WorkerRecord :=
  { record with forecaster := { record.forecaster with stream := .ofSeed 0 } }

/-- **The records differ in the draws of their forecasters only.** -/
structure Redrawn (first second : Roster NodeId WorkerRecord) : Prop where
  keys : second.keys = first.keys
  rewound : ∀ worker, (second.get? worker).map WorkerRecord.rewound =
    (first.get? worker).map WorkerRecord.rewound

namespace Redrawn

variable {first second third : Roster NodeId WorkerRecord}

theorem refl (records : Roster NodeId WorkerRecord) : Redrawn records records :=
  ⟨rfl, fun _ => rfl⟩

theorem trans (left : Redrawn first second) (right : Redrawn second third) :
    Redrawn first third :=
  ⟨right.keys.trans left.keys, fun worker => (right.rewound worker).trans (left.rewound worker)⟩

/-- What does not look at the streams does not see the draws. -/
theorem map_eq {α : Type} {view : WorkerRecord → α} (redrawn : Redrawn first second)
    (blind : ∀ record, view record.rewound = view record) (worker : NodeId) :
    (second.get? worker).map view = (first.get? worker).map view := by
  have same := congrArg (Option.map view) (redrawn.rewound worker)
  rw [Option.map_map, Option.map_map] at same
  rw [show view ∘ WorkerRecord.rewound = view from funext blind] at same
  exact same

end Redrawn

/-- A question to a candidate is a draw of its forecaster. -/
theorem Scheduler.redrawn_ask (candidate : Candidate) (records : Roster NodeId WorkerRecord) :
    Redrawn records ((ask candidate).run records).2 := by
  show Redrawn records (ask candidate records).2
  unfold ask
  split
  · exact .refl records
  next record found =>
    refine ⟨Roster.keys_modify _ _ _, fun worker => ?_⟩
    rw [Roster.get?_modify]
    split
    next same =>
      have drawn : record.forecaster.likely.2.model = record.forecaster.model := by
        unfold Forecaster.likely
        split <;> rfl
      rw [same, found]
      show some (WorkerRecord.rewound _) = some (WorkerRecord.rewound _)
      simp only [WorkerRecord.rewound, drawn]
    next => rfl

/-! ### Dispatches -/

namespace Scheduler

/-- **A dispatch moves the first pending job to a candidate and sends it there.** Without a pending
job or a candidate nothing happens at all. When the identities are used up the rule has chosen and
the forecasters have drawn, and nothing else has happened. -/
theorem maintain_exact (scheduler : Scheduler) (ledger : Ledger) (link : Link) :
    ((scheduler.isMaster = false ∨ scheduler.queue = [] ∨ scheduler.candidates ledger = []) ∧
      scheduler.maintain ledger link = ⟨(false, scheduler, ledger), []⟩) ∨
    ∃ submission rest worker requests rule records,
      scheduler.isMaster = true ∧ scheduler.queue = submission :: rest ∧
      worker ∈ (scheduler.candidates ledger).map Candidate.worker ∧
      ledger.accounts.get? worker = some (.active requests) ∧
      Redrawn scheduler.records records ∧
      (ledger.requestIds.take = none ∧
          (scheduler.maintain ledger link).value =
            (false, { scheduler with rule := rule, records := records }, ledger) ∧
          Effect.deeds (scheduler.maintain ledger link).effects = [] ∨
        ∃ id source, ledger.requestIds.take = some (id, source) ∧
          (scheduler.maintain ledger link).value =
            (true, { scheduler with
                queue := rest
                rule := rule
                records := records.modify worker fun record =>
                  { record with dispatched := record.dispatched + 1 } },
              { accounts := ledger.accounts.insert worker
                  (.active (requests ++ [⟨id, submission⟩]))
                outstanding := ledger.outstanding + 1
                requestIds := source }) ∧
          Effect.deeds (scheduler.maintain ledger link).effects =
            [.issued id worker submission.id submission.attempt,
              .sent worker (.execute id submission.job submission.input) link.refusal.isNone]) := by
  unfold maintain
  split
  next other => exact .inl ⟨.inl (by simpa using other), rfl⟩
  next master =>
    split
    next idle => exact .inl ⟨.inr (.inl idle), rfl⟩
    next submission rest queued =>
      rcases SelectionRule.select_cases Redrawn.refl Redrawn.trans redrawn_ask scheduler.rule
        (scheduler.candidates ledger) scheduler.records with
        ⟨none, selected⟩ | ⟨candidate, listed, rule, records, selected, redrawn⟩
      · rw [selected]
        exact .inl ⟨.inr (.inr none), rfl⟩
      have chosen : candidate.worker ∈ (scheduler.candidates ledger).map Candidate.worker :=
        List.mem_map_of_mem listed
      obtain ⟨requests, active⟩ : ∃ requests,
          ledger.accounts.get? candidate.worker = some (.active requests) := by
        have room := (mem_candidates_iff.mp chosen).2
        unfold Ledger.hasCapacity at room
        split at room
        next requests active => exact ⟨requests, active⟩
        all_goals cases room
      refine .inr ⟨submission, rest, candidate.worker, requests, rule, records,
        by simpa using master, queued, chosen, active, redrawn, ?_⟩
      rw [selected]
      cases taken : ledger.requestIds.take with
      | none =>
        have refused : ledger.issue candidate.worker submission =
            ⟨.error ⟨submission, .idsExhausted .request⟩, []⟩ := by
          rw [Ledger.issue, active]
          simp only [taken]
          rfl
        simp only [refused]
        exact .inl ⟨trivial, rfl, rfl⟩
      | some next =>
        obtain ⟨id, source⟩ := next
        have issued : ledger.issue candidate.worker submission =
            ⟨.ok (id,
              { accounts := ledger.accounts.insert candidate.worker
                  (.active (requests ++ [⟨id, submission⟩]))
                outstanding := ledger.outstanding + 1
                requestIds := source }),
              [.issued id candidate.worker submission.id submission.attempt]⟩ := by
          rw [Ledger.issue, active]
          simp only [taken]
          rfl
        simp only [issued]
        refine .inr ⟨id, source, rfl, ?_, ?_⟩
        · simp only [Traced.value_bind]
          split <;> rfl
        · simp only [Traced.effects_bind, Effect.deeds_append, Act.deeds_debug, Link.deeds_send]
          split <;> rfl

end Scheduler

end JobPool
