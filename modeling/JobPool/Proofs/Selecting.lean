/-
**How a dispatch asks its rule.**

A dispatch hands the ready workers to the selection rule in the order in which they were first seen,
each with its place in that order. Records are never removed, so a place belongs to one worker for
good. The job goes to the worker that the rule takes, and the rule is kept as the selection leaves
it.

* `Scheduler.candidates_listed`, `candidates_ordered` — the candidates and their places;
* `Scheduler.maintain_selects` — the rule and the worker of a dispatch.
-/

import JobPool.Proofs.Dispatching

namespace JobPool

/-- No key has two places. -/
theorem Roster.place_unique {κ α : Type} {roster : Roster κ α} {key : κ} {first second : Nat}
    (found : roster.keys[first]? = some key) (found' : roster.keys[second]? = some key) :
    first = second :=
  (List.getElem?_inj (List.getElem?_eq_some_iff.mp found).1 roster.keys_nodup).mp
    (found.trans found'.symm)

namespace Scheduler

variable {scheduler : Scheduler} {ledger : Ledger}

/-! ### Candidates in order -/

/-- The position of a candidate is its place among all workers that were ever seen. -/
theorem candidates_listed {candidate : Candidate}
    (listed : candidate ∈ scheduler.candidates ledger) :
    scheduler.records.keys[candidate.position]? = some candidate.worker := by
  obtain ⟨record, represents⟩ := mem_candidates.mp listed
  rw [Roster.keys, List.getElem?_map, represents.placed]
  rfl

/-- **The candidates come in the order of their positions.** -/
theorem candidates_ordered (scheduler : Scheduler) (ledger : Ledger) :
    ((scheduler.candidates ledger).map Candidate.position).Pairwise (· < ·) := by
  have places : (scheduler.records.entries.zipIdx.map Prod.snd).Pairwise (· < ·) := by
    rw [List.zipIdx_map_snd]
    exact List.pairwise_lt_range'
  rw [List.pairwise_map] at places ⊢
  refine places.filterMap _ ?_
  rintro ⟨⟨_, _⟩, _⟩ ⟨⟨_, _⟩, _⟩ before candidate found other found'
  rw [Option.ite_none_right_eq_some] at found found'
  rw [← Option.some.inj found.2, ← Option.some.inj found'.2]
  exact before

/-- No worker is a candidate twice. -/
theorem candidates_nodup (scheduler : Scheduler) (ledger : Ledger) :
    ((scheduler.candidates ledger).map Candidate.worker).Nodup := by
  have ordered := scheduler.candidates_ordered ledger
  rw [List.pairwise_map] at ordered
  refine List.pairwise_map.mpr (ordered.imp_of_mem fun {first second} left right before same => ?_)
  exact Nat.ne_of_lt before
    (Roster.place_unique (candidates_listed left) (same ▸ candidates_listed right))

/-! ### The selection of a dispatch -/

/-- **A dispatch takes the worker that the rule selects**, and keeps the rule and the records as the
selection leaves them, but for the dispatch that it counts. -/
theorem maintain_selects {submission : Submission} {rest : List Submission}
    {chosen : Option NodeId} {rule : SelectionRule} {records : Roster NodeId WorkerRecord}
    (link : Link) (master : scheduler.isMaster = true)
    (queued : scheduler.queue = submission :: rest)
    (selected : (scheduler.rule.select ask (scheduler.candidates ledger)).run scheduler.records =
      ((chosen, rule), records)) :
    let act := scheduler.maintain ledger link
    act.value.2.1.rule = rule ∧
      (Effect.deeds act.effects = [] ∨
        ∃ worker id, chosen = some worker ∧
          act.value.2.1.records = records.modify worker (fun record =>
            { record with dispatched := record.dispatched + 1 }) ∧
          Effect.deeds act.effects = [.issued id worker submission.id submission.attempt,
            .sent worker (.execute id submission.job submission.input) link.refusal.isNone]) := by
  intro act
  unfold act maintain
  rw [if_neg (by simp [master]), queued, selected]
  cases chosen with
  | none => exact ⟨rfl, .inl rfl⟩
  | some worker =>
    simp only [Traced.value_bind, Traced.effects_bind, Effect.deeds_append]
    rcases ledger.issue_cases worker submission with ⟨fault, refused, silent⟩ |
      ⟨requests, id, source, _, _, issued, told⟩
    · rw [refused, silent]
      exact ⟨rfl, .inl rfl⟩
    · rw [issued, told]
      simp only [Traced.value_bind, Traced.effects_bind, Effect.deeds_append, Act.deeds_debug,
        Link.deeds_send]
      refine ⟨?_, .inr ⟨worker, id, rfl, ?_, ?_⟩⟩
      all_goals split <;> rfl

end Scheduler

end JobPool
