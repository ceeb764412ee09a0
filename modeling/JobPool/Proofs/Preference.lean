/-
**The learning rule takes the first candidate with the smallest score.**

The rule asks all candidates before it decides, and keeps the best one so far through comparisons
that a NaN would make false. Scores are never NaN: what is no number counts as unbounded. So the
comparisons are those of a total preorder, and the candidate that is kept is the first of those with
the smallest score, wherever unbounded scores stand among them. The questions do not depend on the
decision; asked of the forecasters in the records, each answers from a stream of its own.

* `SelectionRule.FirstLeast` — the first of some scored candidates with the smallest score;
* `SelectionRule.score_eq` — the score of a candidate;
* `SelectionRule.select_learning` — a selection is one question to every candidate and a decision;
* `Scheduler.mapM_ask` — the answers of the forecasters, none of which depends on another;
* `SelectionRule.first_least_selected` — the rule over any estimators, and in a dispatch.
-/

import JobPool.Proofs.Comparison
import JobPool.Proofs.Selecting

namespace JobPool

namespace SelectionRule

/-! ### The decision -/

/-- **The first of some scored candidates with the smallest score**: those before it score more, and
those after it do not score less. -/
def FirstLeast (scored : List (Candidate × Float)) (winner : Candidate × Float) : Prop :=
  ∃ before after, scored = before ++ winner :: after ∧
    (∀ other ∈ before, winner.2 < other.2) ∧ ∀ other ∈ after, winner.2 ≤ other.2

namespace FirstLeast

variable {scored rest : List (Candidate × Float)} {winner first next : Candidate × Float}

theorem mem (least : FirstLeast scored winner) : winner ∈ scored := by
  obtain ⟨before, after, rfl, _⟩ := least
  exact List.mem_append_right before List.mem_cons_self

/-- A candidate that scores more may come before. -/
theorem cons (least : FirstLeast scored winner) (more : winner.2 < first.2) :
    FirstLeast (first :: scored) winner := by
  obtain ⟨before, after, rfl, earlier, later⟩ := least
  refine ⟨first :: before, after, rfl, fun other member => ?_, later⟩
  rcases List.mem_cons.mp member with rfl | old
  · exact more
  · exact earlier other old

/-- The first candidate is the winner or scores more. -/
theorem first_cases (least : FirstLeast (first :: rest) winner) :
    winner = first ∨ winner.2 < first.2 := by
  obtain ⟨_ | ⟨_, before⟩, after, split, earlier, _⟩ := least
  · exact .inl (List.cons.inj split).1.symm
  · obtain ⟨rfl, _⟩ := List.cons.inj split
    exact .inr (earlier first List.mem_cons_self)

/-- A candidate may be added behind the first one, if it scores no less than the winner and more
than a winner behind it. -/
theorem insert (least : FirstLeast (first :: rest) winner) (atLeast : winner.2 ≤ next.2)
    (more : winner.2 < first.2 → winner.2 < next.2) :
    FirstLeast (first :: next :: rest) winner := by
  obtain ⟨_ | ⟨_, before⟩, after, split, earlier, later⟩ := least
  · obtain ⟨rfl, rfl⟩ := List.cons.inj split
    exact ⟨[], next :: rest, rfl, nofun, List.forall_mem_cons.mpr ⟨atLeast, later⟩⟩
  · obtain ⟨rfl, rfl⟩ := List.cons.inj split
    obtain ⟨own, others⟩ := List.forall_mem_cons.mp earlier
    exact ⟨first :: next :: before, after, rfl,
      List.forall_mem_cons.mpr ⟨own, List.forall_mem_cons.mpr ⟨more own, others⟩⟩, later⟩

end FirstLeast

/-- Keeping the better one of each two keeps the first with the smallest score. -/
private theorem firstLeast_foldl (first : Candidate × Float) (rest : List (Candidate × Float))
    (defined : ∀ pair ∈ first :: rest, pair.2.isNaN = false) :
    FirstLeast (first :: rest) (rest.foldl better first) := by
  induction rest generalizing first with
  | nil => exact ⟨[], [], rfl, nofun, nofun⟩
  | cons next rest hypothesis =>
    obtain ⟨own, others⟩ := List.forall_mem_cons.mp defined
    obtain ⟨following, later⟩ := List.forall_mem_cons.mp others
    rw [List.foldl_cons]
    by_cases kept : first.2 ≤ next.2
    · have remaining : ∀ pair ∈ first :: rest, pair.2.isNaN = false :=
        List.forall_mem_cons.mpr ⟨own, later⟩
      have least := hypothesis first remaining
      have winner := remaining _ least.mem
      have more := fun less => Binary64.lt_of_lt_of_le winner own following less kept
      rw [better, if_pos kept]
      refine least.insert ?_ more
      rcases least.first_cases with same | less
      · rw [same]
        exact kept
      · exact Binary64.le_of_lt winner following (more less)
    · have least := hypothesis next others
      have winner := others _ least.mem
      have less := Binary64.lt_of_not_le own following kept
      rw [better, if_neg kept]
      refine least.cons ?_
      rcases least.first_cases with same | before
      · rw [same]
        exact less
      · exact Binary64.lt_of_lt_of_le winner following own before
          (Binary64.le_of_lt following own less)

/-- What is no number counts as unbounded, which is a number. -/
private theorem isNaN_replaced (number : Float) :
    (if number.isNaN then 1 / 0 else number).isNaN = false := by
  split
  · decide
  next defined => exact Bool.eq_false_iff.mpr defined

/-- **A score is never NaN.** -/
theorem isNaN_score (accountQueuedWork : Bool) (candidate : Candidate) (likely : Float) :
    (score accountQueuedWork candidate likely).isNaN = false :=
  isNaN_replaced _

/-- **A score is the value that was drawn**, with the expected time of the outstanding work if there
is any and it is accounted for. What is no number is unbounded. -/
theorem score_eq (accountQueuedWork : Bool) (candidate : Candidate) (likely : Float) :
    score accountQueuedWork candidate likely =
      let total := if accountQueuedWork = true ∧ 0 < candidate.outstanding then
        likely + Float.ofNat candidate.outstanding * candidate.high else likely
      if total.isNaN = true then 1 / 0 else total := by
  simp only [score, Bool.and_eq_true, decide_eq_true_eq]

/-- The candidates with their scores from the values that were drawn. -/
def scores (accountQueuedWork : Bool) (candidates : List Candidate) (drawn : List Float) :
    List (Candidate × Float) :=
  (candidates.zip drawn).map fun (candidate, value) =>
    (candidate, score accountQueuedWork candidate value)

/-- Every candidate is scored by the value at its place. -/
theorem scores_eq_zipWith (accountQueuedWork : Bool) (candidates : List Candidate)
    (drawn : List Float) :
    scores accountQueuedWork candidates drawn = List.zipWith (fun candidate value =>
      let total := if accountQueuedWork = true ∧ 0 < candidate.outstanding then
        value + Float.ofNat candidate.outstanding * candidate.high else value
      (candidate, if total.isNaN = true then 1 / 0 else total)) candidates drawn := by
  rw [scores, List.map_zip_eq_zipWith]
  refine congrArg (List.zipWith · candidates drawn) (funext₂ fun candidate value => ?_)
  exact congrArg (Prod.mk candidate) (score_eq accountQueuedWork candidate value)

theorem map_fst_scores {accountQueuedWork : Bool} {candidates : List Candidate}
    {drawn : List Float} (lengths : drawn.length = candidates.length) :
    (scores accountQueuedWork candidates drawn).map Prod.fst = candidates := by
  rw [scores, List.map_map]
  exact List.map_fst_zip lengths.ge

theorem isNaN_of_mem_scores {accountQueuedWork : Bool} {candidates : List Candidate}
    {drawn : List Float} :
    ∀ pair ∈ scores accountQueuedWork candidates drawn, pair.2.isNaN = false := by
  intro pair member
  obtain ⟨_, _, rfl⟩ := List.mem_map.mp member
  exact isNaN_score _ _ _

/-- **Somebody is taken if there is anybody to take**, namely the first with the smallest score. -/
theorem firstLeast_cases (accountQueuedWork : Bool) (candidates : List Candidate)
    (drawn : List Float) :
    let scored := scores accountQueuedWork candidates drawn
    (scored = [] ∧ firstLeast scored = none) ∨
      ∃ winner, FirstLeast scored winner ∧ firstLeast scored = some winner.1 := by
  intro scored
  have defined : ∀ pair ∈ scored, pair.2.isNaN = false := isNaN_of_mem_scores
  cases split : scored with
  | nil => exact .inl ⟨rfl, rfl⟩
  | cons first rest => exact .inr ⟨_, firstLeast_foldl first rest (split ▸ defined), rfl⟩

/-! ### The questions -/

section Questions

variable {m : Type → Type} [Monad m] [LawfulMonad m] (likely : Candidate → m Float)
  (accountQueuedWork : Bool) (candidates : List Candidate)

/-- Scoring each answer at once comes to the same as scoring all answers at the end. -/
private theorem mapM_scored :
    (candidates.mapM fun candidate => do
      let drawn ← likely candidate
      return (candidate, score accountQueuedWork candidate drawn)) = do
      let drawn ← candidates.mapM likely
      return scores accountQueuedWork candidates drawn := by
  induction candidates with
  | nil => simp [scores]
  | cons candidate rest hypothesis =>
    rw [List.mapM_cons, List.mapM_cons, hypothesis]
    simp [scores]

/-- **A selection asks every candidate once, in order, and then decides.** -/
theorem select_learning :
    (learning accountQueuedWork).select likely candidates = do
      let drawn ← candidates.mapM likely
      return ((firstLeast (scores accountQueuedWork candidates drawn)).map Candidate.worker,
        learning accountQueuedWork) := by
  rw [select, mapM_scored]
  simp

end Questions

/-- A selection asks every candidate once, in order, whoever is taken. -/
theorem effects_select_learning (accountQueuedWork : Bool) (answer : Candidate → Float)
    (candidates : List Candidate) :
    ((learning accountQueuedWork).select
      (fun candidate => (⟨answer candidate, [candidate]⟩ : Traced Candidate Float))
      candidates).effects = candidates := by
  rw [select_learning, Traced.effects_bind, Traced.effects_pure, List.append_nil]
  induction candidates with
  | nil => rfl
  | cons candidate rest hypothesis =>
    rw [List.mapM_cons, Traced.effects_bind, Traced.effects_bind, hypothesis]
    simp

end SelectionRule

/-! ### The forecasters in the records -/

namespace Scheduler

open SelectionRule (scores firstLeast FirstLeast)

/-- The records after the forecasters of some workers have been asked for one value each. -/
def drawing (records : Roster NodeId WorkerRecord) (workers : List NodeId) :
    Roster NodeId WorkerRecord :=
  records.mapWithKey fun worker record =>
    if worker ∈ workers then { record with forecaster := record.forecaster.likely.2 } else record

/-- The value that a candidate gives next. -/
def prospect (records : Roster NodeId WorkerRecord) (candidate : Candidate) : Float :=
  ((ask candidate).run records).1

/-- What a candidate gives next comes from the forecaster in its record. -/
theorem prospect_of_get? {records : Roster NodeId WorkerRecord} {candidate : Candidate}
    {record : WorkerRecord} (found : records.get? candidate.worker = some record) :
    prospect records candidate = record.forecaster.likely.1 := by
  show (ask candidate records).1 = _
  unfold ask
  rw [found]

/-- **A candidate tells what is outstanding on its worker** and the pessimistic estimate of the
forecaster in its record, and gives a likely value of this forecaster. -/
theorem candidates_shown {scheduler : Scheduler} {ledger : Ledger} {candidate : Candidate}
    (listed : candidate ∈ scheduler.candidates ledger) :
    ∃ record, scheduler.records.get? candidate.worker = some record ∧
      candidate.outstanding = ledger.outstandingOn candidate.worker ∧
      candidate.high = record.forecaster.model.high ∧
      prospect scheduler.records candidate = record.forecaster.likely.1 := by
  obtain ⟨record, represents⟩ := mem_candidates.mp listed
  exact ⟨record, represents.get?, represents.outstanding, represents.high,
    prospect_of_get? represents.get?⟩

/-- A question moves the forecaster of the candidate on, and no other. -/
theorem run_ask (candidate : Candidate) (records : Roster NodeId WorkerRecord) :
    (ask candidate).run records =
      (prospect records candidate, drawing records [candidate.worker]) := by
  refine Prod.ext rfl (Roster.ext ?_)
  show (ask candidate records).2.entries = records.entries.map _
  unfold ask
  split
  next absent =>
    refine ((List.map_congr_left fun entry listed => ?_).trans (List.map_id _)).symm
    have other : entry.1 ≠ candidate.worker := by
      intro same
      rw [← same, Roster.mem_entries_iff.mp listed] at absent
      cases absent
    simp [other]
  next record found =>
    show List.map _ records.entries = _
    refine List.map_congr_left fun entry listed => ?_
    by_cases own : entry.1 = candidate.worker
    · have same := Roster.mem_entries_iff.mp listed
      rw [own, found, Option.some.injEq] at same
      subst same
      simp only [own, List.mem_singleton, if_true]
      rfl
    · simp [own]

/-- What a candidate gives next is a matter of its own record. -/
theorem prospect_drawing {records : Roster NodeId WorkerRecord} {workers : List NodeId}
    {candidate : Candidate} (other : candidate.worker ∉ workers) :
    prospect (drawing records workers) candidate = prospect records candidate := by
  have same : (drawing records workers).get? candidate.worker =
      records.get? candidate.worker := by
    refine (Roster.get?_mapWithKey _ _ _).trans ?_
    simp only [if_neg other]
    exact Option.map_id'
  show (ask candidate (drawing records workers)).1 = (ask candidate records).1
  unfold ask
  rw [same]
  cases records.get? candidate.worker <;> rfl

theorem drawing_drawing {records : Roster NodeId WorkerRecord} {worker : NodeId}
    {workers : List NodeId} (other : worker ∉ workers) :
    drawing (drawing records [worker]) workers = drawing records (worker :: workers) := by
  ext1
  show List.map _ (List.map _ records.entries) = List.map _ records.entries
  rw [List.map_map]
  refine List.map_congr_left fun entry _ => ?_
  by_cases own : entry.1 = worker
  · simp [own, other]
  · simp [own]

/-- **Candidates that are asked one after the other answer as if each were asked alone.** -/
theorem mapM_ask {candidates : List Candidate}
    (distinct : (candidates.map Candidate.worker).Nodup) (records : Roster NodeId WorkerRecord) :
    (candidates.mapM ask).run records =
      (candidates.map (prospect records), drawing records (candidates.map Candidate.worker)) := by
  induction candidates generalizing records with
  | nil =>
    refine Prod.ext rfl (Roster.ext ?_)
    exact (List.map_id _).symm
  | cons candidate rest hypothesis =>
    obtain ⟨other, later⟩ := List.nodup_cons.mp distinct
    have answers : rest.map (prospect (drawing records [candidate.worker])) =
        rest.map (prospect records) := by
      refine List.map_congr_left fun next listed => prospect_drawing fun same => other ?_
      rw [← List.mem_singleton.mp same]
      exact List.mem_map_of_mem listed
    rw [List.mapM_cons, StateT.run_bind, run_ask]
    simp only [StateT.run_bind, hypothesis later]
    rw [List.map_cons, List.map_cons, ← drawing_drawing other, ← answers]
    rfl

/-- **The learning rule dispatches to the first candidate with the smallest score**, whatever the
forecasters answer. -/
theorem maintain_prefers {scheduler : Scheduler} {ledger : Ledger} {accountQueuedWork : Bool}
    {submission : Submission} {rest : List Submission} (link : Link)
    (rule : scheduler.rule = .learning accountQueuedWork) (master : scheduler.isMaster = true)
    (queued : scheduler.queue = submission :: rest)
    (left : ledger.requestIds.next < IdSource.limit) (ready : scheduler.candidates ledger ≠ []) :
    let act := scheduler.maintain ledger link
    let candidates := scheduler.candidates ledger
    act.value.1 = true ∧ ∃ winner id,
      FirstLeast (scores accountQueuedWork candidates
        (candidates.map (prospect scheduler.records))) winner ∧
      Effect.deeds act.effects = [.issued id winner.1.worker submission.id submission.attempt,
        .sent winner.1.worker (.execute id submission.job submission.input)
          link.refusal.isNone] ∧
      act.value.2.1.records =
        (drawing scheduler.records (candidates.map Candidate.worker)).modify winner.1.worker
          fun record => { record with dispatched := record.dispatched + 1 } := by
  intro act candidates
  have dispatched : act.value.1 = true ∧ Effect.deeds act.effects ≠ [] := by
    rcases scheduler.maintain_exact ledger link with ⟨idle, _⟩ |
      ⟨_, _, _, _, _, _, _, _, _, _, _, ⟨exhausted, _⟩ | ⟨_, _, _, value, deeds⟩⟩
    · rw [master, queued] at idle
      rcases idle with none | none | none
      · cases none
      · cases none
      · exact (ready none).elim
    · rw [IdSource.take, if_pos left] at exhausted
      cases exhausted
    · exact ⟨by rw [value], by rw [deeds]; exact List.cons_ne_nil _ _⟩
  have selected : (scheduler.rule.select ask candidates).run scheduler.records =
      (((firstLeast (scores accountQueuedWork candidates
          (candidates.map (prospect scheduler.records)))).map Candidate.worker,
        .learning accountQueuedWork), drawing scheduler.records
          (candidates.map Candidate.worker)) := by
    rw [rule, SelectionRule.select_learning, StateT.run_bind,
      mapM_ask (scheduler.candidates_nodup ledger)]
    rfl
  refine ⟨dispatched.1, ?_⟩
  rcases (maintain_selects link master queued selected).2 with silent |
    ⟨worker, id, chosen, records, deeds⟩
  · exact (dispatched.2 silent).elim
  · rcases SelectionRule.firstLeast_cases accountQueuedWork candidates
      (candidates.map (prospect scheduler.records)) with ⟨_, none⟩ | ⟨winner, least, some⟩
    · rw [none] at chosen
      cases chosen
    · rw [some, Option.map_some, Option.some.injEq] at chosen
      subst chosen
      exact ⟨winner, id, least, deeds, records⟩

end Scheduler

namespace SelectionRule

/-- **The learning rule takes the first candidate with the smallest score.** Whatever estimators
answer and whatever they remember, a selection asks every candidate once and in order, and takes
nobody only if there is nobody. A score is the answer, with the time that the outstanding requests
are expected to take at the pessimistic estimate if queued work is accounted for. What they answer
may be unbounded or no number: a score that would be NaN is unbounded, and the candidate that is
taken scores less than those before it and no more than those after it. So it is when the
forecasters in the records of a scheduler answer for its ready workers, each of which moves on by
one value. -/
theorem first_least_selected (accountQueuedWork : Bool) :
    (∀ {m : Type → Type} [Monad m] [LawfulMonad m] (likely : Candidate → m Float)
      (candidates : List Candidate),
      (learning accountQueuedWork).select likely candidates = do
        let drawn ← candidates.mapM likely
        return ((firstLeast (scores accountQueuedWork candidates drawn)).map Candidate.worker,
          learning accountQueuedWork)) ∧
    (∀ (answer : Candidate → Float) (candidates : List Candidate),
      ((learning accountQueuedWork).select
        (fun candidate => (⟨answer candidate, [candidate]⟩ : Traced Candidate Float))
        candidates).effects = candidates) ∧
    (∀ (candidates : List Candidate) (drawn : List Float), drawn.length = candidates.length →
      let scored := scores accountQueuedWork candidates drawn
      (scored = List.zipWith (fun candidate value =>
        let total := if accountQueuedWork = true ∧ 0 < candidate.outstanding then
          value + Float.ofNat candidate.outstanding * candidate.high else value
        (candidate, if total.isNaN = true then 1 / 0 else total)) candidates drawn) ∧
      scored.map Prod.fst = candidates ∧ (∀ pair ∈ scored, pair.2.isNaN = false) ∧
      (firstLeast scored = none ↔ candidates = []) ∧
      ∀ chosen, firstLeast scored = some chosen →
        ∃ winner, winner.1 = chosen ∧ FirstLeast scored winner) ∧
    (∀ (scheduler : Scheduler) (ledger : Ledger) (link : Link) (submission : Submission)
      (rest : List Submission),
      scheduler.rule = .learning accountQueuedWork → scheduler.isMaster = true →
      scheduler.queue = submission :: rest → ledger.requestIds.next < IdSource.limit →
      scheduler.candidates ledger ≠ [] →
      let act := scheduler.maintain ledger link
      let candidates := scheduler.candidates ledger
      (∀ candidate ∈ candidates, ∃ record,
        scheduler.records.get? candidate.worker = some record ∧
        candidate.outstanding = ledger.outstandingOn candidate.worker ∧
        candidate.high = record.forecaster.model.high ∧
        Scheduler.prospect scheduler.records candidate = record.forecaster.likely.1) ∧
      act.value.1 = true ∧ ∃ winner id,
        FirstLeast (scores accountQueuedWork candidates
          (candidates.map (Scheduler.prospect scheduler.records))) winner ∧
        Effect.deeds act.effects = [.issued id winner.1.worker submission.id submission.attempt,
          .sent winner.1.worker (.execute id submission.job submission.input)
            link.refusal.isNone] ∧
        act.value.2.1.records =
          (Scheduler.drawing scheduler.records (candidates.map Candidate.worker)).modify
            winner.1.worker fun record => { record with dispatched := record.dispatched + 1 }) := by
  refine ⟨fun likely candidates => select_learning likely accountQueuedWork candidates,
    effects_select_learning accountQueuedWork, fun candidates drawn lengths => ?_,
    fun scheduler ledger link submission rest rule master queued left ready =>
      ⟨fun _ listed => Scheduler.candidates_shown listed,
        Scheduler.maintain_prefers link rule master queued left ready⟩⟩
  intro scored
  have all : scored.map Prod.fst = candidates := map_fst_scores lengths
  refine ⟨scores_eq_zipWith accountQueuedWork candidates drawn, all, isNaN_of_mem_scores, ?_⟩
  rcases firstLeast_cases accountQueuedWork candidates drawn with
    ⟨nobody, none⟩ | ⟨winner, least, taken⟩
  · have empty : candidates = [] := all.symm.trans (List.map_eq_nil_iff.mpr nobody)
    refine ⟨⟨fun _ => empty, fun _ => none⟩, fun chosen some => ?_⟩
    rw [none] at some
    cases some
  · have listed : winner.1 ∈ candidates := all ▸ List.mem_map_of_mem least.mem
    rw [taken]
    refine ⟨⟨nofun, fun empty => ?_⟩, ?_⟩
    · rw [empty] at listed
      cases listed
    · rintro chosen ⟨⟩
      exact ⟨winner, rfl, least⟩

/-- Of four candidates the second and the last score three, behind one whose answer is no number and
before one with an unbounded estimate of queued work: the second is taken. And a worker of which
nothing is known gets the job of a scheduler that accounts for queued work. -/
theorem first_least_selected_tied :
    let candidates : List Candidate := [⟨4, 0, 0, 1⟩, ⟨5, 1, 1, 2⟩, ⟨6, 2, 1, 1 / 0⟩, ⟨7, 3, 0, 0⟩]
    let drawn : List Float := [0 / 0, 1, -1, 3]
    let scheduler : Scheduler := { ((Scheduler.create
      { Settings.policy {} with accountQueuedWork := true } 1 1).join 2).value with
        queue := [⟨1, .sleep 0, [], 1⟩] }
    let ledger := (({} : Ledger).register 2).value
    drawn.length = candidates.length ∧ scheduler.rule = .learning true ∧
      scheduler.isMaster = true ∧ ledger.requestIds.next < IdSource.limit ∧
      scheduler.candidates ledger ≠ [] ∧
      (scores true candidates drawn).map Prod.snd = [1 / 0, 3, 1 / 0, 3] ∧
      (∃ winner, winner.1.worker = 5 ∧ FirstLeast (scores true candidates drawn) winner) ∧
      (scheduler.maintain ledger {}).value.1 = true := by
  intro candidates drawn scheduler ledger
  obtain ⟨_, _, selected, dispatched⟩ := first_least_selected true
  have left : ledger.requestIds.next < IdSource.limit := by decide
  have ready : scheduler.candidates ledger ≠ [] := List.cons_ne_nil _ _
  have second : (firstLeast (scores true candidates drawn)).map Candidate.worker = some 5 := by
    decide +kernel
  obtain ⟨chosen, taken, five⟩ := Option.map_eq_some_iff.mp second
  obtain ⟨written, _, _, _, first⟩ := selected candidates drawn rfl
  obtain ⟨winner, same, least⟩ := first chosen taken
  have figures : (scores true candidates drawn).map Prod.snd = [1 / 0, 3, 1 / 0, 3] := by
    rw [written]
    decide +kernel
  exact ⟨rfl, rfl, rfl, left, ready, figures, ⟨winner, same ▸ five, least⟩,
    (dispatched scheduler ledger {} _ _ rfl rfl rfl left ready).2.1⟩

end SelectionRule

end JobPool
