/-
**The streams of the workers do not interfere.**

All forecasters take their streams from the one stream of the scheduler. That stream moves on only
when a worker is given a record, by one child each time, so the stream of a worker depends on the
seed and on how many workers were seen before it. A forecaster is then moved by its own demands
alone: a completion that is learned from adds a sample to one forecaster, and a dispatch draws from
those of the candidates, each from a stream of its own.

* `Forecaster.Demand`, `Forecaster.consultAll` — what is asked of a forecaster, and what it shows;
* `Scheduler.draws`, `select_askNoting` — the values that a dispatch draws, noted in the selection;
* `Scheduler.Moves` — what dispatches and completions do to the forecasters;
* `Dispatcher.consultations` — what a run asks of the forecaster of one worker, and what it shows;
* `Dispatcher.Consults`, `consults_perform` — a call and the forecasters it consults;
* `Dispatcher.Tracks`, `Tracks.perform` — the streams by the places of their workers, along a run;
* `Dispatcher.streams_independent` — two runs with one seed.
-/

import JobPool.Proofs.Preference
import JobPool.Proofs.Rotation
import Mathlib.Data.List.Nodup

namespace JobPool

/-! ### The children of a stream -/

namespace Random.Stream

/-- The stream behind a number of children. -/
def skip (stream : Stream) (children : Nat) : Stream :=
  { stream with position := stream.position + 8 * children }

/-- The child behind a number of others. -/
def childAt (stream : Stream) (place : Nat) : Stream := (stream.skip place).child.1

theorem child_skip (stream : Stream) (children : Nat) :
    (stream.skip children).child = (stream.childAt children, stream.skip (children + 1)) := rfl

end Random.Stream

/-! ### Demands on a forecaster -/

namespace Forecaster

/-- What can be asked of a forecaster: to learn from a sample, or a likely value. -/
inductive Demand where
  | sample (value : Float)
  | draw
  deriving DecidableEq

/-- A demand with the value that was drawn, and what the forecaster says after it. -/
structure Consultation where
  demand : Demand
  drawn : Option Float
  average : Float
  deviation : Float

/-- The forecaster after a demand. -/
def meet (forecaster : Forecaster) : Demand → Forecaster
  | .sample value => forecaster.add value
  | .draw => forecaster.likely.2

/-- The value that a forecaster gives on a demand. -/
def answer (forecaster : Forecaster) : Demand → Option Float
  | .sample _ => none
  | .draw => some forecaster.likely.1

/-- A demand and what the forecaster shows on it. -/
def consult (forecaster : Forecaster) (demand : Demand) : Consultation where
  demand := demand
  drawn := forecaster.answer demand
  average := (forecaster.meet demand).model.average
  deviation := (forecaster.meet demand).model.deviation

/-- What a forecaster shows on one demand after the other. -/
def consultAll (forecaster : Forecaster) : List Demand → List Consultation
  | [] => []
  | demand :: rest => forecaster.consult demand :: (forecaster.meet demand).consultAll rest

theorem consultAll_append (forecaster : Forecaster) (earlier later : List Demand) :
    forecaster.consultAll (earlier ++ later) =
      forecaster.consultAll earlier ++ (earlier.foldl meet forecaster).consultAll later := by
  induction earlier generalizing forecaster with
  | nil => rfl
  | cons demand rest hypothesis =>
    rw [List.cons_append, consultAll, consultAll, hypothesis, List.foldl_cons, List.cons_append]

/-- **Between two states of a forecaster lie these consultations**: they are what the first one
shows on their demands, and the demands lead to the second one. -/
structure Consulted (first : Forecaster) (consultations : List Consultation)
    (last : Forecaster) : Prop where
  shown : consultations = first.consultAll (consultations.map Consultation.demand)
  reached : last = (consultations.map Consultation.demand).foldl meet first

namespace Consulted

variable {first second third : Forecaster} {earlier later : List Consultation}

theorem nil (forecaster : Forecaster) : forecaster.Consulted [] forecaster := ⟨rfl, rfl⟩

theorem single (forecaster : Forecaster) (demand : Demand) :
    forecaster.Consulted [forecaster.consult demand] (forecaster.meet demand) := ⟨rfl, rfl⟩

theorem append (before : first.Consulted earlier second) (after : second.Consulted later third) :
    first.Consulted (earlier ++ later) third := by
  obtain ⟨shown, rfl⟩ := before
  obtain ⟨shown', reached⟩ := after
  constructor
  · rw [List.map_append, consultAll_append, ← shown, ← shown']
  · rw [List.map_append, List.foldl_append]
    exact reached

/-- **The demands decide on everything.** -/
theorem unique (before : first.Consulted earlier second) (after : first.Consulted later third)
    (same : earlier.map Consultation.demand = later.map Consultation.demand) :
    earlier = later ∧ second = third := by
  constructor
  · rw [before.shown, after.shown, same]
  · rw [before.reached, after.reached, same]

end Consulted

end Forecaster

/-! ### The draws of a dispatch -/

namespace Scheduler

open Forecaster (Demand)

/-- A question to a candidate, with a note of the value it draws. -/
def askNoting (candidate : Candidate) :
    StateT (Roster NodeId WorkerRecord) (Traced (NodeId × Float)) Float := fun records =>
  let answered := (ask candidate).run records
  ⟨answered, [(candidate.worker, answered.1)]⟩

/-- **The values that a dispatch draws**, each with the worker whose forecaster was asked. -/
def draws (scheduler : Scheduler) (ledger : Ledger) : List (NodeId × Float) :=
  if !scheduler.isMaster || scheduler.queue.isEmpty then []
  else ((scheduler.rule.select askNoting (scheduler.candidates ledger)).run
    scheduler.records).effects

/-- The candidates have records. -/
theorem candidates_seen (scheduler : Scheduler) (ledger : Ledger) :
    ∀ candidate ∈ scheduler.candidates ledger,
      ∃ record, scheduler.records.get? candidate.worker = some record := by
  intro candidate listed
  obtain ⟨record, represents⟩ := mem_candidates.mp listed
  exact ⟨record, represents.get?⟩

theorem drawing_nil (records : Roster NodeId WorkerRecord) : drawing records [] = records := by
  ext1
  exact List.map_id _

/-- Questions to several candidates, with their notes. -/
private theorem mapM_askNoting {candidates : List Candidate}
    (distinct : (candidates.map Candidate.worker).Nodup) (records : Roster NodeId WorkerRecord) :
    (candidates.mapM askNoting).run records =
      ⟨(candidates.map (prospect records), drawing records (candidates.map Candidate.worker)),
        candidates.map fun candidate => (candidate.worker, prospect records candidate)⟩ := by
  induction candidates generalizing records with
  | nil =>
    rw [List.map_nil, List.map_nil, List.map_nil, drawing_nil]
    rfl
  | cons candidate rest hypothesis =>
    obtain ⟨other, later⟩ := List.nodup_cons.mp distinct
    have answers : ∀ next ∈ rest, prospect (drawing records [candidate.worker]) next =
        prospect records next := fun next listed => prospect_drawing fun same => other
      (List.mem_singleton.mp same ▸ List.mem_map_of_mem listed)
    have values := List.map_congr_left answers
    have notes := List.map_congr_left fun next listed =>
      congrArg (Prod.mk next.worker) (answers next listed)
    have asked : (askNoting candidate).run records =
        ⟨(prospect records candidate, drawing records [candidate.worker]),
          [(candidate.worker, prospect records candidate)]⟩ := by
      show (⟨(ask candidate).run records, [(candidate.worker, _)]⟩ : Traced _ _) = _
      rw [run_ask]
    rw [List.mapM_cons, StateT.run_bind, asked]
    show (⟨_, _⟩ : Traced _ _) = _
    simp only [StateT.run_bind, StateT.run_pure, hypothesis later, values, notes,
      drawing_drawing other, Traced.value_bind, Traced.effects_bind, Traced.effects_pure,
      List.append_nil]
    rfl

/-- **Noting the draws changes nothing about a selection.** Every draw is that of the forecaster in
the record of its worker, and moves on this forecaster and no other. -/
theorem select_askNoting (rule : SelectionRule) {candidates : List Candidate}
    (distinct : (candidates.map Candidate.worker).Nodup) {records : Roster NodeId WorkerRecord}
    (seen : ∀ candidate ∈ candidates, ∃ record, records.get? candidate.worker = some record) :
    let noted := (rule.select askNoting candidates).run records
    noted.value = (rule.select ask candidates).run records ∧
      noted.value.2 = drawing records (noted.effects.map Prod.fst) ∧
      (noted.effects.map Prod.fst).Nodup ∧
      ∀ draw ∈ noted.effects, ∃ record, records.get? draw.1 = some record ∧
        record.forecaster.likely.1 = draw.2 := by
  cases rule with
  | learning accountQueuedWork =>
    have workers : (candidates.map fun candidate =>
        (candidate.worker, prospect records candidate)).map Prod.fst =
          candidates.map Candidate.worker := List.map_map
    rw [SelectionRule.select_learning, SelectionRule.select_learning, StateT.run_bind,
      StateT.run_bind, mapM_askNoting distinct, mapM_ask distinct]
    simp only [StateT.run_pure, Traced.value_bind, Traced.effects_bind, Traced.value_pure,
      Traced.effects_pure, List.append_nil]
    refine ⟨rfl, congrArg _ workers.symm, workers ▸ distinct, fun draw noted => ?_⟩
    obtain ⟨candidate, listed, rfl⟩ := List.mem_map.mp noted
    obtain ⟨record, found⟩ := seen candidate listed
    exact ⟨record, found, (prospect_of_get? found).symm⟩
  | roundRobin last =>
    rw [SelectionRule.select_roundRobin, SelectionRule.select_roundRobin]
    exact ⟨rfl, (drawing_nil records).symm, List.nodup_nil, List.forall_mem_nil _⟩

/-- The forecaster in the record of a worker. -/
def forecaster? (scheduler : Scheduler) (worker : NodeId) : Option Forecaster :=
  (scheduler.records.get? worker).map WorkerRecord.forecaster

theorem forecaster?_eq_none_iff {scheduler : Scheduler} {worker : NodeId} :
    scheduler.forecaster? worker = none ↔ worker ∉ scheduler.records.keys :=
  Option.map_eq_none_iff.trans (Roster.get?_eq_none_iff _ _)

/-- **The draws of a dispatch come from distinct workers**, and each from the forecaster of its
worker as it stands. -/
theorem draws_shown (scheduler : Scheduler) (ledger : Ledger) :
    ((scheduler.draws ledger).map Prod.fst).Nodup ∧
      ∀ draw ∈ scheduler.draws ledger, ∃ forecaster,
        scheduler.forecaster? draw.1 = some forecaster ∧ forecaster.likely.1 = draw.2 := by
  unfold draws
  split
  · exact ⟨List.nodup_nil, nofun⟩
  · obtain ⟨_, _, distinct, shown⟩ := select_askNoting scheduler.rule
      (scheduler.candidates_nodup ledger) (scheduler.candidates_seen ledger)
    refine ⟨distinct, fun draw noted => ?_⟩
    obtain ⟨record, found, value⟩ := shown draw noted
    exact ⟨_, Option.map_eq_some_iff.mpr ⟨record, found, rfl⟩, value⟩

/-- The records as the draws of a dispatch leave them. -/
def drawn (scheduler : Scheduler) (ledger : Ledger) : Roster NodeId WorkerRecord :=
  drawing scheduler.records ((scheduler.draws ledger).map Prod.fst)

private theorem drawn_of_idle (scheduler : Scheduler) (ledger : Ledger)
    (idle : (!scheduler.isMaster || scheduler.queue.isEmpty) = true) :
    scheduler.drawn ledger = scheduler.records := by
  rw [drawn, draws, if_pos idle]
  exact drawing_nil scheduler.records

private theorem drawn_of_pending (scheduler : Scheduler) (ledger : Ledger)
    (pending : ¬ (!scheduler.isMaster || scheduler.queue.isEmpty) = true) :
    ((scheduler.rule.select ask (scheduler.candidates ledger)).run scheduler.records).2 =
      scheduler.drawn ledger := by
  obtain ⟨same, drawn, _⟩ := select_askNoting scheduler.rule
    (scheduler.candidates_nodup ledger) (scheduler.candidates_seen ledger)
  rw [Scheduler.drawn, draws, if_neg pending, ← drawn, same]

/-- A dispatch leaves the records as its draws leave them, or counts one dispatch more. -/
private theorem maintain_records (scheduler : Scheduler) (ledger : Ledger) (link : Link) :
    ∃ queue rule records,
      (scheduler.maintain ledger link).value.2.1 =
        { scheduler with queue := queue, rule := rule, records := records } ∧
      (records = scheduler.drawn ledger ∨
        ∃ worker, records = (scheduler.drawn ledger).modify worker fun record =>
          { record with dispatched := record.dispatched + 1 }) := by
  unfold maintain
  split
  next worker => exact ⟨_, _, _, rfl, .inl (scheduler.drawn_of_idle ledger (by simp [worker])).symm⟩
  next master =>
    split
    next empty => exact ⟨_, _, _, rfl, .inl (scheduler.drawn_of_idle ledger (by simp [empty])).symm⟩
    next submission rest queued =>
      have drawn := scheduler.drawn_of_pending ledger (by simpa [queued] using master)
      revert drawn
      generalize (scheduler.rule.select ask (scheduler.candidates ledger)).run scheduler.records =
        result
      obtain ⟨⟨chosen, rule⟩, records⟩ := result
      intro drawn
      cases chosen with
      | none => exact ⟨_, _, _, rfl, .inl drawn⟩
      | some worker =>
        simp only [Traced.value_bind]
        cases (ledger.issue worker submission).value with
        | error rejection => exact ⟨_, _, _, rfl, .inl drawn⟩
        | ok issued =>
          simp only [Traced.value_bind]
          -- Whether the link takes the message or not, the state is the same.
          split <;> exact ⟨_, _, _, rfl, .inr ⟨worker, congrArg (Roster.modify · worker _) drawn⟩⟩

/-- **Two states whose forecasters differ by a change**, of the same workers in the same order, and
in which the next worker would get the same stream. -/
structure Moves (change : NodeId → Forecaster → Forecaster) (first second : Scheduler) : Prop where
  policy : second.policy = first.policy
  seeds : second.seeds = first.seeds
  keys : second.records.keys = first.records.keys
  forecaster? : ∀ worker, second.forecaster? worker =
    (first.forecaster? worker).map (change worker)

/-- **A dispatch moves on the forecasters from which it draws**, and no other. -/
theorem moves_maintain (scheduler : Scheduler) (ledger : Ledger) (link : Link) :
    scheduler.Moves
      (fun worker forecaster =>
        if worker ∈ (scheduler.draws ledger).map Prod.fst then forecaster.likely.2
        else forecaster)
      (scheduler.maintain ledger link).value.2.1 := by
  have drawn : ∀ worker, ((scheduler.drawn ledger).get? worker).map WorkerRecord.forecaster =
      (scheduler.forecaster? worker).map fun forecaster =>
        if worker ∈ (scheduler.draws ledger).map Prod.fst then forecaster.likely.2
        else forecaster := by
    intro worker
    rw [drawn, drawing, Roster.get?_mapWithKey, forecaster?, Option.map_map, Option.map_map]
    refine congrArg (Option.map · _) (funext fun record => ?_)
    exact apply_ite WorkerRecord.forecaster _ _ _
  have keys : (scheduler.drawn ledger).keys = scheduler.records.keys := Roster.keys_mapWithKey _ _
  obtain ⟨_, _, records, value, same⟩ := scheduler.maintain_records ledger link
  rw [value]
  rcases same with rfl | ⟨served, rfl⟩
  · exact ⟨rfl, rfl, keys, drawn⟩
  · refine ⟨rfl, rfl, (Roster.keys_modify _ _ _).trans keys, fun worker => ?_⟩
    refine Eq.trans (view_modify ?_ worker) (drawn worker)
    exact fun _ => rfl

/-- **A completion that is learned from is a sample for the forecaster of its worker**, and no
other. -/
theorem moves_complete (scheduler : Scheduler) (worker : NodeId) (seconds : Float)
    (failed : Bool) :
    scheduler.Moves
      (fun other forecaster =>
        if worker = other ∧ (!failed || scheduler.policy.learnFromFailures) then
          forecaster.add (Scale.clamp seconds)
        else forecaster)
      (scheduler.complete worker seconds failed).value := by
  unfold complete
  split
  next unseen =>
    refine ⟨rfl, rfl, rfl, fun other => ?_⟩
    by_cases own : worker = other
    · rw [Bool.not_eq_true', ← Bool.not_eq_true, Roster.contains_iff, own] at unseen
      have absent := forecaster?_eq_none_iff.mpr unseen
      exact absent.trans (congrArg (Option.map _) absent).symm
    · simp [own]
  next seen =>
    refine ⟨rfl, rfl, Roster.keys_modify _ _ _, fun other => ?_⟩
    show ((Roster.modify _ _ _).get? other).map WorkerRecord.forecaster = _
    rw [Roster.get?_modify, forecaster?, Option.map_map]
    by_cases own : worker = other
    · rw [if_pos own.symm, Option.map_map]
      refine congrArg (Option.map · _) (funext fun record => ?_)
      simp only [Function.comp_apply, own, true_and]
    · simp only [if_neg (Ne.symm own), own, false_and, if_false]
      rfl

/-- Two states with the same forecasters. -/
def Steady (first second : Scheduler) : Prop := first.Moves (fun _ forecaster => forecaster) second

theorem Steady.of_forecaster? {first second : Scheduler} (policy : second.policy = first.policy)
    (seeds : second.seeds = first.seeds) (keys : second.records.keys = first.records.keys)
    (same : ∀ worker, second.forecaster? worker = first.forecaster? worker) :
    first.Steady second :=
  ⟨policy, seeds, keys, fun worker => (same worker).trans Option.map_id'.symm⟩

theorem Steady.refl (scheduler : Scheduler) : scheduler.Steady scheduler :=
  .of_forecaster? rfl rfl rfl fun _ => rfl

theorem steady_leave (scheduler : Scheduler) (worker : NodeId) :
    scheduler.Steady (scheduler.leave worker).value := by
  rcases scheduler.leave_exact worker with ⟨_, left⟩ | ⟨_, _, _, left⟩
  · rw [left]
    exact .of_forecaster? rfl rfl (Roster.keys_modify _ _ _) (view_modify fun _ => rfl)
  · rw [left]
    exact .of_forecaster? rfl rfl rfl fun _ => rfl

theorem steady_giveBack (scheduler : Scheduler) (submission : Submission) :
    scheduler.Steady (scheduler.giveBack submission).value := by
  obtain ⟨_, _, frame⟩ := scheduler.giveBack_frame submission
  rw [frame]
  exact .of_forecaster? rfl rfl rfl fun _ => rfl

theorem steady_reclaim (scheduler : Scheduler) (ledger : Ledger) (worker : NodeId) :
    scheduler.Steady (scheduler.reclaim ledger worker).value.2.1 := by
  obtain ⟨_, _, frame⟩ := scheduler.reclaim_frame ledger worker
  rw [frame]
  exact .of_forecaster? rfl rfl rfl fun _ => rfl

theorem Admits.unlisted {scheduler : Scheduler} {worker : NodeId}
    (admits : scheduler.Admits worker) : worker ∉ scheduler.records.keys :=
  (Roster.get?_eq_none_iff _ _).mp (Option.map_eq_none_iff.mp admits.unseen)

/-- A worker that is admitted is entered at the end, with the next child for its forecaster. -/
theorem join_enters {scheduler : Scheduler} {worker : NodeId} (admits : scheduler.Admits worker) :
    let after := (scheduler.join worker).value
    after.policy = scheduler.policy ∧ after.seeds = scheduler.seeds.child.2 ∧
      after.records.keys = scheduler.records.keys ++ [worker] ∧
      ∀ other, after.forecaster? other =
        if other = worker then some (.create scheduler.policy.kind scheduler.policy.alpha
          scheduler.seeds.child.1)
        else scheduler.forecaster? other := by
  rw [join_of_admits admits]
  refine ⟨rfl, rfl, ?_, fun other => ?_⟩
  · exact (Roster.keys_insert _ _ _).trans (if_neg admits.unlisted)
  · show ((Roster.insert _ _ _).get? other).map WorkerRecord.forecaster = _
    rw [Roster.get?_insert]
    split <;> rfl

end Scheduler

/-! ### What a call asks of a forecaster -/

namespace Dispatcher

open Forecaster (Demand Consultation Consulted)

variable {dispatcher : Dispatcher}

/-- The demands of a call on the forecaster of a worker, with the values that were drawn: a
completion that is learned from is a sample, and a dispatch may draw. -/
def demanded (dispatcher : Dispatcher) (worker : NodeId) : Call → List (Demand × Option Float)
  | .complete other seconds failed =>
    if other = worker ∧ (!failed || dispatcher.scheduler.policy.learnFromFailures) then
      [(.sample (Scale.clamp seconds), none)]
    else []
  | .maintain _ => (dispatcher.scheduler.draws dispatcher.ledger).filterMap fun draw =>
    if draw.1 = worker then some (.draw, some draw.2) else none
  | .submit _ | .join _ | .leave _ | .giveBack _ | .takeAbandoned | .register _ | .resolve ..
  | .reclaim _ => []

/-- **What a call asks of the forecaster of a worker**, and what the forecaster says after it. -/
def consulted (dispatcher : Dispatcher) (worker : NodeId) (call : Call) : List Consultation :=
  (dispatcher.demanded worker call).filterMap fun demanded =>
    ((dispatcher.perform call).value.scheduler.forecaster? worker).map fun forecaster =>
      ⟨demanded.1, demanded.2, forecaster.model.average, forecaster.model.deviation⟩

/-- **What a run asks of the forecaster of a worker**, call by call. -/
def consultations (dispatcher : Dispatcher) (worker : NodeId) : List Call → List Consultation
  | [] => []
  | call :: rest =>
    dispatcher.consulted worker call ++
      (dispatcher.perform call).value.consultations worker rest

/-- **A call consults forecasters**: it gives no worker a record and leaves the stream of the
scheduler alone, and what changes about a forecaster is told by its consultations. -/
structure Consults (before : Dispatcher) (consulted : NodeId → List Consultation)
    (after : Dispatcher) : Prop where
  policy : after.scheduler.policy = before.scheduler.policy
  seeds : after.scheduler.seeds = before.scheduler.seeds
  keys : after.scheduler.records.keys = before.scheduler.records.keys
  unknown : ∀ worker, before.scheduler.forecaster? worker = none → consulted worker = []
  known : ∀ worker first, before.scheduler.forecaster? worker = some first →
    ∃ last, after.scheduler.forecaster? worker = some last ∧ first.Consulted (consulted worker) last

theorem consulted_of_known {worker : NodeId} {call : Call} {last : Forecaster}
    (found : (dispatcher.perform call).value.scheduler.forecaster? worker = some last) :
    dispatcher.consulted worker call = (dispatcher.demanded worker call).map fun demanded =>
      ⟨demanded.1, demanded.2, last.model.average, last.model.deviation⟩ := by
  rw [consulted, found]
  exact congrFun List.filterMap_eq_map _

theorem consulted_of_unknown {worker : NodeId} {call : Call}
    (absent : (dispatcher.perform call).value.scheduler.forecaster? worker = none) :
    dispatcher.consulted worker call = [] := by
  rw [consulted, absent]
  exact List.filterMap_none _

/-- A change of the forecasters consults them, if it is what the one demand on each of them does, or
leaves it as it is. -/
theorem Consults.of_moves {call : Call} {change : NodeId → Forecaster → Forecaster}
    (moves : dispatcher.scheduler.Moves change (dispatcher.perform call).value.scheduler)
    (meets : ∀ worker first, dispatcher.scheduler.forecaster? worker = some first →
      dispatcher.demanded worker call = [] ∧ change worker first = first ∨
        ∃ demand, dispatcher.demanded worker call = [(demand, first.answer demand)] ∧
          change worker first = first.meet demand) :
    dispatcher.Consults (dispatcher.consulted · call) (dispatcher.perform call).value := by
  refine ⟨moves.policy, moves.seeds, moves.keys, fun worker absent => consulted_of_unknown ?_,
    fun worker first found => ⟨change worker first, ?_⟩⟩
  · rw [moves.forecaster?, absent]
    rfl
  · have moved : (dispatcher.perform call).value.scheduler.forecaster? worker =
        some (change worker first) := by
      rw [moves.forecaster?, found]
      rfl
    refine ⟨moved, ?_⟩
    rw [consulted_of_known moved]
    rcases meets worker first found with ⟨nothing, same⟩ | ⟨demand, one, met⟩
    · rw [nothing, same]
      exact .nil first
    · rw [one, met]
      exact .single first demand

/-- A call without demands that leaves the forecasters as they are. -/
theorem Consults.of_steady {call : Call}
    (steady : dispatcher.scheduler.Steady (dispatcher.perform call).value.scheduler)
    (nothing : ∀ worker, dispatcher.demanded worker call = []) :
    dispatcher.Consults (dispatcher.consulted · call) (dispatcher.perform call).value :=
  .of_moves steady fun worker _ _ => .inl ⟨nothing worker, rfl⟩

theorem consults_complete (dispatcher : Dispatcher) (worker : NodeId) (seconds : Float)
    (failed : Bool) :
    dispatcher.Consults (dispatcher.consulted · (.complete worker seconds failed))
      (dispatcher.perform (.complete worker seconds failed)).value := by
  refine .of_moves (dispatcher.scheduler.moves_complete worker seconds failed)
    fun other first _ => ?_
  by_cases learned : worker = other ∧ (!failed || dispatcher.scheduler.policy.learnFromFailures)
  · exact .inr ⟨.sample (Scale.clamp seconds), if_pos learned, if_pos learned⟩
  · exact .inl ⟨if_neg learned, if_neg learned⟩

/-- Among distinct workers one note is the worker's own. -/
private theorem filterMap_own {draws : List (NodeId × Float)} {draw : NodeId × Float}
    (distinct : (draws.map Prod.fst).Nodup) (noted : draw ∈ draws) :
    (draws.filterMap fun other =>
      if other.1 = draw.1 then some (Demand.draw, some other.2) else none) =
        [(Demand.draw, some draw.2)] := by
  obtain ⟨before, after, rfl⟩ := List.append_of_mem noted
  rw [List.map_append, List.map_cons, List.nodup_middle, ← List.map_append] at distinct
  have others : ∀ other ∈ before ++ after, other.1 ≠ draw.1 := fun other listed same =>
    (List.nodup_cons.mp distinct).1 (same ▸ List.mem_map_of_mem listed)
  have strangers : ∀ part, part ⊆ before ++ after → (part.filterMap fun other =>
      if other.1 = draw.1 then some (Demand.draw, some other.2) else none) = [] :=
    fun part inside => List.filterMap_eq_nil_iff.mpr fun other listed =>
      if_neg (others other (inside listed))
  rw [List.filterMap_append, List.filterMap_cons, if_pos rfl,
    strangers before (List.subset_append_left ..), strangers after (List.subset_append_right ..)]
  rfl

theorem consults_maintain (dispatcher : Dispatcher) (link : Link) :
    dispatcher.Consults (dispatcher.consulted · (.maintain link))
      (dispatcher.perform (.maintain link)).value := by
  refine .of_moves (dispatcher.scheduler.moves_maintain dispatcher.ledger link)
    fun worker first found => ?_
  obtain ⟨distinct, shown⟩ := dispatcher.scheduler.draws_shown dispatcher.ledger
  by_cases asked : worker ∈ (dispatcher.scheduler.draws dispatcher.ledger).map Prod.fst
  · refine .inr ⟨.draw, ?_, if_pos asked⟩
    obtain ⟨draw, noted, rfl⟩ := List.mem_map.mp asked
    obtain ⟨forecaster, own, value⟩ := shown draw noted
    rw [found, Option.some.injEq] at own
    subst own
    rw [demanded, filterMap_own distinct noted, Forecaster.answer, value]
  · refine .inl ⟨List.filterMap_eq_nil_iff.mpr fun draw noted => if_neg ?_, if_neg asked⟩
    rintro rfl
    exact asked (List.mem_map_of_mem noted)

/-- **Every call consults forecasters**, but for a worker that is admitted. -/
theorem consults_perform (dispatcher : Dispatcher) {call : Call}
    (refused : ∀ worker, call = .join worker → ¬ dispatcher.scheduler.Admits worker) :
    dispatcher.Consults (dispatcher.consulted · call) (dispatcher.perform call).value := by
  cases call with
  | submit submission =>
    refine .of_steady ?_ fun _ => rfl
    rw [perform, Traced.value_bind]
    rcases dispatcher.scheduler.submit_cases submission with ⟨_, queued, _⟩ | ⟨_, refused, _⟩
    · rw [queued]
      exact .of_forecaster? rfl rfl rfl fun _ => rfl
    · rw [refused]
      exact .refl dispatcher.scheduler
  | join worker =>
    refine .of_steady ?_ fun _ => rfl
    rcases dispatcher.scheduler.join_exact worker with ⟨_, same⟩ | ⟨admits, _⟩
    · rw [perform, Traced.value_bind, same]
      exact .refl dispatcher.scheduler
    · exact (refused worker rfl admits).elim
  | leave worker => exact .of_steady (dispatcher.scheduler.steady_leave worker) fun _ => rfl
  | maintain link => exact dispatcher.consults_maintain link
  | giveBack submission =>
    exact .of_steady (dispatcher.scheduler.steady_giveBack submission) fun _ => rfl
  | takeAbandoned => exact .of_steady (.of_forecaster? rfl rfl rfl fun _ => rfl) fun _ => rfl
  | complete worker seconds failed => exact dispatcher.consults_complete worker seconds failed
  | register worker => exact .of_steady (.refl _) fun _ => rfl
  | resolve worker id failed => exact .of_steady (.refl _) fun _ => rfl
  | reclaim worker =>
    exact .of_steady (dispatcher.scheduler.steady_reclaim dispatcher.ledger worker) fun _ => rfl

/-! ### Streams by their places -/

/-- **The forecasters by the places of their workers**, in a scheduler with a seed: the worker at a
place began with the child of the seed at that place, and what it was asked since has led to its
forecaster. -/
structure Tracks (policy : Policy) (seed : Nat) (history : NodeId → List Consultation)
    (dispatcher : Dispatcher) : Prop where
  samePolicy : dispatcher.scheduler.policy = policy
  seeds : dispatcher.scheduler.seeds =
    (Random.Stream.ofSeed seed).skip dispatcher.scheduler.records.keys.length
  unknown : ∀ worker, dispatcher.scheduler.forecaster? worker = none → history worker = []
  known : ∀ (place : Nat) (worker : NodeId),
    dispatcher.scheduler.records.keys[place]? = some worker →
    ∃ last, dispatcher.scheduler.forecaster? worker = some last ∧
      (Forecaster.create policy.kind policy.alpha
        ((Random.Stream.ofSeed seed).childAt place)).Consulted (history worker) last

variable {policy : Policy} {seed : Nat} {history : NodeId → List Consultation}

theorem tracks_create (seeded : policy.seed = some seed) (node master : NodeId) :
    (create policy node master).Tracks policy seed fun _ => [] where
  samePolicy := rfl
  seeds := by
    show (Scheduler.create policy node master).seeds = _
    simp only [Scheduler.create, seeded]
    rfl
  unknown := fun _ _ => rfl
  known := nofun

namespace Tracks

/-- A worker that is admitted gets the next place and the next child. -/
theorem enter (tracks : dispatcher.Tracks policy seed history) {worker : NodeId}
    (admits : dispatcher.scheduler.Admits worker) :
    (dispatcher.perform (.join worker)).value.Tracks policy seed history := by
  have unlisted := admits.unlisted
  obtain ⟨policy', seeds, keys, entered⟩ := Scheduler.join_enters admits
  rw [tracks.samePolicy, tracks.seeds, Random.Stream.child_skip] at entered
  rw [tracks.seeds, Random.Stream.child_skip] at seeds
  refine ⟨policy'.trans tracks.samePolicy, ?_, fun other none => ?_, fun place other placed => ?_⟩
  · show (dispatcher.scheduler.join worker).value.seeds =
      Random.Stream.skip _ (dispatcher.scheduler.join worker).value.records.keys.length
    rw [seeds, keys, List.length_append, List.length_singleton]
  · have none : (dispatcher.scheduler.join worker).value.forecaster? other = _ := none
    rw [entered, ite_eq_iff] at none
    rcases none with ⟨_, new⟩ | ⟨_, old⟩
    · cases new
    · exact tracks.unknown other old
  · have placed : (dispatcher.scheduler.join worker).value.records.keys[place]? = _ := placed
    show ∃ last, (dispatcher.scheduler.join worker).value.forecaster? other = _ ∧ _
    rw [keys] at placed
    rw [entered]
    have inside := (List.getElem?_eq_some_iff.mp placed).1
    rw [List.length_append, List.length_singleton, Nat.lt_succ_iff_lt_or_eq] at inside
    rcases inside with old | rfl
    · rw [List.getElem?_append_left old] at placed
      have stranger : other ≠ worker := fun same =>
        unlisted (same ▸ List.mem_of_getElem? placed)
      rw [if_neg stranger]
      exact tracks.known place other placed
    · rw [List.getElem?_concat_length] at placed
      cases placed
      rw [if_pos rfl, tracks.unknown worker (Scheduler.forecaster?_eq_none_iff.mpr unlisted)]
      exact ⟨_, rfl, .nil _⟩

/-- A call that consults forecasters. -/
theorem consult (tracks : dispatcher.Tracks policy seed history)
    {consulted : NodeId → List Consultation} {after : Dispatcher}
    (consults : dispatcher.Consults consulted after) :
    after.Tracks policy seed fun worker => history worker ++ consulted worker where
  samePolicy := consults.policy.trans tracks.samePolicy
  seeds := by
    rw [consults.seeds, consults.keys]
    exact tracks.seeds
  unknown := by
    intro worker absent
    rw [Scheduler.forecaster?_eq_none_iff, consults.keys, ← Scheduler.forecaster?_eq_none_iff]
      at absent
    rw [tracks.unknown worker absent, consults.unknown worker absent, List.append_nil]
  known := by
    intro place worker placed
    rw [consults.keys] at placed
    obtain ⟨first, found, earlier⟩ := tracks.known place worker placed
    obtain ⟨last, reached, later⟩ := consults.known worker first found
    exact ⟨last, reached, earlier.append later⟩

/-- **Every call keeps the forecasters at their places.** -/
theorem perform (tracks : dispatcher.Tracks policy seed history) (call : Call) :
    (dispatcher.perform call).value.Tracks policy seed fun worker =>
      history worker ++ dispatcher.consulted worker call := by
  by_cases entered : ∃ worker, call = .join worker ∧ dispatcher.scheduler.Admits worker
  · obtain ⟨worker, rfl, admits⟩ := entered
    have nothing : ∀ other, dispatcher.consulted other (.join worker) = [] := fun _ => rfl
    simp only [nothing, List.append_nil]
    exact tracks.enter admits
  · exact tracks.consult (dispatcher.consults_perform fun worker same admits =>
      entered ⟨worker, same, admits⟩)

theorem run (tracks : dispatcher.Tracks policy seed history) (calls : List Call) :
    (dispatcher.run calls).value.Tracks policy seed fun worker =>
      history worker ++ dispatcher.consultations worker calls := by
  induction calls generalizing dispatcher history with
  | nil =>
    simp only [consultations, List.append_nil]
    exact tracks
  | cons call rest hypothesis =>
    have later := hypothesis (tracks.perform call)
    simp only [List.append_assoc] at later
    rw [Dispatcher.run, List.foldlM_cons, Traced.value_bind]
    exact later

end Tracks

/-- **The worker at a place has a forecaster of its own**: along a run it shows what a new forecaster
with the child of the seed at that place would show on the same demands. -/
theorem consultations_at (seeded : policy.seed = some seed) (node master : NodeId)
    {calls : List Call} {place : Nat} {worker : NodeId} :
    let start := create policy node master
    (start.run calls).value.scheduler.records.keys[place]? = some worker →
    ∃ last, (start.run calls).value.scheduler.forecaster? worker = some last ∧
      (Forecaster.create policy.kind policy.alpha
        ((Random.Stream.ofSeed seed).childAt place)).Consulted
          (start.consultations worker calls) last := by
  intro start placed
  exact ((tracks_create seeded node master).run calls).known place worker placed

/-- A call that asks nothing of a forecaster leaves it as it is. -/
theorem forecaster?_of_nothing {call : Call} {worker : NodeId}
    (seen : worker ∈ dispatcher.scheduler.records.keys)
    (nothing : dispatcher.consulted worker call = []) :
    (dispatcher.perform call).value.scheduler.forecaster? worker =
      dispatcher.scheduler.forecaster? worker := by
  obtain ⟨first, found⟩ := Option.ne_none_iff_exists'.mp fun absent =>
    Scheduler.forecaster?_eq_none_iff.mp absent seen
  by_cases entered : ∃ other, call = .join other ∧ dispatcher.scheduler.Admits other
  · obtain ⟨other, rfl, admits⟩ := entered
    obtain ⟨_, _, _, kept⟩ := Scheduler.join_enters admits
    refine (kept worker).trans (if_neg ?_)
    rintro rfl
    exact admits.unlisted seen
  · obtain ⟨last, reached, asked⟩ := (dispatcher.consults_perform fun other same admits =>
      entered ⟨other, same, admits⟩).known worker first found
    rw [nothing] at asked
    rw [reached, asked.reached, found]
    rfl

/-- Neither the node itself nor a worker that is known or has departed joins. -/
theorem join_refused {worker : NodeId}
    (reason : worker = dispatcher.scheduler.node ∨ worker ∈ dispatcher.scheduler.records.keys ∨
      worker ∈ dispatcher.scheduler.departed) :
    (dispatcher.perform (.join worker)).value = dispatcher := by
  rcases dispatcher.scheduler.join_exact worker with ⟨_, same⟩ | ⟨admits, _⟩
  · rw [perform, Traced.value_bind, same]
    rfl
  · rcases reason with own | known | departed
    · exact (admits.other own).elim
    · exact (admits.unlisted known).elim
    · exact (admits.present departed).elim

/-- **The random streams of the workers do not interfere.** Take two runs of masters with one seed,
one kind of model and one decay, whatever else their policies, nodes and calls are. If as many
workers were given a record before one worker in the first run as before another one in the second,
and the same samples and draws were asked of their two forecasters, then all draws, averages and
deviations are the same, and so are the forecasters at the end. A call that asks nothing of the
forecaster of a worker leaves it as it is, whatever it asks of others. And a join of the node
itself, of a worker with a record or of one that has departed changes nothing at all. -/
theorem streams_independent :
    (∀ (first second : Policy) (seed : Nat) (node other worker twin : NodeId)
      (calls later : List Call) (place : Nat),
      first.seed = some seed → second.seed = some seed →
      first.kind = second.kind → first.alpha = second.alpha →
      let one := create first node node
      let two := create second other other
      (one.run calls).value.scheduler.records.keys[place]? = some worker →
      (two.run later).value.scheduler.records.keys[place]? = some twin →
      (one.consultations worker calls).map Consultation.demand =
        (two.consultations twin later).map Consultation.demand →
      one.consultations worker calls = two.consultations twin later ∧
        (one.run calls).value.scheduler.forecaster? worker =
          (two.run later).value.scheduler.forecaster? twin) ∧
    (∀ (dispatcher : Dispatcher) (call : Call) (worker : NodeId),
      worker ∈ dispatcher.scheduler.records.keys → dispatcher.consulted worker call = [] →
      (dispatcher.perform call).value.scheduler.forecaster? worker =
        dispatcher.scheduler.forecaster? worker) ∧
    ∀ (dispatcher : Dispatcher) (worker : NodeId),
      worker = dispatcher.scheduler.node ∨ worker ∈ dispatcher.scheduler.records.keys ∨
        worker ∈ dispatcher.scheduler.departed →
      (dispatcher.perform (.join worker)).value = dispatcher := by
  refine ⟨?_, fun dispatcher call worker seen nothing => ?_, fun dispatcher worker reason => ?_⟩
  · intro first second seed node other worker twin calls later place seeded seeded' kind alpha
      one two placed placed' same
    obtain ⟨last, reached, shown⟩ := consultations_at seeded node node placed
    obtain ⟨last', reached', shown'⟩ := consultations_at seeded' other other placed'
    rw [kind, alpha] at shown
    obtain ⟨equal, rfl⟩ := shown.unique shown' same
    exact ⟨equal, reached.trans reached'.symm⟩
  · exact forecaster?_of_nothing seen nothing
  · exact join_refused reason

/-- The second worker of a pool of two, and the second worker of a larger one, which the node itself,
a known worker and a departed one have tried to join before, and where another worker draws and
completes as well: one draw and one completion of two seconds each. The node itself has not joined,
and the completion of the first worker is nothing to the second. -/
theorem streams_independent_rejoined :
    let first : Policy := { Settings.policy {} with seed := some 7 }
    let second : Policy := { first with maxOutstanding := 3, accountQueuedWork := true }
    let calls : List Call := [.join 2, .join 3, .register 3, .submit ⟨7, .sleep 0, [], 1⟩,
      .maintain {}, .complete 3 2 false]
    let later : List Call := [.join 5, .join 9, .join 5, .leave 6, .join 6, .join 4, .join 8,
      .register 5, .register 4, .submit ⟨1, .sleep 1, [7], 1⟩, .maintain {}, .complete 5 1 false,
      .leave 8, .complete 4 2 false]
    let one := create first 1 1
    let two := create second 9 9
    (one.consultations 3 calls).map Consultation.demand = [.draw, .sample 2] ∧
      one.consultations 3 calls = two.consultations 4 later ∧
      (two.perform (.join 9)).value = two ∧
      let pair := (one.run [.join 2, .join 3]).value
      (pair.perform (.complete 2 1 false)).value.scheduler.forecaster? 3 =
        pair.scheduler.forecaster? 3 := by
  intro first second calls later one two
  have placed : (one.run calls).value.scheduler.records.keys[1]? = some 3 := by decide +kernel
  have placed' : (two.run later).value.scheduler.records.keys[1]? = some 4 := by decide +kernel
  have demands : (one.consultations 3 calls).map Consultation.demand = [.draw, .sample 2] := by
    decide +kernel
  have demands' : (two.consultations 4 later).map Consultation.demand = [.draw, .sample 2] := by
    decide +kernel
  have seen : 3 ∈ (one.run [.join 2, .join 3]).value.scheduler.records.keys := by decide +kernel
  obtain ⟨independent, spared, refused⟩ := streams_independent
  have same := independent first second 7 1 9 3 4 calls later 1 rfl rfl rfl rfl
  have kept := spared _ (.complete 2 1 false) 3 seen rfl
  have still := refused two 9 (.inl rfl)
  clear_value calls later
  exact ⟨demands, (same placed placed' (demands.trans demands'.symm)).1, still, kept⟩

end Dispatcher

end JobPool
