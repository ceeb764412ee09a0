/-
**No worker is given more than it may hold.**

A dispatch looks for workers with room before the selection rule chooses one and before the ledger
enters the request, and workers join, register and leave in the scheduler and in the ledger
separately. Whatever the order of these calls, requests only enter the ledger through a dispatch, so
no worker ever holds more of them than the policy allows.

* `Dispatcher`, `Dispatcher.Call` — a scheduler with its ledger, and what can be called;
* `Dispatcher.Bounded`, `Bounded.perform` — the invariant, and the call that keeps it;
* `Dispatcher.capacity_respected` — the bounds, and where requests are sent.
-/

import JobPool.Proofs.Records
import JobPool.Proofs.Requests

namespace JobPool

/-! ### All requests against the workers that may hold them -/

namespace Ledger

/-- The workers with an active account. -/
def registered (ledger : Ledger) : List NodeId :=
  ledger.accounts.keys.filter fun worker => ledger.isRegistered worker

/-- A bound on the requests of every worker bounds all requests together. -/
theorem total_le {ledger : Ledger} {limit : Nat}
    (bounded : ∀ worker, ledger.outstandingOn worker ≤ limit) :
    ledger.total ≤ limit * ledger.registered.length := by
  suffices all : ∀ entries : List (NodeId × Account),
      (∀ entry ∈ entries, ledger.accounts.get? entry.1 = some entry.2) →
      (entries.map Prod.snd).foldr (fun account sum => account.size + sum) 0 ≤
        limit * ((entries.map Prod.fst).filter fun worker => ledger.isRegistered worker).length from
    all ledger.accounts.entries fun _ listed => Roster.mem_entries_iff.mp listed
  intro entries found
  induction entries with
  | nil => exact Nat.le_refl _
  | cons entry rest hypothesis =>
    obtain ⟨worker, account⟩ := entry
    have own : ledger.accounts.get? worker = some account := found _ List.mem_cons_self
    have later := hypothesis fun other listed => found other (List.mem_cons_of_mem _ listed)
    simp only [List.map_cons, List.foldr_cons]
    cases account with
    | active requests =>
      have registered : ledger.isRegistered worker = true := by rw [isRegistered, own]
      have held := bounded worker
      rw [outstandingOn, requests_of_get? own] at held
      rw [List.filter_cons_of_pos registered, List.length_cons, Nat.mul_succ, Nat.add_comm]
      exact Nat.add_le_add later held
    | closed =>
      have unregistered : ¬ ledger.isRegistered worker = true := by simp [isRegistered, own]
      rw [List.filter_cons_of_neg unregistered, Account.size, Nat.zero_add]
      exact later

end Ledger

/-! ### Calls -/

/-- A scheduler with the ledger of its requests. -/
structure Dispatcher where
  scheduler : Scheduler
  ledger : Ledger := {}

namespace Dispatcher

/-- The scheduler and the ledger of a new node. -/
def create (policy : Policy) (node master : NodeId) : Dispatcher :=
  { scheduler := .create policy node master }

/-- A call of the scheduler or of its ledger. Requests enter the ledger through `maintain`. -/
inductive Call where
  | submit (submission : Submission)
  | join (worker : NodeId)
  | leave (worker : NodeId)
  | maintain (link : Link)
  | giveBack (submission : Submission)
  | takeAbandoned
  | complete (worker : NodeId) (seconds : Float) (failed : Bool)
  | register (worker : NodeId)
  | resolve (worker : NodeId) (id : RequestId) (failed : Bool)
  | reclaim (worker : NodeId)

/-- The scheduler and the ledger after a call. -/
def perform (dispatcher : Dispatcher) : Call → Act Dispatcher
  | .submit submission => do
    match ← dispatcher.scheduler.submit submission with
    | .ok scheduler => return { dispatcher with scheduler := scheduler }
    | .error _ => return dispatcher
  | .join worker => do
    let scheduler ← dispatcher.scheduler.join worker
    return { dispatcher with scheduler := scheduler }
  | .leave worker => do
    let scheduler ← dispatcher.scheduler.leave worker
    return { dispatcher with scheduler := scheduler }
  | .maintain link => do
    let (_, scheduler, ledger) ← dispatcher.scheduler.maintain dispatcher.ledger link
    return ⟨scheduler, ledger⟩
  | .giveBack submission => do
    let scheduler ← dispatcher.scheduler.giveBack submission
    return { dispatcher with scheduler := scheduler }
  | .takeAbandoned => return { dispatcher with scheduler := dispatcher.scheduler.takeAbandoned.2 }
  | .complete worker seconds failed => do
    let scheduler ← dispatcher.scheduler.complete worker seconds failed
    return { dispatcher with scheduler := scheduler }
  | .register worker => do
    let ledger ← dispatcher.ledger.register worker
    return { dispatcher with ledger := ledger }
  | .resolve worker id failed => do
    let (_, ledger) ← dispatcher.ledger.resolve worker id failed
    return { dispatcher with ledger := ledger }
  | .reclaim worker => do
    let (_, scheduler, ledger) ← dispatcher.scheduler.reclaim dispatcher.ledger worker
    return ⟨scheduler, ledger⟩

/-- The scheduler and the ledger after a sequence of calls. -/
def run (dispatcher : Dispatcher) (calls : List Call) : Act Dispatcher :=
  calls.foldlM perform dispatcher

/-! ### The invariant -/

/-- **No worker holds more than the policy allows**, and the node has no record of itself. -/
structure Bounded (policy : Policy) (node : NodeId) (dispatcher : Dispatcher) : Prop where
  samePolicy : dispatcher.scheduler.policy = policy
  sameNode : dispatcher.scheduler.node = node
  own : dispatcher.scheduler.gone? node = none
  sound : dispatcher.ledger.Sound
  limit : ∀ worker, dispatcher.ledger.outstandingOn worker ≤ policy.maxOutstanding

theorem bounded_create (policy : Policy) (node master : NodeId) :
    (create policy node master).Bounded policy node :=
  ⟨rfl, rfl, rfl, Ledger.sound_empty, fun _ => Nat.zero_le _⟩

section Steps

variable {policy : Policy} {node : NodeId} {dispatcher : Dispatcher}

/-- A change of the scheduler that keeps the records. -/
private theorem Bounded.alike (bounded : dispatcher.Bounded policy node) {scheduler : Scheduler}
    (alike : dispatcher.scheduler.Alike scheduler) :
    Bounded policy node { dispatcher with scheduler := scheduler } :=
  ⟨alike.policy.trans bounded.samePolicy, alike.node.trans bounded.sameNode,
    (congrFun alike.gone? node).trans bounded.own, bounded.sound, bounded.limit⟩

private theorem Bounded.join (bounded : dispatcher.Bounded policy node) (worker : NodeId) :
    Bounded policy node
      { dispatcher with scheduler := (dispatcher.scheduler.join worker).value } := by
  rcases dispatcher.scheduler.join_exact worker with ⟨_, same⟩ | ⟨admits, _, _, joined⟩
  · rw [same]
    exact bounded
  · rw [joined]
    refine ⟨bounded.samePolicy, bounded.sameNode, ?_, bounded.sound, bounded.limit⟩
    rw [Scheduler.gone?, Roster.get?_insert, if_neg (bounded.sameNode ▸ admits.other.symm)]
    exact bounded.own

private theorem Bounded.leave (bounded : dispatcher.Bounded policy node) (worker : NodeId) :
    Bounded policy node
      { dispatcher with scheduler := (dispatcher.scheduler.leave worker).value } := by
  rcases dispatcher.scheduler.leave_exact worker with ⟨_, left⟩ | ⟨_, _, _, left⟩
  · rw [left]
    have absent : dispatcher.scheduler.records.get? node = none :=
      Option.map_eq_none_iff.mp bounded.own
    refine ⟨bounded.samePolicy, bounded.sameNode, ?_, bounded.sound, bounded.limit⟩
    rw [Scheduler.gone?, Roster.get?_modify, absent]
    split <;> rfl
  · rw [left]
    exact ⟨bounded.samePolicy, bounded.sameNode, bounded.own, bounded.sound, bounded.limit⟩

/-- A change of the ledger in which no worker is given a request. -/
private theorem Bounded.fewer (bounded : dispatcher.Bounded policy node) {ledger : Ledger}
    (sound : ledger.Sound)
    (fewer : ∀ worker, ledger.outstandingOn worker ≤ dispatcher.ledger.outstandingOn worker) :
    Bounded policy node { dispatcher with ledger := ledger } :=
  ⟨bounded.samePolicy, bounded.sameNode, bounded.own, sound, fun worker =>
    Nat.le_trans (fewer worker) (bounded.limit worker)⟩

private theorem Bounded.register (bounded : dispatcher.Bounded policy node) (worker : NodeId) :
    Bounded policy node
      { dispatcher with ledger := (dispatcher.ledger.register worker).value } := by
  refine bounded.fewer (bounded.sound.register worker) fun other => ?_
  rw [Ledger.outstandingOn, (dispatcher.ledger.books_register worker).1]
  exact Nat.le_refl _

private theorem Bounded.resolve (bounded : dispatcher.Bounded policy node) (worker : NodeId)
    (id : RequestId) (failed : Bool) :
    Bounded policy node
      { dispatcher with ledger := (dispatcher.ledger.resolve worker id failed).value.2 } := by
  rcases (dispatcher.ledger.resolve_cases worker id failed).2 with
    ⟨ignored, _⟩ | ⟨before, request, later, active, _, resolved⟩
  · rw [ignored]
    exact bounded
  · rw [resolved]
    refine bounded.fewer (bounded.sound.resolved active) fun other => ?_
    rw [Ledger.outstandingOn, Ledger.requests_of_insert rfl]
    split
    next same =>
      rw [same, Ledger.outstandingOn, Ledger.requests_of_get? active]
      simp [Account.requests]
    next => exact Nat.le_refl _

private theorem Bounded.close (bounded : dispatcher.Bounded policy node) (worker : NodeId) :
    Bounded policy node { dispatcher with ledger := dispatcher.ledger.close worker } := by
  refine bounded.fewer (bounded.sound.close worker) fun other => ?_
  rw [Ledger.outstandingOn, Ledger.requests_of_insert rfl]
  split
  · exact Nat.zero_le _
  · exact Nat.le_refl _

/-- **A dispatch gives a request to a worker that has room for it.** -/
private theorem Bounded.maintain (bounded : dispatcher.Bounded policy node) (link : Link) :
    Bounded policy node
      ⟨(dispatcher.scheduler.maintain dispatcher.ledger link).value.2.1,
        (dispatcher.scheduler.maintain dispatcher.ledger link).value.2.2⟩ := by
  have known := bounded.alike (dispatcher.scheduler.alike_maintain dispatcher.ledger link)
  suffices held : (dispatcher.scheduler.maintain dispatcher.ledger link).value.2.2.Sound ∧
      ∀ other,
        (dispatcher.scheduler.maintain dispatcher.ledger link).value.2.2.outstandingOn other ≤
          policy.maxOutstanding from
    ⟨known.samePolicy, known.sameNode, known.own, held.1, held.2⟩
  rcases dispatcher.scheduler.maintain_exact dispatcher.ledger link with ⟨_, nothing⟩ |
    ⟨submission, _, worker, requests, _, _, _, _, chosen, active, _,
      ⟨_, value, _⟩ | ⟨id, source, taken, value, _⟩⟩
  · rw [nothing]
    exact ⟨bounded.sound, bounded.limit⟩
  · rw [value]
    exact ⟨bounded.sound, bounded.limit⟩
  · rw [value]
    refine ⟨bounded.sound.issued active taken, fun other => ?_⟩
    have room := (Scheduler.mem_candidates_iff.mp chosen).2
    rw [Ledger.hasCapacity, active, bounded.samePolicy] at room
    rw [Ledger.outstandingOn, Ledger.requests_of_insert rfl]
    split
    · rw [Account.requests, List.length_append]
      exact of_decide_eq_true room
    · exact bounded.limit other

/-- **Every call keeps the bound.** -/
theorem Bounded.perform (bounded : dispatcher.Bounded policy node) (call : Call) :
    Bounded policy node (dispatcher.perform call).value := by
  cases call with
  | submit submission =>
    rw [Dispatcher.perform, Traced.value_bind]
    rcases dispatcher.scheduler.submit_cases submission with ⟨_, queued, _⟩ | ⟨_, refused, _⟩
    · rw [queued]
      exact bounded.alike ⟨rfl, rfl, rfl, rfl, rfl⟩
    · rw [refused]
      exact bounded
  | join worker => exact bounded.join worker
  | leave worker => exact bounded.leave worker
  | maintain link => exact bounded.maintain link
  | giveBack submission => exact bounded.alike (dispatcher.scheduler.alike_giveBack submission)
  | takeAbandoned => exact bounded.alike ⟨rfl, rfl, rfl, rfl, rfl⟩
  | complete worker seconds failed =>
    exact bounded.alike (dispatcher.scheduler.alike_complete worker seconds failed)
  | register worker => exact bounded.register worker
  | resolve worker id failed => exact bounded.resolve worker id failed
  | reclaim worker =>
    have returned := bounded.alike (dispatcher.scheduler.alike_reclaim dispatcher.ledger worker)
    have closed := returned.close worker
    rw [← (dispatcher.scheduler.ledger_reclaim dispatcher.ledger worker).2] at closed
    exact closed

end Steps

/-- Every sequence of calls keeps the bound. -/
theorem bounded_run (policy : Policy) (node master : NodeId) (calls : List Call) :
    ((create policy node master).run calls).value.Bounded policy node :=
  @Traced.foldlM_preserves _ _ _ (Bounded policy node) perform calls
    (fun _ call _ bounded => bounded.perform call) _ (bounded_create policy node master)

/-! ### Where requests are sent -/

section Sends

variable {dispatcher : Dispatcher} {effect : Effect}

/-- Taking jobs back puts them into the queue, and does nothing else. -/
private theorem queued_of_giveBack {scheduler : Scheduler} {submission : Submission}
    (deed : effect ∈ Effect.deeds (scheduler.giveBack submission).effects) :
    ∃ job attempt, effect = .queued job attempt := by
  unfold Scheduler.giveBack at deed
  split at deed
  · cases deed
  split at deed
  · cases deed
  · exact ⟨_, _, List.mem_singleton.mp deed⟩

private theorem queued_of_reclaim {scheduler : Scheduler} {ledger : Ledger} {worker : NodeId}
    (deed : effect ∈ Effect.deeds (scheduler.reclaim ledger worker).effects) :
    ∃ job attempt, effect = .queued job attempt := by
  unfold Scheduler.reclaim at deed
  split at deed
  next requests _ =>
    rw [Traced.effects_bind, Effect.deeds_append] at deed
    rcases List.mem_append.mp deed with returned | told
    · obtain ⟨inside, silent⟩ := Effect.mem_deeds.mp returned
      obtain ⟨state, request, _, given⟩ := Traced.exists_of_mem_foldlM inside
      exact queued_of_giveBack (Effect.mem_deeds.mpr ⟨given, silent⟩)
    · cases told
  all_goals cases deed

/-- **Only a dispatch does more than putting jobs into the queue.** -/
theorem exists_link_of_deed {call : Call}
    (deed : effect ∈ Effect.deeds (dispatcher.perform call).effects)
    (other : ∀ job attempt, effect ≠ .queued job attempt) :
    ∃ link, call = .maintain link ∧
      effect ∈ Effect.deeds (dispatcher.scheduler.maintain dispatcher.ledger link).effects := by
  have quiet : ∀ {effects : List Effect}, Effect.deeds effects = [] →
      effect ∉ Effect.deeds (effects ++ []) := by
    intro effects silent
    rw [List.append_nil, silent]
    exact List.not_mem_nil
  cases call with
  | submit submission =>
    rw [perform, Traced.effects_bind, Effect.deeds_append] at deed
    rcases dispatcher.scheduler.submit_cases submission with ⟨_, value, deeds⟩ | ⟨_, value, deeds⟩
    · rw [value, deeds] at deed
      exact (other _ _ (List.mem_singleton.mp deed)).elim
    · rw [value, deeds] at deed
      cases deed
  | join worker => exact (quiet (dispatcher.scheduler.join_cases worker).1 deed).elim
  | leave worker => exact (quiet (dispatcher.scheduler.leave_cases worker).1 deed).elim
  | maintain link =>
    rw [perform, Traced.effects_bind, Traced.effects_pure, List.append_nil] at deed
    exact ⟨link, rfl, deed⟩
  | giveBack submission =>
    rw [perform, Traced.effects_bind, Traced.effects_pure, List.append_nil] at deed
    obtain ⟨job, attempt, queued⟩ := queued_of_giveBack deed
    exact (other job attempt queued).elim
  | takeAbandoned => cases deed
  | complete worker seconds failed =>
    exact (quiet (dispatcher.scheduler.complete_eq worker seconds failed).1 deed).elim
  | register worker => exact (quiet (dispatcher.ledger.register_cases worker).1 deed).elim
  | resolve worker id failed =>
    exact (quiet (dispatcher.ledger.resolve_cases worker id failed).1 deed).elim
  | reclaim worker =>
    rw [perform, Traced.effects_bind, Traced.effects_pure, List.append_nil] at deed
    obtain ⟨job, attempt, queued⟩ := queued_of_reclaim deed
    exact (other job attempt queued).elim

variable {destination : NodeId} {payload : Payload} {accepted : Bool}

/-- **A dispatch sends a request to a registered worker with a record that is not marked as
departed, and with room for it.** -/
theorem Bounded.sent {policy : Policy} {node : NodeId} (bounded : dispatcher.Bounded policy node)
    {call : Call}
    (sent : .sent destination payload accepted ∈ (dispatcher.perform call).effects) :
    (∃ request job input, payload = .execute request job input) ∧
      dispatcher.ledger.isRegistered destination = true ∧
      dispatcher.scheduler.gone? destination = some false ∧ destination ≠ node ∧
      dispatcher.ledger.outstandingOn destination < policy.maxOutstanding := by
  obtain ⟨link, rfl, deed⟩ := exists_link_of_deed (Effect.mem_deeds.mpr ⟨sent, rfl⟩) nofun
  rcases dispatcher.scheduler.maintain_exact dispatcher.ledger link with ⟨_, nothing⟩ |
    ⟨submission, _, worker, requests, _, _, _, _, chosen, active, _,
      ⟨_, _, silent⟩ | ⟨id, source, _, _, deeds⟩⟩
  · rw [nothing] at deed
    cases deed
  · rw [silent] at deed
    cases deed
  · rw [deeds] at deed
    cases deed with
    | tail _ last =>
      cases List.mem_singleton.mp last
      obtain ⟨present, room⟩ := Scheduler.mem_candidates_iff.mp chosen
      have unmarked := Scheduler.gone?_eq_false_iff.mpr present
      refine ⟨⟨id, _, _, rfl⟩, by rw [Ledger.isRegistered, active], unmarked, fun own => ?_, ?_⟩
      · rw [own, bounded.own] at unmarked
        cases unmarked
      · rw [Ledger.hasCapacity, active, bounded.samePolicy] at room
        rw [Ledger.outstandingOn, Ledger.requests_of_get? active]
        exact of_decide_eq_true room

end Sends

/-! ### The bounds -/

/-- **Whatever is called and in whatever order, no worker ever holds more requests than the policy
allows**, and all workers together at most that many for each registered worker. Whatever is sent is
a request to run a job, to a worker that is registered, has a record that is not marked as departed
and is not the node itself. -/
theorem capacity_respected (policy : Policy) (node master : NodeId) (calls : List Call) :
    let dispatcher := ((create policy node master).run calls).value
    (∀ worker, dispatcher.ledger.outstandingOn worker ≤ policy.maxOutstanding) ∧
    dispatcher.ledger.total ≤ policy.maxOutstanding * dispatcher.ledger.registered.length ∧
    dispatcher.ledger.outstanding = dispatcher.ledger.total ∧
    ∀ call destination payload accepted,
      .sent destination payload accepted ∈ (dispatcher.perform call).effects →
      (∃ request job input, payload = .execute request job input) ∧
      dispatcher.ledger.isRegistered destination = true ∧
      (∃ record, dispatcher.scheduler.records.get? destination = some record ∧
        record.departed = false) ∧
      destination ≠ node ∧
      dispatcher.ledger.outstandingOn destination < policy.maxOutstanding := by
  intro dispatcher
  have bounded : dispatcher.Bounded policy node := bounded_run policy node master calls
  refine ⟨bounded.limit, Ledger.total_le bounded.limit, ?_, fun call destination payload accepted
    sent => ?_⟩
  · rw [Ledger.total_eq_length_held, bounded.sound.counted]
  · obtain ⟨request, registered, unmarked, other, room⟩ := bounded.sent sent
    exact ⟨request, registered, Scheduler.gone?_eq_false_iff.mp unmarked, other, room⟩

/-- One worker that may hold one request, and two jobs: the first is sent to it, the second
waits. -/
theorem capacity_respected_full :
    let policy : Policy := { Settings.policy {} with selector := .roundRobin, maxOutstanding := 1 }
    let calls : List Call := [.register 2, .join 2, .submit ⟨7, .sleep 0, [], 1⟩,
      .submit ⟨8, .sleep 0, [], 1⟩, .maintain {}]
    let before := ((create policy 1 1).run (calls.take 4)).value
    let dispatcher := ((create policy 1 1).run calls).value
    .sent 2 (.execute 1 (.sleep 0) []) true ∈ (before.perform (.maintain {})).effects ∧
      before.ledger.isRegistered 2 = true ∧ before.ledger.outstandingOn 2 < 1 ∧
      dispatcher.ledger.outstandingOn 2 = 1 ∧ dispatcher.scheduler.queue.map Submission.id = [8] ∧
      dispatcher.ledger.total ≤ 1 * dispatcher.ledger.registered.length ∧
      dispatcher.ledger.registered = [2] := by
  have respected := capacity_respected
    { Settings.policy {} with selector := .roundRobin, maxOutstanding := 1 } 1 1
  have sent : .sent 2 (.execute 1 (.sleep 0) []) true ∈ (((create
      { Settings.policy {} with selector := .roundRobin, maxOutstanding := 1 } 1 1).run
      [.register 2, .join 2, .submit ⟨7, .sleep 0, [], 1⟩,
        .submit ⟨8, .sleep 0, [], 1⟩]).value.perform (.maintain {})).effects :=
    List.mem_of_getElem? (i := 2) rfl
  obtain ⟨_, registered, _, _, room⟩ := (respected _).2.2.2 (.maintain {}) 2 _ _ sent
  exact ⟨sent, registered, room, rfl, rfl, (respected _).2.1, rfl⟩

end Dispatcher

end JobPool
