/-
**Without force no job is run twice.**

A job may be assigned several times, because a worker can leave before it runs what it was asked
for. A worker that leaves on its own first ends its run and delivers everything, so when the master
gives the requests of a departed worker back, it has handled every completion of the worker: what is
still outstanding there was never run. A job that was run is therefore not in the queue and
outstanding at most under the request of this run, and no request is on its way twice.

* `Assigned` — every request on its way, outstanding or run was assigned, each once;
* `Single` — a job that was run is not assigned again;
* `runs_single` — every run is of an assigned job, and no two runs are of the same job.
-/

import JobPool.Proofs.Pool.Completions
import Mathlib.Data.List.Nodup

namespace JobPool.Pool

/-- A request to run a job, with the node that is asked and the node that asks. -/
structure Assignment where
  worker : NodeId
  source : NodeId
  request : RequestId
  deriving DecidableEq, Repr

/-! ### Assignments and runs -/

/-- A job that was assigned. -/
def assigned? : NodeId × Deal → Option (Assignment × JobId)
  | (node, .issued request worker job) => some (⟨worker, node, request⟩, job)
  | (_, .handled ..) | (_, .resolved ..) | (_, .ran ..) => none

/-- An assignment that was run. -/
def ran? : NodeId × Deal → Option Assignment
  | (node, .ran source request) => some ⟨node, source, request⟩
  | (_, .handled ..) | (_, .resolved ..) | (_, .issued ..) => none

/-- **What is assigned.** Every assignment has its own request, and what is outstanding, on its way
to be run, or was run, was assigned. -/
structure Assigned (master : NodeId) (done : List (NodeId × Deal)) (pool : Pool)
    (engine : Engine) : Prop where
  known : ∀ entry ∈ done.filterMap assigned?, entry.1.source = master ∧
    entry.1.request < engine.ledger.requestIds.next ∧ entry.2 < engine.jobIds.next
  distinct : ((done.filterMap assigned?).map fun entry => entry.1.request).Nodup
  held : ∀ worker, ∀ request ∈ engine.ledger.requests worker,
    (⟨worker, master, request.id⟩, request.submission.id) ∈ done.filterMap assigned?
  sent : ∀ worker request, 0 < pool.upstream master worker request →
    ∃ job, (⟨worker, master, request⟩, job) ∈ done.filterMap assigned?
  run : ∀ run ∈ done.filterMap ran?, ∃ job, (run, job) ∈ done.filterMap assigned?

/-- **What was run.** A request is on its way to be run or was run, at most once; a request on its
way to a worker that is not gone is outstanding; and a job that was run is neither queued nor
outstanding under another request. -/
structure Single (master : NodeId) (done : List (NodeId × Deal)) (pool : Pool)
    (engine : Engine) : Prop where
  once : ∀ worker request, pool.upstream master worker request +
    (done.filterMap ran?).count ⟨worker, master, request⟩ ≤ 1
  current : ∀ worker request, 0 < pool.upstream master worker request →
    pool.Gone worker ∨ request ∈ (engine.ledger.requests worker).map Request.id
  reported : engine.isGone = false → ∀ worker request,
    ⟨worker, master, request⟩ ∈ done.filterMap ran? →
    request ∈ (engine.ledger.requests worker).map Request.id →
    0 < pool.downstream master worker request
  spent : ∀ run ∈ done.filterMap ran?, ∀ job, (run, job) ∈ done.filterMap assigned? →
    (∀ submission ∈ engine.scheduler.queue, submission.id ≠ job) ∧
    ∀ worker, ∀ request ∈ engine.ledger.requests worker, request.submission.id = job →
      ⟨worker, master, request.id⟩ = run
  single : ∀ first ∈ done.filterMap ran?, ∀ second ∈ done.filterMap ran?, ∀ job,
    (first, job) ∈ done.filterMap assigned? → (second, job) ∈ done.filterMap assigned? →
    first = second

section Keeping

variable {master : NodeId} {pool next : Pool} {home : Station} {engine after : Engine}
  {done new : List (NodeId × Deal)}

theorem assigned_create (options : Options)
    (up : ∀ worker request, pool.upstream master worker request = 0) :
    Assigned master [] pool (.create options master master {}) :=
  ⟨nofun, List.nodup_nil, nofun, fun worker request sent => (by rw [up] at sent; cases sent), nofun⟩

theorem single_create (options : Options)
    (up : ∀ worker request, pool.upstream master worker request = 0) :
    Single master [] pool (.create options master master {}) :=
  ⟨fun worker request => by rw [up]; exact Nat.zero_le 1,
    fun worker request sent => (by rw [up] at sent; cases sent), nofun, nofun, nofun⟩

/-- An assignment with the request of another one is the same, and so is its job. -/
theorem Assigned.eq_of_request (assigned : Assigned master done pool engine)
    {first second : Assignment × JobId} (left : first ∈ done.filterMap assigned?)
    (right : second ∈ done.filterMap assigned?) (same : first.1.request = second.1.request) :
    first = second :=
  List.inj_on_of_nodup_map assigned.distinct left right same

/-- Deals that assign and run nothing leave the history as it is. -/
private theorem filterMap_append_none {β : Type} {pick : NodeId × Deal → Option β}
    (none : new.filterMap pick = []) : (done ++ new).filterMap pick = done.filterMap pick := by
  rw [List.filterMap_append, none, List.append_nil]

/-- The next request was neither sent nor run. -/
theorem Assigned.fresh (assigned : Assigned master done pool engine) :
    (∀ worker, pool.upstream master worker engine.ledger.requestIds.next = 0) ∧
      ∀ worker, ⟨worker, master, engine.ledger.requestIds.next⟩ ∉ done.filterMap ran? := by
  have unassigned : ∀ worker job,
      (⟨worker, master, engine.ledger.requestIds.next⟩, job) ∉ done.filterMap assigned? :=
    fun worker job listed => Nat.lt_irrefl _ (assigned.known _ listed).2.1
  refine ⟨fun worker => Nat.eq_zero_of_not_pos fun sent => ?_, fun worker ran => ?_⟩
  · obtain ⟨job, listed⟩ := assigned.sent worker _ sent
    exact unassigned worker job listed
  · obtain ⟨job, listed⟩ := assigned.run _ ran
    exact unassigned worker job listed

/-- Issuing assigns one job and runs none. -/
private theorem filterMap_issued {worker : NodeId} {request : RequestId} {job : JobId}
    (issued : new = [(master, .issued request worker job)]) :
    (done ++ new).filterMap assigned? =
        done.filterMap assigned? ++ [(⟨worker, master, request⟩, job)] ∧
      (done ++ new).filterMap ran? = done.filterMap ran? := by
  rw [issued, List.filterMap_append, List.filterMap_append]
  exact ⟨rfl, List.append_nil _⟩

/-- Running runs one assignment and assigns nothing. -/
private theorem filterMap_ran {node : NodeId} {request : RequestId}
    (ran : new = [(node, .ran master request)]) :
    (done ++ new).filterMap assigned? = done.filterMap assigned? ∧
      (done ++ new).filterMap ran? = done.filterMap ran? ++ [⟨node, master, request⟩] := by
  rw [ran, List.filterMap_append, List.filterMap_append]
  exact ⟨List.append_nil _, rfl⟩

/-- The requests beside a struck one. -/
private theorem subset_of_struck {requests before later : List Request} {struck : Request}
    (listed : requests = before ++ struck :: later) : before ++ later ⊆ requests := by
  rw [listed]
  exact ((List.sublist_cons_self struck later).append_left before).subset

/-- One worker keeps some of its requests and every other worker all. -/
private theorem requests_subset {worker : NodeId} {kept : List Request}
    (fewer : kept ⊆ engine.ledger.requests worker)
    (requests : ∀ other, after.ledger.requests other =
      if other = worker then kept else engine.ledger.requests other) (other : NodeId) :
    after.ledger.requests other ⊆ engine.ledger.requests other := by
  rw [requests]
  split
  next here => exact here ▸ fewer
  next => exact List.Subset.refl _

/-- A request that is outstanding after another one was issued. -/
private theorem mem_requests_of_issued {worker : NodeId} {issued : Request}
    (requests : ∀ other, after.ledger.requests other =
      if other = worker then engine.ledger.requests worker ++ [issued]
      else engine.ledger.requests other) {other : NodeId} {request : Request} :
    request ∈ after.ledger.requests other ↔
      request ∈ engine.ledger.requests other ∨ other = worker ∧ request = issued := by
  rw [requests]
  by_cases here : other = worker
  · subst here
    simp
  · simp [here]

/-- Without another assignment or run, and with no more requests outstanding or on their way. -/
private theorem Assigned.fewer (assigned : Assigned master done pool engine)
    (unassigned : new.filterMap assigned? = []) (unrun : new.filterMap ran? = [])
    (ids : engine.ledger.requestIds.next ≤ after.ledger.requestIds.next)
    (jobs : engine.jobIds.next ≤ after.jobIds.next)
    (requests : ∀ worker, after.ledger.requests worker ⊆ engine.ledger.requests worker)
    (upstream : ∀ worker request,
      next.upstream master worker request ≤ pool.upstream master worker request) :
    Assigned master (done ++ new) next after := by
  refine ⟨?_, ?_, ?_, ?_, ?_⟩
  all_goals rw [filterMap_append_none unassigned]
  · intro entry member
    obtain ⟨source, request, job⟩ := assigned.known entry member
    exact ⟨source, Nat.lt_of_lt_of_le request ids, Nat.lt_of_lt_of_le job jobs⟩
  · exact assigned.distinct
  · exact fun worker request listed => assigned.held worker request (requests worker listed)
  · exact fun worker request sent =>
      assigned.sent worker request (Nat.lt_of_lt_of_le sent (upstream worker request))
  · rw [filterMap_append_none unrun]
    exact assigned.run

/-- Completions that are ignored neither assign nor run anything. -/
private theorem filterMap_ignored
    (ignored : ∀ deal ∈ new, ∃ node worker request,
      node ≠ master ∧ deal = (node, .handled worker request)) :
    new.filterMap assigned? = [] ∧ new.filterMap ran? = [] := by
  refine ⟨List.filterMap_eq_nil_iff.mpr fun deal member => ?_,
    List.filterMap_eq_nil_iff.mpr fun deal member => ?_⟩
  all_goals
    obtain ⟨node, worker, request, _, rfl⟩ := ignored deal member
    rfl

/-- The master assigns a job under a request that is new. -/
private theorem Assigned.issues (assigned : Assigned master done pool engine) {worker : NodeId}
    {submission : Submission} (known : submission.id < engine.jobIds.next)
    (issued : new = [(master, .issued engine.ledger.requestIds.next worker submission.id)])
    (ids : after.ledger.requestIds.next = engine.ledger.requestIds.next + 1)
    (jobs : after.jobIds = engine.jobIds)
    (requests : ∀ other, after.ledger.requests other =
      if other = worker then
        engine.ledger.requests worker ++ [⟨engine.ledger.requestIds.next, submission⟩]
      else engine.ledger.requests other)
    (upstream : ∀ other request, next.upstream master other request ≤
      pool.upstream master other request +
        if worker = other ∧ engine.ledger.requestIds.next = request then 1 else 0) :
    Assigned master (done ++ new) next after := by
  obtain ⟨grown, unrun⟩ := @filterMap_issued _ done _ _ _ _ issued
  refine ⟨?_, ?_, ?_, ?_, ?_⟩
  · intro other member
    rw [grown] at member
    rw [ids, jobs]
    rcases List.mem_append.mp member with earlier | last
    · obtain ⟨source, request, job⟩ := assigned.known other earlier
      exact ⟨source, Nat.lt_succ_of_lt request, job⟩
    · rw [List.mem_singleton.mp last]
      exact ⟨rfl, Nat.lt_succ_self _, known⟩
  · rw [grown, List.map_append, List.nodup_append]
    refine ⟨assigned.distinct, List.pairwise_singleton _ _, ?_⟩
    intro earlier member last single same
    obtain ⟨other, listed, rfl⟩ := List.mem_map.mp member
    have before := (assigned.known other listed).2.1
    rw [same, List.mem_singleton.mp single] at before
    exact Nat.lt_irrefl _ before
  · intro other request listed
    rw [grown]
    rcases (mem_requests_of_issued requests).mp listed with earlier | ⟨rfl, rfl⟩
    · exact List.mem_append_left _ (assigned.held other request earlier)
    · exact List.mem_append_right _ (List.mem_singleton_self _)
  · intro other request sent
    rw [grown]
    have bound := upstream other request
    by_cases fresh : worker = other ∧ engine.ledger.requestIds.next = request
    · obtain ⟨rfl, rfl⟩ := fresh
      exact ⟨submission.id, List.mem_append_right _ (List.mem_singleton_self _)⟩
    · rw [if_neg fresh] at bound
      obtain ⟨job, listed⟩ := assigned.sent other request (Nat.lt_of_lt_of_le sent bound)
      exact ⟨job, List.mem_append_left _ listed⟩
  · intro run member
    rw [unrun] at member
    rw [grown]
    obtain ⟨job, listed⟩ := assigned.run run member
    exact ⟨job, List.mem_append_left _ listed⟩

/-- A node runs what was on its way to it. -/
private theorem Assigned.runs (assigned : Assigned master done pool engine) {node : NodeId}
    {request : RequestId} (ran : new = [(node, .ran master request)])
    (ids : after.ledger.requestIds = engine.ledger.requestIds)
    (jobs : after.jobIds = engine.jobIds)
    (requests : after.ledger.requests = engine.ledger.requests)
    (upstream : ∀ other id, next.upstream master other id +
      (if node = other ∧ request = id then 1 else 0) = pool.upstream master other id) :
    Assigned master (done ++ new) next after := by
  obtain ⟨ungrown, grown⟩ := @filterMap_ran _ done _ _ _ ran
  refine ⟨?_, ?_, ?_, fun other id sent => ?_, fun run member => ?_⟩
  all_goals rw [ungrown]
  · rw [ids, jobs]
    exact assigned.known
  · exact assigned.distinct
  · rw [requests]
    exact assigned.held
  · exact assigned.sent other id (Nat.lt_of_lt_of_le sent (Nat.le.intro (upstream other id)))
  · rw [grown] at member
    rcases List.mem_append.mp member with earlier | last
    · exact assigned.run run earlier
    · have sent := upstream node request
      rw [if_pos ⟨rfl, rfl⟩] at sent
      rw [List.mem_singleton.mp last]
      exact assigned.sent node request (by omega)

/-- **Every shift assigns what it sends.** -/
theorem Assigned.shift {violent : Bool} (assigned : Assigned master done pool home.engine)
    (accounted : Accounted master pool home.engine)
    (there : pool.stations.get? master = some home)
    (queued : ∀ submission ∈ home.engine.scheduler.queue,
      submission.id < home.engine.jobIds.next)
    (shift : Shift violent master pool next home.engine after new) :
    Assigned master (done ++ new) next after := by
  cases shift with
  | waits upstream downstream requests closed ids jobs queue ignored =>
    obtain ⟨unassigned, unrun⟩ := filterMap_ignored ignored
    refine assigned.fewer unassigned unrun (Nat.le_of_eq (by rw [ids])) jobs (fun worker => ?_)
      upstream
    rw [requests]
    exact List.Subset.refl _
  | issues worker submission upstream downstream requests closed registered ids jobs queue issued =>
    refine assigned.issues (queued submission ?_) issued ids jobs requests upstream
    rw [queue]
    exact List.mem_cons_self
  | resolves worker struck before later upstream downstream listed requests closed ids jobs queue
      resolved =>
    exact assigned.fewer (by rw [resolved]; rfl) (by rw [resolved]; rfl)
      (Nat.le_of_eq (by rw [ids])) (Nat.le_of_eq (by rw [jobs]))
      (requests_subset (subset_of_struck listed) requests)
      fun other request => Nat.le_of_eq (upstream other request)
  | stale worker request waiting missing =>
    exact (missing (accounted.outstanding there waiting)).elim
  | closes worker alive heard unread upstream downstream requests closed ids jobs queue silent =>
    exact assigned.fewer (by rw [silent]; rfl) (by rw [silent]; rfl)
      (Nat.le_of_eq (by rw [ids])) (Nat.le_of_eq (by rw [jobs]))
      (requests_subset (List.nil_subset _) requests)
      fun other request => Nat.le_of_eq (upstream other request)
  | runs node request alive upstream downstream requests closed ids jobs queue ran =>
    exact assigned.runs ran ids jobs requests upstream

/-- Without another assignment or run. -/
private theorem Single.still (single : Single master done pool engine)
    (unassigned : new.filterMap assigned? = []) (unrun : new.filterMap ran? = [])
    (upstream : ∀ worker request,
      next.upstream master worker request ≤ pool.upstream master worker request)
    (current : ∀ worker request, 0 < pool.upstream master worker request →
      next.Gone worker ∨ request ∈ (after.ledger.requests worker).map Request.id)
    (reported : after.isGone = false → ∀ worker request,
      ⟨worker, master, request⟩ ∈ done.filterMap ran? →
      request ∈ (after.ledger.requests worker).map Request.id →
      0 < next.downstream master worker request)
    (spent : ∀ run ∈ done.filterMap ran?, ∀ job, (run, job) ∈ done.filterMap assigned? →
      (∀ submission ∈ after.scheduler.queue, submission.id ≠ job) ∧
      ∀ worker, ∀ request ∈ after.ledger.requests worker, request.submission.id = job →
        ⟨worker, master, request.id⟩ = run) :
    Single master (done ++ new) next after := by
  have assigns := @filterMap_append_none done new _ _ unassigned
  have runs := @filterMap_append_none done new _ _ unrun
  refine ⟨?_, ?_, ?_, ?_, ?_⟩
  · intro worker request
    rw [runs]
    exact Nat.le_trans (Nat.add_le_add_right (upstream worker request) _)
      (single.once worker request)
  · intro worker request sent
    exact current worker request (Nat.lt_of_lt_of_le sent (upstream worker request))
  · rw [runs]
    exact reported
  · rw [runs, assigns]
    exact spent
  · rw [runs, assigns]
    exact single.single

private theorem Single.waits (single : Single master done pool engine)
    (assigned : Assigned master done pool engine) (course : Course pool next engine after)
    (ignored : ∀ deal ∈ new, ∃ node worker request,
      node ≠ master ∧ deal = (node, .handled worker request))
    (upstream : ∀ worker request,
      next.upstream master worker request ≤ pool.upstream master worker request)
    (downstream : ∀ worker request, after.isGone = false →
      pool.downstream master worker request ≤ next.downstream master worker request)
    (requests : after.ledger.requests = engine.ledger.requests)
    (queue : ∀ submission ∈ after.scheduler.queue,
      submission ∈ engine.scheduler.queue ∨ submission.id = engine.jobIds.next) :
    Single master (done ++ new) next after := by
  obtain ⟨unassigned, unrun⟩ := filterMap_ignored ignored
  refine single.still unassigned unrun upstream ?_ ?_ ?_
  · intro worker request sent
    rw [requests]
    exact (single.current worker request sent).imp_left (course.gone worker)
  · intro alive worker request ran listed
    have before := course.alive alive
    rw [requests] at listed
    exact Nat.lt_of_lt_of_le (single.reported before worker request ran listed)
      (downstream worker request alive)
  · intro run ran job listed
    obtain ⟨unqueued, own⟩ := single.spent run ran job listed
    rw [requests]
    refine ⟨fun submission queued same => ?_, own⟩
    rcases queue submission queued with earlier | fresh
    · exact unqueued submission earlier same
    · have known := (assigned.known (run, job) listed).2.2
      rw [← same, fresh] at known
      exact Nat.lt_irrefl _ known

/-- A request whose completion is handled is no longer on its way to be run. -/
private theorem Single.resolves (single : Single master done pool engine)
    (accounted : Accounted master pool engine) (sound : engine.ledger.Sound)
    (course : Course pool next engine after) {worker : NodeId} {struck : Request}
    {before later : List Request}
    (upstream : ∀ other request,
      next.upstream master other request = pool.upstream master other request)
    (downstream : ∀ other request, next.downstream master other request +
        (if worker = other ∧ struck.id = request then 1 else 0) =
      pool.downstream master other request)
    (listed : engine.ledger.requests worker = before ++ struck :: later)
    (requests : ∀ other, after.ledger.requests other =
      if other = worker then before ++ later else engine.ledger.requests other)
    (queue : after.scheduler.queue = engine.scheduler.queue)
    (resolved : new = [(master, .handled worker struck.id),
      (master, .resolved worker struck.id true)]) :
    Single master (done ++ new) next after := by
  have once := sound.nodup_requests worker
  rw [listed, (List.perm_middle.map Request.id).nodup_iff, List.map_cons, List.nodup_cons] at once
  have opened : engine.ledger.isDeparted worker = false := by
    refine Bool.eq_false_iff.mpr fun departed => ?_
    have none := Ledger.requests_of_isDeparted departed
    rw [listed] at none
    exact List.append_ne_nil_of_right_ne_nil before (List.cons_ne_nil struck later) none
  have bounded : pool.upstream master worker struck.id +
      pool.downstream master worker struck.id ≤ 1 := by
    refine Nat.le_trans (accounted.bounded worker struck.id opened) ?_
    exact List.nodup_iff_count.mp (sound.nodup_requests worker) struck.id
  have fewer := requests_subset (subset_of_struck listed) requests
  refine single.still (by rw [resolved]; rfl) (by rw [resolved]; rfl)
    (fun other request => Nat.le_of_eq (upstream other request)) ?_ ?_ ?_
  · intro other request sent
    have change := downstream other request
    refine (single.current other request sent).imp (course.gone other) fun outstanding => ?_
    rw [requests]
    by_cases here : other = worker
    · subst here
      rw [if_pos rfl]
      rw [listed, (List.perm_middle.map Request.id).mem_iff, List.map_cons,
        List.mem_cons] at outstanding
      refine outstanding.resolve_left fun same => ?_
      subst same
      rw [if_pos ⟨rfl, rfl⟩] at change
      omega
    · rw [if_neg here]
      exact outstanding
  · intro alive other request ran outstanding
    have before := course.alive alive
    have change := downstream other request
    have waiting := single.reported before other request ran
      (List.map_subset _ (fewer other) outstanding)
    have differs : ¬ (worker = other ∧ struck.id = request) := by
      rintro ⟨rfl, rfl⟩
      rw [requests, if_pos rfl] at outstanding
      exact once.1 outstanding
    rw [if_neg differs] at change
    omega
  · intro run ran job assigned
    obtain ⟨unqueued, own⟩ := single.spent run ran job assigned
    rw [queue]
    exact ⟨unqueued, fun other request listed => own other request (fewer other listed)⟩

/-- The requests of a worker that left on its own were never run. -/
private theorem Single.closes (single : Single master done pool home.engine)
    (there : pool.stations.get? master = some home) (course : Course pool next home.engine after)
    {worker : NodeId} (alive : home.engine.isGone = false)
    (gone : pool.Gone worker) (drained : pool.view worker Station.reported = [])
    (unread : home.engine.completions = [])
    (upstream : ∀ other request,
      next.upstream master other request = pool.upstream master other request)
    (downstream : ∀ other request,
      next.downstream master other request = pool.downstream master other request)
    (requests : ∀ other, after.ledger.requests other =
      if other = worker then [] else home.engine.ledger.requests other)
    (queue : ∀ submission ∈ after.scheduler.queue, submission ∈ home.engine.scheduler.queue ∨
      ∃ request ∈ home.engine.ledger.requests worker, request.submission.id = submission.id)
    (silent : new = []) : Single master (done ++ new) next after := by
  have fewer := requests_subset (List.nil_subset _) requests
  have returned : pool.view master Station.returned = [] := by
    rw [view_of_get? there]
    exact unread
  -- Nothing is on its way back from the worker, so what is outstanding on it was not run.
  have unrun : ∀ request ∈ home.engine.ledger.requests worker,
      ⟨worker, master, request.id⟩ ∉ done.filterMap ran? := by
    intro request listed ran
    have waiting := single.reported alive worker request.id ran (List.mem_map_of_mem listed)
    rw [Pool.downstream, drained, returned] at waiting
    exact Nat.lt_irrefl 0 waiting
  refine single.still (by rw [silent]; rfl) (by rw [silent]; rfl)
    (fun other request => Nat.le_of_eq (upstream other request)) ?_ ?_ ?_
  · intro other request sent
    by_cases here : other = worker
    · exact .inl (course.gone other (here ▸ gone))
    · rw [requests, if_neg here]
      exact (single.current other request sent).imp_left (course.gone other)
  · intro _ other request ran outstanding
    rw [downstream]
    exact single.reported alive other request ran (List.map_subset _ (fewer other) outstanding)
  · intro run ran job listed
    obtain ⟨unqueued, own⟩ := single.spent run ran job listed
    refine ⟨fun submission queued same => ?_,
      fun other request still => own other request (fewer other still)⟩
    rcases queue submission queued with earlier | ⟨request, returned, named⟩
    · exact unqueued submission earlier same
    · have repeated := own worker request returned (named.trans same)
      exact unrun request returned (repeated ▸ ran)

/-- A request that is new was neither sent nor run. -/
private theorem Single.issues (single : Single master done pool engine)
    (assigned : Assigned master done pool engine) (course : Course pool next engine after)
    {worker : NodeId} {submission : Submission}
    (upstream : ∀ other request, next.upstream master other request ≤
      pool.upstream master other request +
        if worker = other ∧ engine.ledger.requestIds.next = request then 1 else 0)
    (downstream : ∀ other request,
      next.downstream master other request = pool.downstream master other request)
    (requests : ∀ other, after.ledger.requests other =
      if other = worker then
        engine.ledger.requests worker ++ [⟨engine.ledger.requestIds.next, submission⟩]
      else engine.ledger.requests other)
    (queue : engine.scheduler.queue = submission :: after.scheduler.queue)
    (issued : new = [(master, .issued engine.ledger.requestIds.next worker submission.id)]) :
    Single master (done ++ new) next after := by
  obtain ⟨grown, runs⟩ := @filterMap_issued _ done _ _ _ _ issued
  obtain ⟨unsent, unrun⟩ := assigned.fresh
  -- What was run was assigned before.
  have before : ∀ run ∈ done.filterMap ran?, ∀ job,
      (run, job) ∈ (done ++ new).filterMap assigned? → (run, job) ∈ done.filterMap assigned? := by
    intro run ran job listed
    rw [grown] at listed
    refine (List.mem_append.mp listed).resolve_right fun last => ?_
    cases List.mem_singleton.mp last
    exact unrun worker ran
  refine ⟨?_, ?_, ?_, ?_, ?_⟩
  · intro other request
    rw [runs]
    have bound := upstream other request
    by_cases fresh : worker = other ∧ engine.ledger.requestIds.next = request
    · obtain ⟨rfl, rfl⟩ := fresh
      have none := unsent worker
      have never := List.count_eq_zero.mpr (unrun worker)
      rw [if_pos ⟨rfl, rfl⟩] at bound
      omega
    · have once := single.once other request
      rw [if_neg fresh] at bound
      omega
  · intro other request sent
    have bound := upstream other request
    by_cases fresh : worker = other ∧ engine.ledger.requestIds.next = request
    · obtain ⟨rfl, rfl⟩ := fresh
      have last := (mem_requests_of_issued requests).mpr (.inr ⟨rfl, rfl⟩)
      exact .inr (List.mem_map.mpr ⟨_, last, rfl⟩)
    · rw [if_neg fresh] at bound
      refine (single.current other request (Nat.lt_of_lt_of_le sent bound)).imp (course.gone other)
        fun outstanding => ?_
      obtain ⟨own, listed, rfl⟩ := List.mem_map.mp outstanding
      exact List.mem_map_of_mem ((mem_requests_of_issued requests).mpr (.inl listed))
  · intro alive other request ran outstanding
    rw [runs] at ran
    rw [downstream]
    have present := course.alive alive
    obtain ⟨own, listed, rfl⟩ := List.mem_map.mp outstanding
    rcases (mem_requests_of_issued requests).mp listed with earlier | ⟨rfl, rfl⟩
    · exact single.reported present other own.id ran (List.mem_map_of_mem earlier)
    · exact (unrun other ran).elim
  · intro run ran job listed
    rw [runs] at ran
    obtain ⟨unqueued, own⟩ := single.spent run ran job (before run ran job listed)
    rw [queue] at unqueued
    refine ⟨fun other queued => unqueued other (List.mem_cons_of_mem _ queued),
      fun other request outstanding same => ?_⟩
    rcases (mem_requests_of_issued requests).mp outstanding with earlier | ⟨rfl, rfl⟩
    · exact own other request earlier same
    · exact (unqueued submission List.mem_cons_self same).elim
  · intro first early second late job left right
    rw [runs] at early late
    exact single.single first early second late job (before first early job left)
      (before second late job right)

/-- **A job that is run has not been run before**, and is neither queued nor outstanding under
another request. -/
private theorem Single.spends (single : Single master done pool engine)
    (assigned : Assigned master done pool engine) (distinct : engine.unsettledJobs.Nodup)
    {node : NodeId} {request : RequestId} (alive : ¬ pool.Gone node)
    (sent : 0 < pool.upstream master node request) {job : JobId}
    (listed : (⟨node, master, request⟩, job) ∈ done.filterMap assigned?) :
    (∀ submission ∈ engine.scheduler.queue, submission.id ≠ job) ∧
      (∀ worker, ∀ other ∈ engine.ledger.requests worker, other.submission.id = job →
        (⟨worker, master, other.id⟩ : Assignment) = ⟨node, master, request⟩) ∧
      ∀ run ∈ done.filterMap ran?, (run, job) ∈ done.filterMap assigned? →
        run = ⟨node, master, request⟩ := by
  rw [Engine.unsettledJobs, List.nodup_append] at distinct
  obtain ⟨_, once, apart⟩ := distinct
  obtain ⟨own, outstanding, rfl⟩ :=
    List.mem_map.mp ((single.current node request sent).resolve_left alive)
  have held := Ledger.mem_held_iff.mpr ⟨node, outstanding⟩
  have named : own.submission.id = job := by
    have same := assigned.eq_of_request (assigned.held node own outstanding) listed rfl
    exact congrArg Prod.snd same
  subst named
  refine ⟨?_, ?_, ?_⟩
  · intro submission queued same
    exact apart _ (List.mem_map_of_mem queued) _ (List.mem_map_of_mem held) same
  · intro worker other there same
    have equal : other = own := List.inj_on_of_nodup_map once
      (Ledger.mem_held_iff.mpr ⟨worker, there⟩) held same
    subst equal
    have twice := assigned.eq_of_request (assigned.held worker other there) listed rfl
    exact congrArg Prod.fst twice
  · intro run ran earlier
    exact ((single.spent run ran _ earlier).2 node own outstanding rfl).symm

private theorem Single.runs (single : Single master done pool engine)
    (assigned : Assigned master done pool engine) (distinct : engine.unsettledJobs.Nodup)
    (course : Course pool next engine after) {node : NodeId} {request : RequestId}
    (alive : ¬ pool.Gone node)
    (upstream : ∀ other id, next.upstream master other id +
      (if node = other ∧ request = id then 1 else 0) = pool.upstream master other id)
    (downstream : ∀ other id, next.downstream master other id =
      pool.downstream master other id + if node = other ∧ request = id then 1 else 0)
    (requests : after.ledger.requests = engine.ledger.requests)
    (queue : after.scheduler.queue = engine.scheduler.queue)
    (ran : new = [(node, .ran master request)]) : Single master (done ++ new) next after := by
  obtain ⟨ungrown, grown⟩ := @filterMap_ran _ done _ _ _ ran
  have sent : 0 < pool.upstream master node request := by
    have change := upstream node request
    rw [if_pos ⟨rfl, rfl⟩] at change
    omega
  have split : ∀ run ∈ (done ++ new).filterMap ran?,
      run ∈ done.filterMap ran? ∨ run = ⟨node, master, request⟩ := by
    intro run member
    rw [grown] at member
    exact (List.mem_append.mp member).imp_right List.mem_singleton.mp
  refine ⟨?_, ?_, ?_, ?_, ?_⟩
  · intro other id
    have once := single.once other id
    have change := upstream other id
    rw [grown, List.count_append, List.count_singleton]
    simp only [beq_iff_eq, Assignment.mk.injEq, true_and]
    omega
  · intro other id waits
    rw [requests]
    refine (single.current other id ?_).imp_left (course.gone other)
    exact Nat.lt_of_lt_of_le waits (Nat.le.intro (upstream other id))
  · intro present other id member outstanding
    rw [downstream]
    rcases split _ member with earlier | own
    · have before := course.alive present
      rw [requests] at outstanding
      exact Nat.lt_of_lt_of_le (single.reported before other id earlier outstanding)
        (Nat.le_add_right _ _)
    · cases own
      rw [if_pos ⟨rfl, rfl⟩]
      exact Nat.succ_pos _
  · intro run member job listed
    rw [ungrown] at listed
    rw [requests, queue]
    rcases split run member with earlier | rfl
    · exact single.spent run earlier job listed
    · obtain ⟨unqueued, own, _⟩ := single.spends assigned distinct alive sent listed
      exact ⟨unqueued, own⟩
  · intro first early second late job left right
    rw [ungrown] at left right
    rcases split first early with before | rfl
    · rcases split second late with earlier | rfl
      · exact single.single first before second earlier job left right
      · exact (single.spends assigned distinct alive sent right).2.2 first before left
    · rcases split second late with earlier | rfl
      · exact ((single.spends assigned distinct alive sent left).2.2 second earlier right).symm
      · rfl

/-- **Without force every shift keeps what was run single.** -/
theorem Single.shift (single : Single master done pool home.engine)
    (assigned : Assigned master done pool home.engine)
    (accounted : Accounted master pool home.engine) (wired : pool.Wired false)
    (there : pool.stations.get? master = some home)
    (course : Course pool next home.engine after)
    (shift : Shift false master pool next home.engine after new) :
    Single master (done ++ new) next after := by
  have fitted := wired.fitted master home there
  obtain ⟨history, conserved⟩ := fitted.conserved
  cases shift with
  | waits upstream downstream requests closed ids jobs queue ignored =>
    exact single.waits assigned course ignored upstream
      (fun worker request => (downstream worker request).2 rfl) requests queue
  | issues worker submission upstream downstream requests closed registered ids jobs queue issued =>
    exact single.issues assigned course upstream downstream requests queue issued
  | resolves worker struck before later upstream downstream listed requests closed ids jobs queue
      resolved =>
    exact single.resolves accounted fitted.orderly.ledger course upstream downstream listed requests
      queue resolved
  | stale worker request waiting missing =>
    exact (missing (accounted.outstanding there waiting)).elim
  | closes worker alive heard unread upstream downstream requests closed ids jobs queue silent =>
    obtain ⟨out, known⟩ := accounted.announced worker heard
    obtain ⟨station, present⟩ := Option.isSome_iff_exists.mp known
    obtain ⟨gone, drained⟩ := wired.calm rfl worker station present out
    refine single.closes there course alive ⟨station, present, gone⟩ ?_ unread upstream downstream
      requests queue silent
    rw [view_of_get? present, Station.reported, drained]
    rfl
  | runs node request alive upstream downstream requests closed ids jobs queue ran =>
    exact single.runs assigned conserved.distinct course alive upstream downstream requests queue
      ran

end Keeping

/-! ### The history -/

/-- The assignments of jobs among some effects, each with its job. -/
def assignments (effects : List PoolEffect) : List (Assignment × JobId) :=
  effects.filterMap fun
    | .engine node (.issued request worker job _) => some (⟨worker, node, request⟩, job)
    | _ => none

/-- The runs of jobs among some effects, each under its assignment. -/
def runs (effects : List PoolEffect) : List Assignment :=
  effects.filterMap fun
    | .engine node (.ran source request) => some ⟨node, source, request⟩
    | _ => none

private theorem assignments_eq (effects : List PoolEffect) :
    assignments effects = (deals effects).filterMap assigned? := by
  refine filterMap_deals (fun effect => ?_) effects
  rcases effect with record | ⟨other, effect⟩ | ⟨other, event⟩
  · rfl
  · cases effect with
    | handled message =>
      obtain ⟨worker, payload⟩ := message
      cases payload <;> rfl
    | _ => rfl
  · rfl

private theorem runs_eq (effects : List PoolEffect) :
    runs effects = (deals effects).filterMap ran? := by
  refine filterMap_deals (fun effect => ?_) effects
  rcases effect with record | ⟨other, effect⟩ | ⟨other, event⟩
  · rfl
  · cases effect with
    | handled message =>
      obtain ⟨worker, payload⟩ := message
      cases payload <;> rfl
    | _ => rfl
  · rfl

/-- A list of one item at most once. -/
private theorem length_le_one {α : Type} {items : List α} (distinct : items.Nodup)
    (same : ∀ first ∈ items, ∀ second ∈ items, first = second) : items.length ≤ 1 := by
  match items with
  | [] => exact Nat.zero_le 1
  | [_] => exact Nat.le_refl 1
  | first :: second :: rest =>
    have equal := same first List.mem_cons_self second
      (List.mem_cons_of_mem first List.mem_cons_self)
    rw [equal] at distinct
    exact ((List.nodup_cons.mp distinct).1 List.mem_cons_self).elim

/-- No request is run twice. -/
private theorem Single.nodup_runs {master : NodeId} {done : List (NodeId × Deal)} {pool : Pool}
    {engine : Engine} (single : Single master done pool engine)
    (assigned : Assigned master done pool engine) : (done.filterMap ran?).Nodup := by
  refine List.nodup_iff_count.mpr fun run => ?_
  by_cases member : run ∈ done.filterMap ran?
  · obtain ⟨worker, source, request⟩ := run
    obtain ⟨job, listed⟩ := assigned.run _ member
    have own : source = master := (assigned.known _ listed).1
    subst own
    exact Nat.le_trans (Nat.le_add_left _ _) (single.once worker request)
  · rw [List.count_eq_zero.mpr member]
    exact Nat.zero_le 1

/-- **At most one run of every job.** As long as no node is killed and the pool is not terminated,
whatever is launched and submitted, whoever leaves, and in whatever order engines and links go on:
every run is of an assigned job, and among all runs at most one is of a given job, however often the
job was assigned. -/
theorem runs_single (actions : List Action)
    (calm : ∀ action ∈ actions, action.isViolent = false) :
    let effects := (performAll {} actions).effects
    (∀ run ∈ runs effects, ∃ job, (run, job) ∈ assignments effects) ∧
      ∀ job, ((runs effects).filter fun run => (run, job) ∈ assignments effects).length ≤ 1 := by
  intro effects
  have kept := @performAll_shifts false
    (fun master done pool engine => Accounted master pool engine ∧
      Assigned master done pool engine ∧ Single master done pool engine)
    (fun up down => ⟨accounted_create _ up down, assigned_create _ up, single_create _ up⟩)
    (fun {master done pool next home after new} wired _ there ⟨accounted, assigned, single⟩ course
        shift => by
      obtain ⟨history, conserved⟩ := (wired.fitted master home there).conserved
      have queued : ∀ submission ∈ home.engine.scheduler.queue,
          submission.id < home.engine.jobIds.next := fun submission member =>
        conserved.known _ (List.mem_append_left _ (List.mem_map_of_mem member))
      exact ⟨accounted.shift there course shift, assigned.shift accounted there queued shift,
        single.shift assigned accounted wired there course shift⟩)
    actions (fun action member force => (by cases (calm action member).symm.trans force))
  rw [runs_eq, assignments_eq]
  rcases kept with ⟨_, silent⟩ | ⟨master, station, _, _, _, assigned, single⟩
  · rw [silent]
    exact ⟨nofun, fun job => Nat.zero_le 1⟩
  · refine ⟨assigned.run, fun job => length_le_one ((single.nodup_runs assigned).filter _) ?_⟩
    intro first left second right
    obtain ⟨early, listed⟩ := List.mem_filter.mp left
    obtain ⟨late, repeated⟩ := List.mem_filter.mp right
    exact single.single first early second late job (of_decide_eq_true listed)
      (of_decide_eq_true repeated)

/-- A worker leaves with the request of a job unread, and the job goes to another worker. -/
def reassignment : List Action :=
  let options := ({ scheduler := { selector := .roundRobin } } : Settings).options
  [.launch options, .launch options, .submit 1 (.sleep 0) [], .advance 2, .carry 2, .advance 1,
    .advance 1, .carry 1, .leave 2, .advance 2, .carry 2, .launch options, .advance 3, .carry 3,
    .advance 1, .advance 1, .carry 1, .advance 3]

/-- The job is assigned twice and run once. -/
theorem runs_single_reassignment :
    (∀ action ∈ reassignment, action.isViolent = false) ∧
      assignments (performAll {} reassignment).effects = [(⟨2, 1, 1⟩, 1), (⟨3, 1, 2⟩, 1)] ∧
      runs (performAll {} reassignment).effects = [⟨3, 1, 2⟩] ∧
      ∀ job, ((runs (performAll {} reassignment).effects).filter fun run =>
        (run, job) ∈ assignments (performAll {} reassignment).effects).length ≤ 1 := by
  have calm : ∀ action ∈ reassignment, action.isViolent = false := by decide
  have single := runs_single reassignment calm
  exact ⟨calm, by decide +kernel, by decide +kernel, single.2⟩

end JobPool.Pool
