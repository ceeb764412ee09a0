/-
**The requests between the master and its workers, step by step.**

Seen from the master, a step of the pool issues a request, resolves or misses one, closes an
account, runs a request, or lets them all wait (`Shift`); besides, membership and news move on
(`Course`).

* `Step.shift` — every step is one of the six shifts;
* `performAll_shifts` — what every shift keeps, every run keeps.
-/

import JobPool.Proofs.Pool.Transit
import JobPool.Proofs.Pool.Wiring

namespace JobPool.Pool

/-! ### The course of a pool -/

/-- The run of the node has ended. -/
def Gone (pool : Pool) (node : NodeId) : Prop :=
  ∃ station, pool.stations.get? node = some station ∧ station.engine.isGone = true

/-- **How membership and news move on** with a step, seen from the engine of the master. -/
structure Course (pool next : Pool) (engine after : Engine) : Prop where
  departed : ∀ node, pool.Departed node → next.Departed node
  gone : ∀ node, pool.Gone node → next.Gone node
  ended : engine.isGone = true → after.isGone = true
  departures : ∀ node ∈ after.departures, node ∈ engine.departures ∨ pool.Departed node
  completions : ∀ worker request, (worker, request) ∈ after.completions →
    (worker, request) ∈ engine.completions ∨ worker ∈ pool.members

section Courses

variable {pool middle next : Pool} {engine between after : Engine}

theorem Course.refl (pool : Pool) (engine : Engine) : Course pool pool engine engine :=
  ⟨fun _ out => out, fun _ gone => gone, fun gone => gone, fun _ heard => .inl heard,
    fun _ _ waiting => .inl waiting⟩

/-- An engine that is not gone was not gone before. -/
theorem Course.alive (course : Course pool next engine after) (alive : after.isGone = false) :
    engine.isGone = false :=
  Bool.eq_false_iff.mpr fun gone => by cases (course.ended gone).symm.trans alive

/-- Two steps that leave the members and the nodes as they are. -/
theorem Course.trans (first : Course pool middle engine between) (alike : pool.Alike middle)
    (second : Course middle next between after) : Course pool next engine after := by
  refine ⟨fun node out => second.departed node (first.departed node out),
    fun node gone => second.gone node (first.gone node gone),
    fun gone => second.ended (first.ended gone), ?_, ?_⟩
  · intro node heard
    rcases second.departures node heard with earlier | out
    · exact first.departures node earlier
    · rw [Departed, alike.members, alike.nodes] at out
      exact .inr out
  · intro worker request waiting
    rcases second.completions worker request waiting with earlier | member
    · exact first.completions worker request earlier
    · rw [alike.members] at member
      exact .inr member

/-- Another station at a node, seen from the master at the same node or at another one. -/
theorem Course.enter {node master : NodeId} {old new home : Station}
    (present : pool.stations.get? node = some old)
    (there : pool.stations.get? master = some home)
    (ended : old.engine.isGone = true → new.engine.isGone = true)
    (departures : ∀ other ∈ new.engine.departures,
      other ∈ old.engine.departures ∨ pool.Departed other)
    (completions : ∀ worker request, (worker, request) ∈ new.engine.completions →
      (worker, request) ∈ old.engine.completions ∨ worker ∈ pool.members) :
    ∃ station, (pool.enter node new).stations.get? master = some station ∧
      Course pool (pool.enter node new) home.engine station.engine ∧
      (master = node ∧ home = old ∧ station = new ∨ master ≠ node ∧ station = home) := by
  have departed : ∀ other, pool.Departed other → (pool.enter node new).Departed other := by
    intro other out
    refine ⟨out.1, ?_⟩
    rw [get?_enter]
    by_cases here : other = node
    · rw [if_pos here]
      rfl
    · rw [if_neg here]
      exact out.2
  have gone : ∀ other, pool.Gone other → (pool.enter node new).Gone other := by
    rintro other ⟨station, found, finished⟩
    by_cases here : other = node
    · rw [here, present] at found
      cases found
      exact ⟨new, by rw [get?_enter, if_pos here], ended finished⟩
    · exact ⟨station, by rw [get?_enter, if_neg here, found], finished⟩
  by_cases here : master = node
  · rw [here, present] at there
    cases there
    exact ⟨new, by rw [get?_enter, if_pos here],
      ⟨departed, gone, ended, departures, completions⟩, .inl ⟨here, rfl, rfl⟩⟩
  · exact ⟨home, by rw [get?_enter, if_neg here, there],
      ⟨departed, gone, fun finished => finished, fun _ heard => .inl heard,
        fun _ _ waiting => .inl waiting⟩, .inr ⟨here, rfl⟩⟩

end Courses

/-! ### Shifts -/

/-- **What a step does to the requests on their way**, seen from the engine of the master. -/
inductive Shift (violent : Bool) (master : NodeId) (pool next : Pool) (engine after : Engine)
    (done : List (NodeId × Deal)) : Prop
  /-- The requests wait, or some are lost. Without force nothing is lost on its way back. -/
  | waits
      (upstream : ∀ worker request,
        next.upstream master worker request ≤ pool.upstream master worker request)
      (downstream : ∀ worker request,
        next.downstream master worker request ≤ pool.downstream master worker request ∧
        (violent = false → after.isGone = false →
          pool.downstream master worker request ≤ next.downstream master worker request))
      (requests : after.ledger.requests = engine.ledger.requests)
      (closed : after.ledger.isDeparted = engine.ledger.isDeparted)
      (ids : after.ledger.requestIds = engine.ledger.requestIds)
      (jobs : engine.jobIds.next ≤ after.jobIds.next)
      (queue : ∀ submission ∈ after.scheduler.queue,
        submission ∈ engine.scheduler.queue ∨ submission.id = engine.jobIds.next)
      (done : ∀ deal ∈ done, ∃ node worker request,
        node ≠ master ∧ deal = (node, .handled worker request))
  /-- The master issues the oldest job of the queue to a worker. -/
  | issues (worker : NodeId) (submission : Submission)
      (upstream : ∀ other request, next.upstream master other request ≤
        pool.upstream master other request +
          if worker = other ∧ engine.ledger.requestIds.next = request then 1 else 0)
      (downstream : ∀ other request,
        next.downstream master other request = pool.downstream master other request)
      (requests : ∀ other, after.ledger.requests other =
        if other = worker then
          engine.ledger.requests worker ++ [⟨engine.ledger.requestIds.next, submission⟩]
        else engine.ledger.requests other)
      (closed : after.ledger.isDeparted = engine.ledger.isDeparted)
      (registered : engine.ledger.isDeparted worker = false)
      (ids : after.ledger.requestIds.next = engine.ledger.requestIds.next + 1)
      (jobs : after.jobIds = engine.jobIds)
      (queue : engine.scheduler.queue = submission :: after.scheduler.queue)
      (done : done =
        [(master, .issued engine.ledger.requestIds.next worker submission.id)])
  /-- The master strikes a request whose completion it handles. -/
  | resolves (worker : NodeId) (struck : Request) (before later : List Request)
      (upstream : ∀ other request,
        next.upstream master other request = pool.upstream master other request)
      (downstream : ∀ other request, next.downstream master other request +
          (if worker = other ∧ struck.id = request then 1 else 0) =
        pool.downstream master other request)
      (listed : engine.ledger.requests worker = before ++ struck :: later)
      (requests : ∀ other, after.ledger.requests other =
        if other = worker then before ++ later else engine.ledger.requests other)
      (closed : after.ledger.isDeparted = engine.ledger.isDeparted)
      (ids : after.ledger.requestIds = engine.ledger.requestIds)
      (jobs : after.jobIds = engine.jobIds)
      (queue : after.scheduler.queue = engine.scheduler.queue)
      (done : done = [(master, .handled worker struck.id),
        (master, .resolved worker struck.id true)])
  /-- The master handles a completion whose request is not outstanding. -/
  | stale (worker : NodeId) (request : RequestId)
      (waiting : (worker, request) ∈ engine.completions)
      (missing : request ∉ (engine.ledger.requests worker).map Request.id)
  /-- The master closes the account of a departed worker. -/
  | closes (worker : NodeId)
      (alive : engine.isGone = false)
      (heard : worker ∈ engine.departures)
      (unread : engine.completions = [])
      (upstream : ∀ other request,
        next.upstream master other request = pool.upstream master other request)
      (downstream : ∀ other request,
        next.downstream master other request = pool.downstream master other request)
      (requests : ∀ other, after.ledger.requests other =
        if other = worker then [] else engine.ledger.requests other)
      (closed : ∀ other, after.ledger.isDeparted other =
        if other = worker then true else engine.ledger.isDeparted other)
      (ids : after.ledger.requestIds = engine.ledger.requestIds)
      (jobs : after.jobIds = engine.jobIds)
      (queue : ∀ submission ∈ after.scheduler.queue, submission ∈ engine.scheduler.queue ∨
        ∃ request ∈ engine.ledger.requests worker, request.submission.id = submission.id)
      (done : done = [])
  /-- A node that is not gone runs a job that the master asked it for. -/
  | runs (node : NodeId) (request : RequestId)
      (alive : ¬ pool.Gone node)
      (upstream : ∀ other id, next.upstream master other id +
          (if node = other ∧ request = id then 1 else 0) = pool.upstream master other id)
      (downstream : ∀ other id, next.downstream master other id =
        pool.downstream master other id + if node = other ∧ request = id then 1 else 0)
      (requests : after.ledger.requests = engine.ledger.requests)
      (closed : after.ledger.isDeparted = engine.ledger.isDeparted)
      (ids : after.ledger.requestIds = engine.ledger.requestIds)
      (jobs : after.jobIds = engine.jobIds)
      (queue : after.scheduler.queue = engine.scheduler.queue)
      (done : done = [(node, .ran master request)])

section Moves

variable {violent : Bool} {pool : Pool} {master node : NodeId} {old home : Station}

private theorem asked_absorb (station : Station) (act : Act Engine) :
    (station.absorb act).asked = station.asked ++ asks (Effect.accepted act.effects) :=
  asks_append _ _

private theorem reported_absorb (station : Station) (act : Act Engine) :
    (station.absorb act).reported = station.reported ++ reports (Effect.accepted act.effects) :=
  reports_append _ _

/-- A move that asks for nothing and loses at most some requests. -/
private theorem shift_waits {act : Act Engine} {engine after : Engine}
    (present : pool.stations.get? node = some old)
    (executes : ∃ lost, old.engine.executes.Perm (lost ++ act.value.executes))
    (completions : ∃ lost, old.engine.completions.Perm (lost ++ act.value.completions) ∧
      (node = master → after.isGone = false → lost = []))
    (sent : ∀ letter ∈ Effect.accepted act.effects, letter.2 = .register)
    (requests : after.ledger.requests = engine.ledger.requests)
    (closed : after.ledger.isDeparted = engine.ledger.isDeparted)
    (ids : after.ledger.requestIds = engine.ledger.requestIds)
    (jobs : engine.jobIds.next ≤ after.jobIds.next)
    (queue : ∀ submission ∈ after.scheduler.queue,
      submission ∈ engine.scheduler.queue ∨ submission.id = engine.jobIds.next)
    (dealt : ∀ deal ∈ Effect.deals act.effects, node ≠ master ∧
      ∃ worker request, deal = .handled worker request) :
    Shift violent master pool (pool.enter node (old.absorb act)) engine after
      ((Effect.deals act.effects).map (node, ·)) := by
  obtain ⟨unasking, unreporting⟩ := asks_of_register sent
  have asked : (old.absorb act).asked = old.asked := by
    rw [asked_absorb, unasking, List.append_nil]
  have reported : (old.absorb act).reported = old.reported := by
    rw [reported_absorb, unreporting, List.append_nil]
  refine .waits (fun worker request => ?_) (fun worker request => ⟨?_, fun _ alive => ?_⟩)
    requests closed ids jobs queue fun deal member => ?_
  · obtain ⟨lost, split⟩ := executes
    have counted := split.count_eq (master, request)
    rw [List.count_append] at counted
    have fewer : (old.absorb act).pending.count (master, request) ≤
        old.pending.count (master, request) + 0 := by
      show act.value.executes.count _ ≤ old.engine.executes.count _
      omega
    have pending := count_view_enter_le present fewer worker
    rw [ite_self] at pending
    rw [upstream, upstream, view_enter_of_eq present asked]
    exact Nat.add_le_add_left pending _
  · obtain ⟨lost, split, _⟩ := completions
    have counted := split.count_eq (worker, request)
    rw [List.count_append] at counted
    have fewer : (old.absorb act).returned.count (worker, request) ≤
        old.returned.count (worker, request) + 0 := by
      show act.value.completions.count _ ≤ old.engine.completions.count _
      omega
    have returned := count_view_enter_le present fewer master
    rw [ite_self] at returned
    rw [downstream, downstream, view_enter_of_eq present reported]
    exact Nat.add_le_add_left returned _
  · rw [downstream, downstream, view_enter_of_eq present reported]
    refine Nat.add_le_add_left ?_ _
    rw [view_enter]
    by_cases here : master = node
    · obtain ⟨lost, split, kept⟩ := completions
      rw [kept here.symm alive] at split
      rw [if_pos here, here, view_of_get? present]
      exact Nat.le_of_eq (split.count_eq _)
    · exact Nat.le_of_eq (by rw [if_neg here])
  · obtain ⟨own, listed, rfl⟩ := List.mem_map.mp member
    obtain ⟨other, worker, request, rfl⟩ := dealt own listed
    exact ⟨node, worker, request, other, rfl⟩

/-- A node runs a job and reports to the master. -/
private theorem shift_runs {act : Act Engine} {engine after : Engine} {request : RequestId}
    (present : pool.stations.get? node = some old) (alive : old.engine.isGone = false)
    (executes : old.engine.executes.Perm ((master, request) :: act.value.executes))
    (completions : act.value.completions = old.engine.completions)
    (unasked : asks (Effect.accepted act.effects) = [])
    (sent : reports (Effect.accepted act.effects) = [(master, request)])
    (requests : after.ledger.requests = engine.ledger.requests)
    (closed : after.ledger.isDeparted = engine.ledger.isDeparted)
    (ids : after.ledger.requestIds = engine.ledger.requestIds)
    (jobs : after.jobIds = engine.jobIds)
    (queue : after.scheduler.queue = engine.scheduler.queue)
    (dealt : Effect.deals act.effects = [.ran master request]) :
    Shift violent master pool (pool.enter node (old.absorb act)) engine after
      ((Effect.deals act.effects).map (node, ·)) := by
  have asked : (old.absorb act).asked = old.asked := by
    rw [asked_absorb, unasked, List.append_nil]
  have returned : (old.absorb act).returned = old.returned := completions
  refine .runs node request ?_ ?_ ?_ requests closed ids jobs queue ?_
  · rintro ⟨station, found, gone⟩
    rw [present] at found
    cases found
    cases alive.symm.trans gone
  · intro other id
    have counted : (old.absorb act).pending.count (master, id) +
        [(master, request)].count (master, id) = old.pending.count (master, id) + 0 := by
      rw [Nat.add_comm, ← List.count_append]
      exact (executes.count_eq _).symm
    have pending := count_view_enter present counted other
    rw [ite_self, count_here] at pending
    rw [upstream, upstream, view_enter_of_eq present asked, Nat.add_assoc, pending, Nat.add_zero]
  · intro other id
    have counted : (old.absorb act).reported.count (master, id) + 0 =
        old.reported.count (master, id) + [(master, request)].count (master, id) := by
      rw [reported_absorb, sent, List.count_append, Nat.add_zero]
    have reported := count_view_enter present counted other
    rw [ite_self, count_here] at reported
    rw [downstream, downstream, view_enter_of_eq present returned]
    omega
  · rw [dealt]
    rfl

/-- **A move of a worker is a shift.** -/
private theorem shift_move_worker (wired : pool.Wired violent)
    (founder : pool.founder = some master) (other : master ≠ node)
    (present : pool.stations.get? node = some old) {act : Act Engine}
    (move : Engine.Move old.engine act) (engine : Engine) :
    Shift violent master pool (pool.enter node (old.absorb act)) engine engine
      ((Effect.deals act.effects).map (node, ·)) := by
  have fitted := wired.fitted node old present
  have worker : old.engine.scheduler.isMaster = false := by
    refine Bool.eq_false_iff.mpr fun master => other ?_
    have own := fitted.isMaster.mp master
    rw [founder] at own
    exact Option.some.inj own
  cases move.traffic fitted.orderly with
  | issues _ _ master | resolves _ _ _ _ master | stale _ _ master | closes _ master =>
    cases worker.symm.trans master
  | waits executes completions requests closed ids jobs queue sent deals =>
    obtain ⟨lost, split, _⟩ := completions
    exact shift_waits present executes ⟨lost, split, fun here => (other here.symm).elim⟩ sent rfl
      rfl rfl (Nat.le_refl _) (fun _ member => .inl member)
      fun deal member => ⟨other.symm, (deals deal member).2⟩
  | runs source request executes completions requests closed ids jobs queue unasked sent deals =>
    have own := fitted.asked (source, request) (executes.symm.subset List.mem_cons_self)
    rw [founder] at own
    cases own
    have accepts := fitted.orderly.linked move.alive
    rw [fitted.link, accepts] at sent
    exact shift_runs present move.alive executes completions unasked sent rfl rfl rfl rfl rfl deals

/-- **A move of the master is a shift.** -/
private theorem shift_move_master (wired : pool.Wired violent)
    (founder : pool.founder = some master) (present : pool.stations.get? master = some old)
    {act : Act Engine} (move : Engine.Move old.engine act) :
    Shift violent master pool (pool.enter master (old.absorb act)) old.engine act.value
      ((Effect.deals act.effects).map (master, ·)) := by
  have fitted := wired.fitted master old present
  have isMaster : old.engine.scheduler.isMaster = true := fitted.isMaster.mpr founder
  -- A move that sends nothing leaves both links as they are.
  have silent : Effect.accepted act.effects = [] →
      (old.absorb act).asked = old.asked ∧ (old.absorb act).reported = old.reported := by
    intro sent
    rw [asked_absorb, reported_absorb, sent]
    exact ⟨List.append_nil _, List.append_nil _⟩
  cases move.traffic fitted.orderly with
  | waits executes completions requests closed ids jobs queue sent deals =>
    obtain ⟨lost, split, kept⟩ := completions
    refine shift_waits present executes ⟨lost, split, fun _ => kept isMaster⟩ sent requests closed
      ids jobs queue fun deal member => ?_
    cases isMaster.symm.trans (deals deal member).1
  | issues worker submission _ executes completions requests closed registered ids jobs queue sent
      unreported deals =>
    have pending : (old.absorb act).pending = old.pending := executes
    have returned : (old.absorb act).returned = old.returned := completions
    have reported : (old.absorb act).reported = old.reported := by
      rw [reported_absorb, unreported, List.append_nil]
    refine .issues worker submission (fun other request => ?_)
      (downstream_enter_of_eq present reported returned master) (congrFun requests) closed
      registered ids jobs queue (by rw [deals]; rfl)
    have counted : (old.absorb act).asked.count (other, request) ≤
        old.asked.count (other, request) +
          [(worker, old.engine.ledger.requestIds.next)].count (other, request) := by
      rw [asked_absorb, List.count_append]
      rcases sent with asking | refused
      · exact Nat.le_of_eq (by rw [asking])
      · rw [refused]
        exact Nat.add_le_add_left (Nat.zero_le _) _
    have asked := count_view_enter_le present counted master
    rw [if_pos rfl, count_pair] at asked
    rw [upstream, upstream, view_enter_of_eq present pending]
    omega
  | resolves worker struck before later _ executes completions listed requests closed ids jobs queue
      sent deals =>
    obtain ⟨asked, reported⟩ := silent sent
    refine .resolves worker struck before later (upstream_enter_of_eq present asked executes master)
      (fun other request => ?_) listed (congrFun requests) closed ids jobs queue
      (by rw [deals]; rfl)
    have counted : (old.absorb act).returned.count (other, request) +
        [(worker, struck.id)].count (other, request) = old.returned.count (other, request) + 0 := by
      rw [Nat.add_comm, ← List.count_append]
      exact (completions.count_eq _).symm
    have returned := count_view_enter present counted master
    rw [if_pos rfl, if_pos rfl, count_pair] at returned
    rw [downstream, downstream, view_enter_of_eq present reported, Nat.add_assoc, returned,
      Nat.add_zero]
  | stale worker request _ executes completions sent missing =>
    exact .stale worker request (completions.symm.subset List.mem_cons_self) missing
  | closes worker _ heard executes unread completions requests closed ids jobs queue sent deals =>
    obtain ⟨asked, reported⟩ := silent sent
    exact .closes worker move.alive heard unread
      (upstream_enter_of_eq present asked executes master)
      (downstream_enter_of_eq present reported completions master) (congrFun requests)
      (congrFun closed) ids jobs queue (by rw [deals]; rfl)
  | runs source request executes completions requests closed ids jobs queue unasked sent deals =>
    have own := fitted.asked (source, request) (executes.symm.subset List.mem_cons_self)
    rw [founder] at own
    cases own
    have accepts := fitted.orderly.linked move.alive
    rw [fitted.link, accepts] at sent
    exact shift_runs present move.alive executes completions unasked sent requests closed ids jobs
      queue deals

/-- What a step means for the engine of the master: another state of it, the course of the pool and
the shift of the requests. -/
private def Seen (violent : Bool) (master : NodeId) (pool next : Pool) (engine : Engine)
    (done : List (NodeId × Deal)) : Prop :=
  ∃ station, next.stations.get? master = some station ∧
    Course pool next engine station.engine ∧
    Shift violent master pool next engine station.engine done

private theorem seen_move (wired : pool.Wired violent) (founder : pool.founder = some master)
    (present : pool.stations.get? node = some old)
    (there : pool.stations.get? master = some home) {act : Act Engine}
    (move : Engine.Move old.engine act) :
    Seen violent master pool (pool.enter node (old.absorb act)) home.engine
      (deals (act.effects.map (.engine node))) := by
  have fitted := wired.fitted node old present
  have departures := (move.frame fitted.orderly).departures
  have completions := (move.traffic fitted.orderly).completions_subset
  obtain ⟨station, found, course, place⟩ := @Course.enter pool node master old (old.absorb act) home
    present there (fun gone => by cases move.alive.symm.trans gone)
    (fun other heard => .inl (departures other heard))
    (fun worker request waiting => .inl (completions waiting))
  rw [deals_engine]
  refine ⟨station, found, course, ?_⟩
  rcases place with ⟨rfl, rfl, rfl⟩ | ⟨other, rfl⟩
  · exact shift_move_master wired founder present move
  · exact shift_move_worker wired founder other present move _

end Moves

section Mailboxes

variable {violent : Bool} {pool next : Pool} {master : NodeId} {home station : Station}
  {engine after : Engine} {done : List (NodeId × Deal)}

/-- The engine has other news and the same books. -/
private structure Unmoved (engine after : Engine) : Prop where
  ledger : after.ledger = engine.ledger
  scheduler : after.scheduler = engine.scheduler
  jobIds : after.jobIds = engine.jobIds
  isGone : after.isGone = engine.isGone

/-- A step that leaves the books of the master alone. -/
private theorem shift_unmoved (unmoved : Unmoved engine after) (silent : done = [])
    (upstream : ∀ worker request,
      next.upstream master worker request ≤ pool.upstream master worker request)
    (downstream : ∀ worker request,
      next.downstream master worker request ≤ pool.downstream master worker request ∧
      (violent = false → engine.isGone = false →
        pool.downstream master worker request ≤ next.downstream master worker request)) :
    Shift violent master pool next engine after done := by
  refine .waits upstream ?_ (by rw [unmoved.ledger]) (by rw [unmoved.ledger])
    (by rw [unmoved.ledger]) (Nat.le_of_eq (by rw [unmoved.jobIds])) ?_ ?_
  · intro worker request
    obtain ⟨fewer, kept⟩ := downstream worker request
    exact ⟨fewer, fun calm alive => kept calm (unmoved.isGone.symm.trans alive)⟩
  · intro submission queued
    rw [unmoved.scheduler] at queued
    exact .inl queued
  · intro deal member
    rw [silent] at member
    cases member

private theorem unmoved_receive (station : Station) (event : Event) :
    Unmoved station.engine (station.receive event).engine := by
  unfold Station.receive
  split
  · exact ⟨rfl, rfl, rfl, rfl⟩
  · exact ⟨rfl, rfl, rfl, rfl⟩

/-- An event reaches a mailbox, seen from the engine of the master. -/
private theorem course_post (there : pool.stations.get? master = some home) (node : NodeId)
    {event : Event} (heard : ∀ other, Engine.departure? event = some other → pool.Departed other)
    (came : ∀ letter, Engine.letter? event = some letter → letter.1 ∈ pool.members) :
    ∃ station, (pool.post node event).value.stations.get? master = some station ∧
      Course pool (pool.post node event).value home.engine station.engine ∧
      Unmoved home.engine station.engine := by
  rcases pool.post_cases node event with ⟨_, same⟩ | ⟨old, present, same⟩
  · rw [same]
    exact ⟨home, there, .refl pool _, rfl, rfl, rfl, rfl⟩
  · have departures : ∀ other ∈ (old.receive event).engine.departures,
        other ∈ old.engine.departures ∨ pool.Departed other := by
      unfold Station.receive
      split
      · exact fun other waiting => .inl waiting
      · exact fun other waiting =>
          (old.engine.departures_arrive event other waiting).imp_right (heard other)
    have completions : ∀ worker request,
        (worker, request) ∈ (old.receive event).engine.completions →
          (worker, request) ∈ old.engine.completions ∨ worker ∈ pool.members := by
      unfold Station.receive
      split
      · exact fun worker request waiting => .inl waiting
      · intro worker request waiting
        have arrived := (old.engine.completions_arrive event).subset waiting
        refine (List.mem_append.mp arrived).symm.imp_right fun new => ?_
        obtain ⟨letter, brought, sender⟩ := exists_of_mem_reports new
        replace sender : letter.1 = worker := sender
        exact sender ▸ came letter (Option.mem_toList.mp brought)
    obtain ⟨station, found, course, place⟩ := Course.enter present there
      (fun gone => (old.isGone_receive event).trans gone) departures completions
    rw [same]
    refine ⟨station, found, course, ?_⟩
    rcases place with ⟨_, rfl, rfl⟩ | ⟨_, rfl⟩
    · exact unmoved_receive home event
    · exact ⟨rfl, rfl, rfl, rfl⟩

/-- A node hears of something. -/
private theorem seen_notify (there : pool.stations.get? master = some home) (node : NodeId)
    {event : Event} (notice : pool.Notice event) :
    Seen violent master pool (pool.post node event).value home.engine
      (deals (pool.post node event).effects) := by
  obtain ⟨station, found, course, unmoved⟩ :=
    course_post there node notice.departed fun letter came => by
      cases notice.plain.symm.trans came
  refine ⟨station, found, course, shift_unmoved unmoved (deals_post ..) ?_ ?_⟩
  · intro worker request
    have bound := upstream_post pool node event master worker request
    rw [notice.plain] at bound
    simpa [asks] using bound
  · intro worker request
    obtain ⟨most, least⟩ := downstream_post there node event worker request
    rw [notice.plain] at most least
    simp only [Option.toList, reports, List.filterMap_nil, List.count_nil, ite_self] at most least
    exact ⟨most, fun _ alive => least alive⟩

/-- A link without its oldest message, seen from the engine of the master. -/
private theorem course_pop {source : NodeId} {rest : List Letter}
    (there : pool.stations.get? master = some home)
    (present : pool.stations.get? source = some station) :
    ∃ after, (pool.pop source station rest).stations.get? master = some after ∧
      Course pool (pool.pop source station rest) home.engine after.engine ∧
      after.engine = home.engine := by
  obtain ⟨after, found, course, place⟩ := @Course.enter pool source master station
    { station with outbound := rest } home present there (fun gone => gone)
    (fun other heard => .inl heard) (fun worker request waiting => .inl waiting)
  refine ⟨after, found, course, ?_⟩
  rcases place with ⟨_, rfl, rfl⟩ | ⟨_, rfl⟩
  · rfl
  · rfl

private theorem seen_deliver {source destination : NodeId} {payload : Payload} {rest : List Letter}
    (there : pool.stations.get? master = some home)
    (present : pool.stations.get? source = some station)
    (oldest : station.outbound = (destination, payload) :: rest)
    (sender : source ∈ pool.members) :
    let act := (pool.pop source station rest).post destination (.message ⟨source, payload⟩)
    Seen violent master pool act.value home.engine (deals act.effects) := by
  intro act
  obtain ⟨popped, found, first, same⟩ := @course_pop pool master home station source rest there
    present
  obtain ⟨last, arrived, second, unmoved⟩ := @course_post _ _ _ found destination
    (.message ⟨source, payload⟩) nofun fun letter came => by
      cases came
      exact sender
  rw [same] at first second unmoved
  refine ⟨last, arrived, first.trans (alike_enter present _) second,
    shift_unmoved unmoved (deals_post ..) ?_ ?_⟩
  · intro worker request
    have before := upstream_pop present oldest master worker request
    have turned := asks_turned source destination payload master worker request
    have later : act.value.upstream master worker request ≤
        (pool.pop source station rest).upstream master worker request +
          if worker = destination then (asks [(source, payload)]).count (master, request) else 0 :=
      upstream_post ..
    omega
  · intro worker request
    have before := downstream_pop present oldest master worker request
    have turned := reports_turned source destination payload master worker request
    obtain ⟨most, least⟩ : let more :=
        if master = destination then (reports [(source, payload)]).count (worker, request) else 0
      act.value.downstream master worker request ≤
          (pool.pop source station rest).downstream master worker request + more ∧
        (popped.engine.isGone = false →
          (pool.pop source station rest).downstream master worker request + more ≤
            act.value.downstream master worker request) := downstream_post found ..
    rw [same] at least
    refine ⟨by omega, fun _ alive => ?_⟩
    have kept := least alive
    omega

/-- Without force no completion is lost on its way to a master that is not gone. -/
private theorem seen_lose (wired : pool.Wired violent) {source destination : NodeId}
    {payload : Payload} {rest : List Letter} (there : pool.stations.get? master = some home)
    (present : pool.stations.get? source = some station)
    (oldest : station.outbound = (destination, payload) :: rest)
    (out : source ∉ pool.members ∨ destination ∉ pool.members) :
    Seen violent master pool (pool.pop source station rest) home.engine [] := by
  obtain ⟨popped, found, course, same⟩ := @course_pop pool master home station source rest there
    present
  refine ⟨popped, found, course, shift_unmoved (same ▸ ⟨rfl, rfl, rfl, rfl⟩) rfl
    (fun worker request => ?_) (fun worker request => ⟨?_, fun calm alive => ?_⟩)⟩
  · have total := upstream_pop present oldest master worker request
    omega
  · have total := downstream_pop present oldest master worker request
    omega
  · have total := downstream_pop present oldest master worker request
    rcases out with left | left
    · cases oldest.symm.trans (wired.calm calm source station present left).2
    · have other : master ≠ destination := by
        rintro rfl
        cases alive.symm.trans (wired.calm calm master home there left).1
      have turned := reports_turned source destination payload master worker request
      rw [if_neg other] at turned
      omega

/-- Nodes are out that were members. -/
private theorem course_members (pool : Pool) {members : List NodeId}
    (fewer : members ⊆ pool.members) (flag : Bool) (engine : Engine) :
    Course pool { pool with members := members, founderDeparted := flag } engine engine :=
  ⟨fun _ out => ⟨fun member => out.1 (fewer member), out.2⟩, fun _ gone => gone, fun gone => gone,
    fun _ heard => .inl heard, fun _ _ waiting => .inl waiting⟩

private theorem seen_expel {members : List NodeId} {flag : Bool}
    (there : pool.stations.get? master = some home) (fewer : members ⊆ pool.members) :
    Seen violent master pool { pool with members := members, founderDeparted := flag } home.engine
      [] :=
  ⟨home, there, course_members pool fewer flag _, shift_unmoved ⟨rfl, rfl, rfl, rfl⟩ rfl
    (fun _ _ => Nat.le_refl _) fun _ _ => ⟨Nat.le_refl _, fun _ _ => Nat.le_refl _⟩⟩

private theorem seen_retire {node : NodeId} (there : pool.stations.get? master = some home)
    (present : pool.stations.get? node = some station) (flag : Bool) :
    Seen violent master pool { pool.enter node { station with drained := true } with
      members := pool.members.erase node, founderDeparted := flag } home.engine [] := by
  obtain ⟨after, found, course, place⟩ := @Course.enter pool node master station
    { station with drained := true } home present there (fun gone => gone)
    (fun other heard => .inl heard) (fun worker request waiting => .inl waiting)
  have same : after.engine = home.engine := by
    rcases place with ⟨_, rfl, rfl⟩ | ⟨_, rfl⟩
    · rfl
    · rfl
  have fewer := course_members (pool.enter node { station with drained := true })
    (List.erase_subset : pool.members.erase node ⊆ pool.members) flag after.engine
  refine ⟨after, found, course.trans (alike_enter present _) fewer,
    shift_unmoved (same ▸ ⟨rfl, rfl, rfl, rfl⟩) rfl ?_ ?_⟩
  · intro worker request
    have total := @upstream_enter_of_eq pool node station { station with drained := true } present
      rfl rfl master worker request
    exact Nat.le_of_eq total
  · intro worker request
    have total := @downstream_enter_of_eq pool node station { station with drained := true } present
      rfl rfl master worker request
    exact ⟨Nat.le_of_eq total, fun _ _ => Nat.le_of_eq total.symm⟩

private theorem seen_found (wired : pool.Wired violent) (options : Options) {node : NodeId}
    {nodeIds : IdSource} (taken : pool.nodeIds.take = some (node, nodeIds))
    (there : pool.stations.get? master = some home) :
    Seen violent master pool (pool.found options node nodeIds) home.engine [] := by
  have fresh : pool.stations.get? node = none := by
    cases present : pool.stations.get? node with
    | none => rfl
    | some station =>
      have earlier := wired.numbered node station present
      rw [(IdSource.take_next taken).1] at earlier
      exact (Nat.lt_irrefl _ earlier).elim
  have elsewhere : ∀ other station, pool.stations.get? other = some station →
      (pool.found options node nodeIds).stations.get? other = some station := by
    intro other station present
    have differs : other ≠ node := fun here => by
      rw [here, fresh] at present
      cases present
    rw [get?_found, if_neg differs, present]
  have views : ∀ other (look : Station → List (NodeId × RequestId)),
      look { engine := .create options node (pool.founder.getD node) {} } = [] →
      (pool.found options node nodeIds).view other look = pool.view other look := by
    intro other look none
    rw [view_found]
    by_cases here : other = node
    · rw [if_pos here, none, here, view, fresh]
      rfl
    · rw [if_neg here]
  refine ⟨home, elsewhere master home there, ⟨fun other out => ⟨fun member => ?_, ?_⟩,
    fun other out => out.imp fun station found => ⟨elsewhere other station found.1, found.2⟩,
    fun gone => gone, fun _ heard => .inl heard, fun _ _ waiting => .inl waiting⟩,
    shift_unmoved ⟨rfl, rfl, rfl, rfl⟩ rfl (fun worker request => ?_) (fun worker request => ?_)⟩
  · rcases List.mem_append.mp member with earlier | last
    · exact out.1 earlier
    · have there := out.2
      rw [List.mem_singleton.mp last, fresh] at there
      cases there
  · obtain ⟨station, present⟩ := Option.isSome_iff_exists.mp out.2
    rw [elsewhere other station present]
    rfl
  · exact Nat.le_of_eq (by rw [upstream, upstream, views _ _ rfl, views _ _ rfl])
  · rw [downstream, downstream, views _ _ rfl, views _ _ rfl]
    exact ⟨Nat.le_refl _, fun _ _ => Nat.le_refl _⟩

end Mailboxes

/-- **Every step of a wired pool with a master is one of the six shifts.** -/
theorem Step.shift {violent : Bool} {pool : Pool} {master : NodeId} {home : Station}
    {act : PoolAct Pool} (wired : pool.Wired violent) (founder : pool.founder = some master)
    (there : pool.stations.get? master = some home) (step : Step violent pool act) :
    Seen violent master pool act.value home.engine (deals act.effects) := by
  cases step with
  | move present move => exact seen_move wired founder present there move
  | notify notice => exact seen_notify there _ notice
  | deliver present oldest sender receiver => exact seen_deliver there present oldest sender
  | lose present oldest out => exact seen_lose wired there present oldest out
  | retire present empty closed => exact seen_retire there present _
  | expel allowed fewer => exact seen_expel there fewer.subset
  | launch taken => exact seen_found wired _ taken there
  | adjust =>
    rw [deals_log]
    exact ⟨home, there, ⟨fun _ out => out, fun _ gone => gone, fun gone => gone,
      fun _ heard => .inl heard, fun _ _ waiting => .inl waiting⟩,
      shift_unmoved ⟨rfl, rfl, rfl, rfl⟩ rfl (fun _ _ => Nat.le_refl _)
        fun _ _ => ⟨Nat.le_refl _, fun _ _ => Nat.le_refl _⟩⟩

/-! ### Runs -/

/-- The first node stays the master for good. -/
private theorem Step.founder {violent : Bool} {pool : Pool} {master : NodeId} {act : PoolAct Pool}
    (step : Step violent pool act) (founder : pool.founder = some master) :
    act.value.founder = some master := by
  have posted : ∀ (state : Pool) node event,
      (state.post node event).value.founder = state.founder := by
    intro state node event
    rcases state.post_cases node event with ⟨_, same⟩ | ⟨_, _, same⟩
    · rw [same]
    · rw [same]
      rfl
  cases step with
  | move _ _ | lose _ _ _ | retire _ _ _ | expel _ _ | adjust => exact founder
  | notify _ => exact (posted _ _ _).trans founder
  | deliver _ _ _ _ => exact (posted _ _ _).trans founder
  | launch _ => exact founder_found founder _ _ _

/-- Before the first launch nothing is done, and the first node starts with nothing on its way. -/
private theorem Step.first {violent : Bool} {pool : Pool} {act : PoolAct Pool}
    (wired : pool.Wired violent) (step : Step violent pool act) (unfounded : pool.founder = none) :
    deals act.effects = [] ∧ (act.value.founder = none ∨
      ∃ master options, act.value.founder = some master ∧
        act.value.stations.get? master = some { engine := .create options master master {} } ∧
        (∀ worker request, act.value.upstream master worker request = 0) ∧
        ∀ worker request, act.value.downstream master worker request = 0) := by
  have absent := wired.unfounded unfounded
  cases step with
  | move present _ | deliver present _ _ _ | lose present _ _ | retire present _ _ =>
    cases (absent _).symm.trans present
  | @notify node event notice =>
    rcases pool.post_cases node event with ⟨_, same⟩ | ⟨_, present, _⟩
    · rw [same]
      exact ⟨deals_post .., .inl unfounded⟩
    · cases (absent _).symm.trans present
  | expel _ _ => exact ⟨rfl, .inl unfounded⟩
  | adjust => exact ⟨deals_log _, .inl unfounded⟩
  | @launch options node nodeIds taken =>
    have views : ∀ other (look : Station → List (NodeId × RequestId)),
        look { engine := .create options node (pool.founder.getD node) {} } = [] →
        (pool.found options node nodeIds).view other look = [] := by
      intro other look none
      rw [view_found]
      by_cases here : other = node
      · rw [if_pos here, none]
      · rw [if_neg here, view, absent]
        rfl
    refine ⟨rfl, .inr ⟨node, options, ?_, ?_, ?_, ?_⟩⟩
    · show some (pool.founder.getD node) = some node
      rw [unfounded]
      rfl
    · refine (get?_found ..).trans ?_
      rw [if_pos rfl, unfounded]
      rfl
    · intro worker request
      show (pool.found options node nodeIds).upstream node worker request = 0
      rw [upstream, views _ _ rfl, views _ _ rfl]
      rfl
    · intro worker request
      show (pool.found options node nodeIds).downstream node worker request = 0
      rw [downstream, views _ _ rfl, views _ _ rfl]
      rfl

/-- **What every shift keeps, every run keeps**, from the launch of the master on. -/
theorem performAll_shifts {violent : Bool}
    {holds : NodeId → List (NodeId × Deal) → Pool → Engine → Prop}
    (begins : ∀ {master options pool},
      (∀ worker request, pool.upstream master worker request = 0) →
      (∀ worker request, pool.downstream master worker request = 0) →
      holds master [] pool (.create options master master {}))
    (keeps : ∀ {master done pool next home after new}, pool.Wired violent →
      pool.founder = some master → pool.stations.get? master = some home →
      holds master done pool home.engine → Course pool next home.engine after →
      Shift violent master pool next home.engine after new → holds master (done ++ new) next after)
    (actions : List Action)
    (allowed : ∀ action ∈ actions, action.isViolent = true → violent = true) :
    let act := performAll {} actions
    act.value.founder = none ∧ deals act.effects = [] ∨
      ∃ master station, act.value.founder = some master ∧
        act.value.stations.get? master = some station ∧
        holds master (deals act.effects) act.value station.engine := by
  intro act
  have kept := @performAll_keeps violent
    (fun history pool => pool.Wired violent ∧ (pool.founder = none → deals history = []) ∧
      ∀ master station, pool.founder = some master → pool.stations.get? master = some station →
        holds master (deals history) pool station.engine)
    ?_ ⟨wired_empty violent, fun _ => rfl, fun _ _ first _ => by cases first⟩ actions allowed
  · obtain ⟨wired, silent, held⟩ := kept
    cases first : act.value.founder with
    | none => exact .inl ⟨rfl, silent first⟩
    | some master =>
      obtain ⟨station, found⟩ := Option.isSome_iff_exists.mp (wired.founded master first)
      exact .inr ⟨master, station, rfl, found, held master station first found⟩
  · rintro history pool act ⟨wired, silent, held⟩ step
    rw [deals_append]
    cases first : pool.founder with
    | none =>
      rw [silent first]
      obtain ⟨quiet, unfounded | ⟨other, options, named, launched, up, down⟩⟩ :=
        step.first wired first
      · refine ⟨wired.step step, fun _ => quiet, fun master station founder _ => ?_⟩
        cases unfounded.symm.trans founder
      · refine ⟨wired.step step, fun unfounded => (by cases named.symm.trans unfounded),
          fun master station founder found => ?_⟩
        cases named.symm.trans founder
        cases launched.symm.trans found
        rw [quiet]
        exact begins up down
    | some other =>
      have named := step.founder first
      obtain ⟨home, there⟩ := Option.isSome_iff_exists.mp (wired.founded other first)
      obtain ⟨after, arrived, course, shift⟩ := step.shift wired first there
      refine ⟨wired.step step, fun unfounded => (by cases named.symm.trans unfounded),
        fun master station founder found => ?_⟩
      cases named.symm.trans founder
      cases arrived.symm.trans found
      exact keeps wired first there (held other home first there) course shift

end JobPool.Pool
