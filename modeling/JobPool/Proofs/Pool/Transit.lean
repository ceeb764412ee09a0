/-
**What is on its way between the master and its workers.**

A request is upstream of a worker as long as it waits on the link of the master or at the worker,
and downstream once it was run, while its completion waits on the link of the worker or at the
master.

* `upstream`, `downstream` — how often a request is on its way to a worker and back;
* `count_view_enter` — what a station loses or gains, the pool loses or gains there;
* `upstream_pop`, `upstream_post` and their like — what links and mailboxes do to the totals.
-/

import JobPool.Proofs.Pool.Steps

namespace JobPool

namespace Station

/-- The requests on the link, each with its receiver. -/
def asked (station : Station) : List (NodeId × RequestId) := asks station.outbound

/-- The completions on the link, each with its receiver. -/
def reported (station : Station) : List (NodeId × RequestId) := reports station.outbound

/-- The requests that wait to be run, each with its sender. -/
def pending (station : Station) : List (NodeId × RequestId) := station.engine.executes

/-- The completions that wait to be handled, each with its sender. -/
def returned (station : Station) : List (NodeId × RequestId) := station.engine.completions

end Station

namespace Pool

/-! ### What is on its way -/

/-- What there is at a node, nothing if the node was never launched. -/
def view {α : Type} (pool : Pool) (node : NodeId) (look : Station → List α) : List α :=
  ((pool.stations.get? node).map look).getD []

/-- How often a request is on its way from the master to be run. -/
def upstream (pool : Pool) (master worker : NodeId) (request : RequestId) : Nat :=
  (pool.view master Station.asked).count (worker, request) +
    (pool.view worker Station.pending).count (master, request)

/-- How often a request is on its way back to the master. -/
def downstream (pool : Pool) (master worker : NodeId) (request : RequestId) : Nat :=
  (pool.view worker Station.reported).count (master, request) +
    (pool.view master Station.returned).count (worker, request)

section Views

variable {α : Type} {pool : Pool} {node : NodeId} {old new : Station} {look : Station → List α}

theorem view_of_get? (present : pool.stations.get? node = some old) :
    pool.view node look = look old := by
  rw [view, present]
  rfl

theorem view_of_absent (absent : pool.stations.get? node = none) : pool.view node look = [] := by
  rw [view, absent]
  rfl

theorem view_enter (pool : Pool) (node other : NodeId) (new : Station) (look : Station → List α) :
    (pool.enter node new).view other look =
      if other = node then look new else pool.view other look := by
  unfold view
  rw [get?_enter]
  by_cases here : other = node
  · rw [if_pos here, if_pos here]
    rfl
  · rw [if_neg here, if_neg here]

theorem view_found (pool : Pool) (options : Options) (node : NodeId) (nodeIds : IdSource)
    (other : NodeId) (look : Station → List α) :
    (pool.found options node nodeIds).view other look =
      if other = node then look { engine := .create options node (pool.founder.getD node) {} }
      else pool.view other look :=
  view_enter ..

/-- What a station keeps, the pool keeps. -/
theorem view_enter_of_eq (present : pool.stations.get? node = some old) (same : look new = look old)
    (other : NodeId) : (pool.enter node new).view other look = pool.view other look := by
  rw [view_enter]
  by_cases here : other = node
  · rw [if_pos here, here, view_of_get? present, same]
  · rw [if_neg here]

end Views

section Counts

variable {pool : Pool} {node : NodeId} {old new : Station}
  {look : Station → List (NodeId × RequestId)} {item : NodeId × RequestId}

/-- What a station loses or gains, the pool loses or gains there. -/
theorem count_view_enter (present : pool.stations.get? node = some old) {less more : Nat}
    (change : (look new).count item + less = (look old).count item + more) (other : NodeId) :
    ((pool.enter node new).view other look).count item + (if other = node then less else 0) =
      (pool.view other look).count item + if other = node then more else 0 := by
  rw [view_enter]
  by_cases here : other = node
  · rw [if_pos here, if_pos here, if_pos here, here, view_of_get? present, change]
  · rw [if_neg here, if_neg here, if_neg here]

theorem count_view_enter_le (present : pool.stations.get? node = some old) {more : Nat}
    (change : (look new).count item ≤ (look old).count item + more) (other : NodeId) :
    ((pool.enter node new).view other look).count item ≤
      (pool.view other look).count item + if other = node then more else 0 := by
  rw [view_enter]
  by_cases here : other = node
  · rw [if_pos here, if_pos here, here, view_of_get? present]
    exact change
  · rw [if_neg here, if_neg here]
    exact Nat.le_refl _

theorem le_count_view_enter (present : pool.stations.get? node = some old) {more : Nat}
    (change : (look old).count item + more ≤ (look new).count item) (other : NodeId) :
    ((pool.view other look).count item + if other = node then more else 0) ≤
      ((pool.enter node new).view other look).count item := by
  rw [view_enter]
  by_cases here : other = node
  · rw [if_pos here, if_pos here, here, view_of_get? present]
    exact change
  · rw [if_neg here, if_neg here]
    exact Nat.le_refl _

end Counts

section Totals

variable {pool : Pool} {node : NodeId} {old new : Station}

theorem upstream_enter_of_eq (present : pool.stations.get? node = some old)
    (asked : new.asked = old.asked) (pending : new.pending = old.pending)
    (master worker : NodeId) (request : RequestId) :
    (pool.enter node new).upstream master worker request =
      pool.upstream master worker request := by
  rw [upstream, upstream, view_enter_of_eq present asked, view_enter_of_eq present pending]

theorem downstream_enter_of_eq (present : pool.stations.get? node = some old)
    (reported : new.reported = old.reported) (returned : new.returned = old.returned)
    (master worker : NodeId) (request : RequestId) :
    (pool.enter node new).downstream master worker request =
      pool.downstream master worker request := by
  rw [downstream, downstream, view_enter_of_eq present reported, view_enter_of_eq present returned]

end Totals

/-! ### Links and mailboxes -/

section Links

variable {pool : Pool} {source : NodeId} {station : Station} {letter : Letter} {rest : List Letter}

/-- Without its oldest message a link has one request less, if that was one. -/
theorem upstream_pop (present : pool.stations.get? source = some station)
    (oldest : station.outbound = letter :: rest) (master worker : NodeId) (request : RequestId) :
    (pool.pop source station rest).upstream master worker request +
        (if master = source then (asks [letter]).count (worker, request) else 0) =
      pool.upstream master worker request := by
  have split : station.asked = asks [letter] ++ asks rest := by
    rw [Station.asked, oldest]
    exact asks_append [letter] rest
  have asked := @count_view_enter pool source station { station with outbound := rest }
    Station.asked (worker, request) present ((asks [letter]).count (worker, request)) 0
    (by rw [split, List.count_append]; exact Nat.add_comm _ _) master
  have pending := @view_enter_of_eq _ pool source station { station with outbound := rest }
    Station.pending present rfl worker
  unfold upstream pop
  rw [pending]
  rw [ite_self] at asked
  omega

theorem downstream_pop (present : pool.stations.get? source = some station)
    (oldest : station.outbound = letter :: rest) (master worker : NodeId) (request : RequestId) :
    (pool.pop source station rest).downstream master worker request +
        (if worker = source then (reports [letter]).count (master, request) else 0) =
      pool.downstream master worker request := by
  have split : station.reported = reports [letter] ++ reports rest := by
    rw [Station.reported, oldest]
    exact reports_append [letter] rest
  have reported := @count_view_enter pool source station { station with outbound := rest }
    Station.reported (master, request) present ((reports [letter]).count (master, request)) 0
    (by rw [split, List.count_append]; exact Nat.add_comm _ _) worker
  have returned := @view_enter_of_eq _ pool source station { station with outbound := rest }
    Station.returned present rfl master
  unfold downstream pop
  rw [returned]
  rw [ite_self] at reported
  omega

/-- How often one pair is another one. -/
theorem count_pair (node other : NodeId) (request id : RequestId) :
    [(node, request)].count (other, id) = if node = other ∧ request = id then 1 else 0 := by
  rw [List.count_singleton]
  simp only [beq_iff_eq, Prod.mk.injEq]

/-- What is at one node only, counted at every node. -/
theorem count_here (node other master : NodeId) (request id : RequestId) :
    (if other = node then [(master, request)].count (master, id) else 0) =
      if node = other ∧ request = id then 1 else 0 := by
  rw [count_pair]
  grind

/-- A letter is the same request at both ends of a link. -/
theorem asks_turned (source destination : NodeId) (payload : Payload) (master worker : NodeId)
    (request : RequestId) :
    (if worker = destination then (asks [(source, payload)]).count (master, request) else 0) =
      if master = source then (asks [(destination, payload)]).count (worker, request) else 0 := by
  cases payload with
  | execute other job input =>
    show (if worker = destination then [(source, other)].count (master, request) else 0) =
      if master = source then [(destination, other)].count (worker, request) else 0
    rw [count_pair, count_pair]
    grind
  | completed _ _ _ _ | register => simp [asks]

/-- A letter is the same completion at both ends of a link. -/
theorem reports_turned (source destination : NodeId) (payload : Payload) (master worker : NodeId)
    (request : RequestId) :
    (if master = destination then (reports [(source, payload)]).count (worker, request) else 0) =
      if worker = source then (reports [(destination, payload)]).count (master, request)
      else 0 := by
  cases payload with
  | completed other result failed seconds =>
    show (if master = destination then [(source, other)].count (worker, request) else 0) =
      if worker = source then [(destination, other)].count (master, request) else 0
    rw [count_pair, count_pair]
    grind
  | execute _ _ _ | register => simp [reports]

/-! A mailbox takes the letter of an event, unless its engine is gone. -/

variable {node : NodeId} {event : Event}

/-- A request that arrives waits to be run, unless the engine is gone. -/
private theorem pending_receive (station : Station) (event : Event)
    (item : NodeId × RequestId) :
    (station.receive event).pending.count item ≤
      station.pending.count item + (asks (Engine.letter? event).toList).count item := by
  have arrived := (station.engine.executes_arrive event).count_eq item
  rw [List.count_append, Nat.add_comm] at arrived
  unfold Station.receive
  split
  · exact Nat.le_add_right _ _
  · exact Nat.le_of_eq arrived

/-- A completion that arrives waits to be handled, unless the engine is gone. -/
private theorem returned_receive (station : Station) (event : Event)
    (item : NodeId × RequestId) :
    (station.receive event).returned.count item ≤
        station.returned.count item + (reports (Engine.letter? event).toList).count item ∧
      (station.engine.isGone = false → station.returned.count item +
        (reports (Engine.letter? event).toList).count item ≤
          (station.receive event).returned.count item) := by
  have arrived := (station.engine.completions_arrive event).count_eq item
  rw [List.count_append, Nat.add_comm] at arrived
  unfold Station.receive
  split
  next gone => exact ⟨Nat.le_add_right _ _, fun alive => by cases gone.symm.trans alive⟩
  next => exact ⟨Nat.le_of_eq arrived, fun _ => Nat.le_of_eq arrived.symm⟩

theorem upstream_post (pool : Pool) (node : NodeId) (event : Event) (master worker : NodeId)
    (request : RequestId) :
    (pool.post node event).value.upstream master worker request ≤
      pool.upstream master worker request +
        if worker = node then (asks (Engine.letter? event).toList).count (master, request)
        else 0 := by
  rcases pool.post_cases node event with ⟨absent, same⟩ | ⟨station, present, same⟩
  · rw [same]
    exact Nat.le_add_right _ _
  · have asked :=
      @view_enter_of_eq _ pool node station (station.receive event) Station.asked present
      (by rw [Station.asked, Station.outbound_receive]; rfl) master
    have pending := count_view_enter_le present
      (pending_receive station event (master, request)) worker
    unfold upstream
    rw [same, asked]
    omega

theorem downstream_post {master : NodeId} {home : Station}
    (there : pool.stations.get? master = some home) (node : NodeId) (event : Event)
    (worker : NodeId) (request : RequestId) :
    let more := if master = node then
      (reports (Engine.letter? event).toList).count (worker, request) else 0
    (pool.post node event).value.downstream master worker request ≤
        pool.downstream master worker request + more ∧
      (home.engine.isGone = false → pool.downstream master worker request + more ≤
        (pool.post node event).value.downstream master worker request) := by
  intro more
  rcases pool.post_cases node event with ⟨absent, same⟩ | ⟨station, present, same⟩
  · rw [same]
    refine ⟨Nat.le_add_right _ _, fun alive => ?_⟩
    have other : master ≠ node := fun here => by
      rw [here, absent] at there
      cases there
    have none : more = 0 := if_neg other
    rw [none]
    exact Nat.le_refl _
  · have reported := @view_enter_of_eq _ pool node station (station.receive event) Station.reported
      present (by rw [Station.reported, Station.outbound_receive]; rfl) worker
    obtain ⟨most, least⟩ := returned_receive station event (worker, request)
    have above := count_view_enter_le present most master
    unfold downstream
    rw [same, reported]
    refine ⟨by omega, fun alive => ?_⟩
    by_cases here : master = node
    · rw [here, present] at there
      cases there
      have below := le_count_view_enter present (least alive) master
      omega
    · have none : more = 0 := if_neg here
      rw [view_enter, if_neg here, none]
      exact Nat.le_refl _

end Links

end Pool

end JobPool
