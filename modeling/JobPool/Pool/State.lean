/-
**The state of a pool.**

A pool is a group of nodes in one process. Each node has an engine and a link. What an engine sends
waits in order on its own link until the link delivers it to the mailbox of another node; a link
that the engine has closed delivers the rest and then takes the node out of the pool. The members
are the nodes that have joined and not left; the first node is the master.

Jobs may block on something outside the pool. One gate stands for whatever it is: the pool carries
it along, and only what is outside opens it.

What happens in a pool is recorded by its effects: those of the engines under the name of their
node, and every event that is put into a mailbox.

* `Pool.post` is the only way into a mailbox;
* `Pool.change` is the only way to an engine, and `stations_change` says what it does.
-/

import JobPool.Engine.Run

namespace JobPool

/-- The engine and the link of a node. -/
structure Station where
  engine : Engine
  /-- The messages that the link has accepted and not delivered, the oldest first. -/
  outbound : List (NodeId × Payload) := []
  /-- The engine has closed the link. -/
  closed : Bool := false
  /-- The link has delivered everything and taken the node out of the pool. -/
  drained : Bool := false

/-- What happens in a pool. -/
inductive PoolEffect where
  /-- The pool itself wrote a line to the log. -/
  | log (record : LogRecord)
  /-- The engine of a node did something. -/
  | engine (node : NodeId) (effect : Effect)
  /-- An event was put into the mailbox of a node. -/
  | posted (node : NodeId) (event : Event)

/-- A result of what happens in a pool. -/
abbrev PoolAct := Traced PoolEffect

/-- Nodes that exchange messages in one process. -/
structure Pool where
  stations : Roster NodeId Station := .empty
  /-- The nodes that have joined and not left, in the order in which they joined. -/
  members : List NodeId := []
  /-- The first node that joined. -/
  founder : Option NodeId := none
  founderDeparted : Bool := false
  terminated : Bool := false
  nodeIds : IdSource := {}
  /-- The number of submissions so far. -/
  submissions : Nat := 0
  /-- Jobs that block may go on. -/
  gateOpen : Bool := false

/-- The messages that a link accepted, among some effects of its engine. -/
def Effect.accepted (effects : List Effect) : List (NodeId × Payload) :=
  effects.filterMap fun
    | .sent destination payload true => some (destination, payload)
    | _ => none

/-- The link was closed, or given up by an engine that could not go on, among some effects of its
engine. -/
def Effect.closes (effects : List Effect) : Bool :=
  effects.any fun
    | .linkClosed | .brokeDown _ => true
    | _ => false

/-- The station after something that its engine did. -/
def Station.absorb (station : Station) (act : Act Engine) : Station :=
  { station with
    engine := act.value
    outbound := station.outbound ++ Effect.accepted act.effects
    closed := station.closed || Effect.closes act.effects }

namespace PoolAct

/-- Writes one line to the log. -/
def log (level : LogLevel) (text : String) : PoolAct Unit := Traced.emit (.log ⟨level, text⟩)

end PoolAct

namespace Pool

/-! ## Views -/

/-- The master, as long as it is known to be in the pool. -/
def master? (pool : Pool) : Option NodeId := if pool.founderDeparted then none else pool.founder

def engine? (pool : Pool) (node : NodeId) : Option Engine :=
  (pool.stations.get? node).map Station.engine

/-- The report of a node whose run has ended. -/
def report? (pool : Pool) (node : NodeId) : Option Report :=
  match pool.engine? node with
  | none => none
  | some engine => if engine.stage = .finished then some engine.report else none

/-- The answers to submissions, among some effects. -/
def answers (effects : List PoolEffect) : List (Ticket × Answer) :=
  effects.filterMap fun
    | .engine _ (.answered ticket answer) => some (ticket, answer)
    | _ => none

/-! ## Changes of one node -/

/-- Lets the engine of a node do something. What it sends waits for delivery. -/
def change (pool : Pool) (node : NodeId) (action : Engine → Act Engine) : PoolAct Pool :=
  match pool.stations.get? node with
  | none => pure pool
  | some station =>
    let act := action station.engine
    ⟨{ pool with stations := pool.stations.insert node (station.absorb act) },
      act.effects.map (.engine node)⟩

/-- Only the station of the node changes. -/
theorem stations_change (pool : Pool) (node other : NodeId) (action : Engine → Act Engine) :
    (pool.change node action).value.stations.get? other =
      if other = node then
        (pool.stations.get? node).map fun station => station.absorb (action station.engine)
      else pool.stations.get? other := by
  unfold change
  split
  next absent =>
    split
    next same => simp [same, absent]
    next => rfl
  next station present =>
    rw [present]
    exact Roster.get?_insert _ _ _ _

@[simp] theorem members_change (pool : Pool) (node : NodeId) (action : Engine → Act Engine) :
    (pool.change node action).value.members = pool.members := by
  unfold change
  split <;> rfl

/-- Puts an event into the mailbox of a node. -/
def post (pool : Pool) (node : NodeId) (event : Event) : PoolAct Pool := do
  Traced.emit (.posted node event)
  pool.change node fun engine => engine.post event

@[simp] theorem members_post (pool : Pool) (node : NodeId) (event : Event) :
    (pool.post node event).value.members = pool.members :=
  members_change pool node _

end Pool

end JobPool
