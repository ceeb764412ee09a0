/-
**The run of a pool.**

The engines and the links of a pool work side by side. `Pool.Action` lists all that can happen next,
and a run of a pool is any sequence of actions that are performed one after the other. Messages
travel only through `Pool.carry`: a link delivers its oldest message, unless the sender has left the
pool or the receiver is not a member, and after the last message of a closed link the node leaves.

`Pool.settle` is one such sequence. It works in rounds, in which every engine takes a step and
every link delivers a message, until the pool is quiet.
-/

import JobPool.Pool.Membership

namespace JobPool

namespace Station

/-- The link has something to deliver, or its node to take out. -/
def isLinkBusy (station : Station) : Bool :=
  !station.outbound.isEmpty || (station.closed && !station.drained)

/-- What is left to do at a node, counted generously. -/
def load (station : Station) : Nat :=
  station.engine.unhandled + station.engine.undone + station.engine.ledger.outstanding +
    station.outbound.length + 1

end Station

namespace Pool

/-! ## Delivery -/

/-- Hands a message to its receiver, if both ends are members. -/
def deliver (pool : Pool) (source destination : NodeId) (payload : Payload) : PoolAct Pool := do
  if !pool.members.contains source then
    PoolAct.log .debug s!"dropping {payload.name} message from departed node {source}"
    return pool
  if !pool.members.contains destination then
    PoolAct.log .warn
      s!"dropping {payload.name} message from node {source} to unknown node {destination}"
    return pool
  pool.post destination (.message ⟨source, payload⟩)

/-- The link of a node has delivered everything, and the node leaves. -/
def depart (pool : Pool) (node : NodeId) : PoolAct Pool := do
  if !pool.members.contains node then return pool
  let pool ← pool.remove node
  PoolAct.log .info s!"node {node} left the local cluster"
  return pool

/-- Lets the link of a node deliver its oldest message, or take the node out after the last one. -/
def carry (pool : Pool) (node : NodeId) : PoolAct Pool :=
  match pool.stations.get? node with
  | none => pure pool
  | some station =>
    match station.outbound with
    | (destination, payload) :: rest =>
      { pool with
        stations := pool.stations.insert node { station with outbound := rest } }.deliver
          node destination payload
    | [] =>
      if station.closed && !station.drained then
        { pool with
          stations := pool.stations.insert node { station with drained := true } }.depart node
      else pure pool

/-! ## Actions -/

/-- What can happen to a pool next. -/
inductive Action where
  | launch (options : Options)
  /-- The threads of the node, which was launched before, could not be started. -/
  | abort (node : NodeId)
  | leave (node : NodeId)
  | kill (node : NodeId)
  | terminate
  | submit (node : NodeId) (job : Job) (input : Bytes)
  | endSubmissions (node : NodeId)
  /-- Something outside the pool lets jobs that block go on. -/
  | openGate
  /-- The engine of the node takes its next step. -/
  | advance (node : NodeId)
  /-- The engine of the node has waited for the whole sleep interval. -/
  | timeOut (node : NodeId)
  /-- The link of the node delivers a message or takes the node out. -/
  | carry (node : NodeId)

/-- The pool after an action. -/
def perform (pool : Pool) : Action → PoolAct Pool
  | .launch options => return (← pool.launch options).2
  | .abort node => pool.abort node
  | .leave node => return (← pool.leave node).2
  | .kill node => return (← pool.kill node).2
  | .terminate => pool.terminate
  | .submit node job input => return (← pool.submit node job input).2
  | .endSubmissions node => pool.endSubmissions node
  | .openGate => return pool.openGate
  | .advance node => pool.change node fun engine => engine.advance pool.gateOpen
  | .timeOut node => pool.change node Engine.timeOut
  | .carry node => pool.carry node

/-- The pool after a sequence of actions. -/
def performAll (pool : Pool) (actions : List Action) : PoolAct Pool := actions.foldlM perform pool

/-! ## Rounds -/

/-- Nothing is left that an engine or a link can do by itself. -/
def isQuiet (pool : Pool) : Bool :=
  pool.stations.values.all fun station =>
    !station.engine.isReady pool.gateOpen && !station.isLinkBusy

/-- The actions of one round: every engine takes a step and every link delivers a message. -/
def roundActions (pool : Pool) : List Action :=
  pool.stations.keys.flatMap fun node => [.advance node, .carry node]

/-- More rounds than the engines and the links need to fall quiet. -/
def roundBound (pool : Pool) : Nat :=
  let nodes := pool.stations.size + 1
  16 * nodes * (nodes + pool.stations.values.foldr (fun station sum => station.load + sum) 0)

/-- Lets the engines and the links work for at most so many rounds. -/
def settleWithin (pool : Pool) : Nat → PoolAct Pool
  | 0 => pure pool
  | rounds + 1 =>
    if pool.isQuiet then pure pool
    else do
      let pool ← pool.performAll pool.roundActions
      pool.settleWithin rounds

/-- Lets the engines and the links work until the pool is quiet. -/
def settle (pool : Pool) : PoolAct Pool := pool.settleWithin pool.roundBound

end Pool

end JobPool
