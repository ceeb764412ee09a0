/-
**Membership of a pool.**

The first node that is launched becomes the master and every later one a worker. Each change in the
membership is told to every member, and a new member is told about the others and about itself. A
node leaves when its link has delivered everything, or at once when it is killed; a terminated pool
has no members. A pool without its master takes no new nodes.

A new node is a member before its threads start. Where they cannot be started, its engine goes away
without a run, and the link that closes with the engine takes the node out.
-/

import JobPool.Pool.State

namespace JobPool.Pool

/-- Tells every member about a change. -/
def broadcast (pool : Pool) (change : MembershipEvent) : PoolAct Pool :=
  pool.members.foldlM (fun pool member => pool.post member (.membership change)) pool

/-- Takes a node out and tells the other members. Without the node among the members nothing
happens. -/
def remove (pool : Pool) (node : NodeId) : PoolAct Pool :=
  if pool.members.contains node then
    { pool with
      members := pool.members.erase node
      founderDeparted := pool.founderDeparted || pool.founder == some node }.broadcast
        (.departed node)
  else pure pool

/-- Lets two nodes know of each other. -/
def introduce (pool : Pool) (node member : NodeId) : PoolAct Pool := do
  let pool ← pool.post member (.membership (.joined node))
  pool.post node (.membership (.joined member))

/-- Adds a node, whose engine is about to begin its run. Its threads are taken to start. Where they do
not, `abort` follows. -/
def launch (pool : Pool) (options : Options) : PoolAct (Except Fault NodeId × Pool) := do
  if pool.terminated then return (.error .poolTerminated, pool)
  if pool.founderDeparted then return (.error .masterDeparted, pool)
  match pool.nodeIds.take with
  | none => return (.error (.idsExhausted .node), pool)
  | some (node, nodeIds) =>
    let master := pool.founder.getD node
    let others := pool.members
    let pool := { pool with
      stations := pool.stations.insert node { engine := .create options node master {} }
      members := others ++ [node]
      founder := some master
      nodeIds := nodeIds }
    let pool ← others.foldlM (fun pool member => pool.introduce node member) pool
    let pool ← pool.post node (.membership (.joined node))
    PoolAct.log .info s!"node {node} joined the local cluster with master {master}"
    return (.ok node, pool)

/-- Gives up a node whose threads could not be started. Whoever launched it gets a fault in place of
its identity, and no line tells that it has joined. This fault and this line are left out: nothing
in the pool depends on them. -/
def abort (pool : Pool) (node : NodeId) : PoolAct Pool := pool.change node Engine.abort

/-- Asks a node to stop. It leaves once its messages are delivered. -/
def leave (pool : Pool) (node : NodeId) : PoolAct (Except Fault Unit × Pool) := do
  if !pool.members.contains node then return (.error (.notMember node), pool)
  let pool ← pool.post node .shutdown
  return (.ok (), pool)

/-- Takes a node out at once, as if it had crashed. The node is told that it counts as dead. -/
def kill (pool : Pool) (node : NodeId) : PoolAct (Except Fault Unit × Pool) := do
  if !pool.members.contains node then return (.error (.notMember node), pool)
  let pool ← pool.remove node
  PoolAct.log .warn s!"node {node} killed"
  let pool ← pool.post node (.membership (.departed node))
  return (.ok (), pool)

/-- Stops every node without waiting for outstanding work. -/
def terminate (pool : Pool) : PoolAct Pool := do
  let pool ← { pool with terminated := true }.broadcast .poolTerminated
  return { pool with members := [] }

/-- Submits a job to a node. The ticket is the place of the submission among all. -/
def submit (pool : Pool) (node : NodeId) (job : Job) (input : Bytes) :
    PoolAct (Ticket × Pool) := do
  let ticket := pool.submissions
  let pool ← { pool with submissions := ticket + 1 }.post node (.submit ticket job input)
  return (ticket, pool)

/-- Declares to a node that no more jobs will be submitted. -/
def endSubmissions (pool : Pool) (node : NodeId) : PoolAct Pool := pool.post node .endSubmissions

/-- Lets jobs that block go on, now and from now on. -/
def openGate (pool : Pool) : Pool := { pool with gateOpen := true }

end JobPool.Pool
