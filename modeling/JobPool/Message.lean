/-
**Messages, membership and events.**

Nodes exchange three kinds of message: the master asks a worker to run a job, the worker reports its
completion, and a worker registers with the master once. Every node is told about changes in the
membership of the pool. All that reaches an engine from outside is an event in its mailbox.
-/

import JobPool.Fault
import JobPool.Outcome

namespace JobPool

/-- What a message says. -/
inductive Payload where
  /-- The master asks for a job to be run. -/
  | execute (request : RequestId) (job : Job) (input : Bytes)
  /-- A worker has run a job. The result is empty when the job failed. -/
  | completed (request : RequestId) (result : Bytes) (failed : Bool) (seconds : Float)
  /-- A worker is ready. -/
  | register

def Payload.name : Payload → String
  | execute .. => "execute request"
  | completed .. => "completed"
  | register => "register worker"

/-- A payload with the node that sent it. -/
structure Message where
  source : NodeId
  payload : Payload

/-- A change in the membership of the pool, as one node observes it. -/
inductive MembershipEvent where
  | joined (node : NodeId)
  /-- The node left or was declared dead. -/
  | departed (node : NodeId)
  | poolTerminated
  deriving DecidableEq, Repr

/-- The place of a submission among all that one engine was given. -/
abbrev Ticket := Nat

/-- What a submitter is told. -/
abbrev Answer := Except Fault Outcome

/-- What reaches an engine from outside. -/
inductive Event where
  | message (message : Message)
  | membership (event : MembershipEvent)
  | submit (ticket : Ticket) (job : Job) (input : Bytes)
  | endSubmissions
  | shutdown

end JobPool
