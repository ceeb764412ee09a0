/-
**Faults of a running pool.**

Each fault is a cause. Its kind and its words follow from the cause, and its message is the lead of
the kind followed by the words.
-/

import JobPool.Identity
import JobPool.Settings.Fault

namespace JobPool

/-- The kinds of fault that a caller can tell apart. -/
inductive FaultKind where
  | settings
  | system
  | invalidArgument
  | transport
  | internal
  deriving DecidableEq, Repr

/-- The words with which the message of a kind begins. -/
def FaultKind.lead : FaultKind → String
  | settings => "error in common: "
  | system => "IO error: "
  | invalidArgument => "invalid argument: "
  | transport => "transport error: "
  | internal => "internal error: "

/-- Why an operation of the pool failed. -/
inductive Fault where
  | settings (fault : SettingsFault)
  | submittedToWorker (job : JobId)
  | submissionsEnded
  | poolTerminated
  | masterDeparted
  | notMember (node : NodeId)
  | noWorkers
  | slowdownOutOfRange (factor limit : Float)
  | notRegistered (worker : NodeId)
  | idsExhausted (kind : IdKind)
  | engineStopped
  | noReport
  | channelClosed
  /-- A fault stated in its own words. -/
  | stated (kind : FaultKind) (detail : String)

namespace Fault

def kind : Fault → FaultKind
  | settings _ => .settings
  | submittedToWorker _ | submissionsEnded | poolTerminated | masterDeparted | notMember _
  | noWorkers | slowdownOutOfRange .. => .invalidArgument
  | notRegistered _ | idsExhausted _ | engineStopped | noReport | channelClosed => .internal
  | stated kind _ => kind

/-- The words after the lead of the kind. -/
def detail : Fault → String
  | settings fault => fault.message
  | submittedToWorker job => s!"cannot submit job {job} to a worker node"
  | submissionsEnded => "submissions have ended"
  | poolTerminated => "the local cluster has been terminated"
  | masterDeparted => "the master of the local cluster has departed"
  | notMember node => s!"node {node} is not a member of the local cluster"
  | noWorkers => "at least one worker is required"
  | slowdownOutOfRange factor limit =>
    s!"slowdown factor {Decimal.plain factor} is not in the range [0, {Decimal.plain limit}]"
  | notRegistered worker => s!"worker {worker} is not registered"
  | idsExhausted kind => s!"{kind.name} ID overflow"
  | engineStopped => "the engine stopped before the job completed"
  | noReport => "the master stopped without a report"
  | channelClosed => "channel closed"
  | stated _ detail => detail

def message (fault : Fault) : String := fault.kind.lead ++ fault.detail

end Fault

end JobPool
