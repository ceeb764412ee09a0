/-
**The ledger of outstanding requests.**

A request is a job that was dispatched to a worker and whose completion has not been handled yet.
Each registered worker has an account with its requests in the order of their issue; a departed
worker keeps a closed account, so that its identity never comes back. The ledger also counts all
outstanding requests.

* `Ledger.register` opens an account, `Ledger.close` closes one;
* `Ledger.issue` enters a request under a fresh identity, or hands the job back;
* `Ledger.resolve` strikes a request when its completion arrives. Stale and repeated completions
  leave the ledger as it is.
-/

import JobPool.Roster
import JobPool.Trace

namespace JobPool

/-- A job that a worker has been asked to run. -/
structure Request where
  id : RequestId
  submission : Submission

/-- What the ledger knows about a worker. -/
inductive Account where
  | active (requests : List Request)
  /-- The worker has departed. The account is kept to refuse late registrations. -/
  | closed

/-- The requests that an account holds. -/
def Account.size : Account → Nat
  | .active requests => requests.length
  | .closed => 0

/-- A job that could not be entered, with the reason. -/
structure Rejection where
  submission : Submission
  fault : Fault

/-- All accounts in the order in which their workers were first entered. -/
structure Ledger where
  accounts : Roster NodeId Account := .empty
  /-- The number of requests in all accounts. -/
  outstanding : Nat := 0
  requestIds : IdSource := {}

namespace Ledger

/-! ## Views -/

/-- The requests of a worker in the order of their issue, none without an active account. -/
def requests (ledger : Ledger) (worker : NodeId) : List Request :=
  match ledger.accounts.get? worker with
  | some (.active requests) => requests
  | some .closed | none => []

def outstandingOn (ledger : Ledger) (worker : NodeId) : Nat := (ledger.requests worker).length

def isRegistered (ledger : Ledger) (worker : NodeId) : Bool :=
  match ledger.accounts.get? worker with
  | some (.active _) => true
  | some .closed | none => false

def isDeparted (ledger : Ledger) (worker : NodeId) : Bool :=
  match ledger.accounts.get? worker with
  | some .closed => true
  | some (.active _) | none => false

/-- The worker is registered and has fewer requests than the capacity. -/
def hasCapacity (ledger : Ledger) (worker : NodeId) (capacity : Nat) : Bool :=
  match ledger.accounts.get? worker with
  | some (.active requests) => requests.length < capacity
  | some .closed | none => false

/-- No request is outstanding, by the count. -/
def isEmpty (ledger : Ledger) : Bool := ledger.outstanding = 0

/-- The requests of all accounts, counted one by one. -/
def total (ledger : Ledger) : Nat :=
  ledger.accounts.values.foldr (fun account sum => account.size + sum) 0

/-- The count agrees with the accounts. -/
def isConsistent (ledger : Ledger) : Bool := ledger.total = ledger.outstanding

/-! ## Operations -/

/-- Opens an account for a worker that has none. -/
def register (ledger : Ledger) (worker : NodeId) : Act Ledger := do
  match ledger.accounts.get? worker with
  | some (.active _) =>
    Act.warn s!"worker {worker} is already registered"
    return ledger
  | some .closed =>
    Act.warn s!"worker {worker} has departed and cannot register again"
    return ledger
  | none => return { ledger with accounts := ledger.accounts.insert worker (.active []) }

/-- Enters a job as outstanding on a worker under a fresh request, or hands it back. -/
def issue (ledger : Ledger) (worker : NodeId) (submission : Submission) :
    Act (Except Rejection (RequestId × Ledger)) := do
  match ledger.accounts.get? worker with
  | some (.active requests) =>
    match ledger.requestIds.take with
    | none => return .error ⟨submission, .idsExhausted .request⟩
    | some (id, source) =>
      Traced.emit (.issued id worker submission.id submission.attempt)
      return .ok (id,
        { accounts := ledger.accounts.insert worker (.active (requests ++ [⟨id, submission⟩]))
          outstanding := ledger.outstanding + 1
          requestIds := source })
  | some .closed | none =>
    Act.error (s!"cannot add a request for job {submission.id} to unknown or departed worker " ++
      toString worker)
    return .error ⟨submission, .notRegistered worker⟩

/-- Strikes a request when its completion arrives, and gives its job. -/
def resolve (ledger : Ledger) (worker : NodeId) (id : RequestId) (failed : Bool) :
    Act (Option Submission × Ledger) := do
  match ledger.accounts.get? worker with
  | some .closed =>
    Act.warn s!"ignoring completion of request {id} from departed worker {worker}"
    return (none, ledger)
  | none =>
    Act.error s!"completion of request {id} from unknown worker {worker}"
    return (none, ledger)
  | some (.active requests) =>
    match requests.find? fun request => request.id = id with
    | none =>
      Act.error s!"request {id} is not outstanding on worker {worker}"
      return (none, ledger)
    | some request =>
      if failed then
        Act.warn s!"request {id} for job {request.submission.id} failed on worker {worker}"
      let rest := requests.eraseP fun request => request.id = id
      return (some request.submission,
        { ledger with
          accounts := ledger.accounts.insert worker (.active rest)
          outstanding := ledger.outstanding - 1 })

/-- Closes the account of a worker, whatever it held. -/
def close (ledger : Ledger) (worker : NodeId) : Ledger :=
  { ledger with
    accounts := ledger.accounts.insert worker .closed
    outstanding := ledger.outstanding - ledger.outstandingOn worker }

/-- The ledger in the log. -/
def report (ledger : Ledger) : Act Unit := do
  Act.debug (s!"worker administration: {ledger.outstanding} outstanding request(s) on " ++
    s!"{ledger.accounts.size} worker(s)")
  ledger.accounts.entries.forM fun (worker, account) =>
    match account with
    | .active requests =>
      let ids := ", ".intercalate (requests.map fun request => toString request.id)
      Act.debug s!"  worker {worker}: [{ids}]"
    | .closed => Act.debug s!"  worker {worker}: departed"

end Ledger

end JobPool
