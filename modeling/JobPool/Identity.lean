/-
**Identities.**

Jobs, requests and nodes are numbered by separate sources, each owned by one engine or pool. A
source hands out `1, 2, 3, …` and stops short of `2 ^ 64 - 1`, so it never repeats an identity
(`IdSource.take_next`).
-/

namespace JobPool

/-- A submitted job, as its submitter sees it. -/
abbrev JobId := Nat

/-- One dispatch of a job to a worker. -/
abbrev RequestId := Nat

/-- A node of the pool, the master or a worker. -/
abbrev NodeId := Nat

/-- What a source of identities counts. -/
inductive IdKind where
  | job
  | request
  | node
  deriving DecidableEq, Repr

def IdKind.name : IdKind → String
  | .job => "job"
  | .request => "request"
  | .node => "node"

/-- The next identity of a source. -/
structure IdSource where
  next : Nat := 1
  deriving DecidableEq, Repr

namespace IdSource

/-- The first identity that is never handed out. -/
def limit : Nat := UInt64.size - 1

/-- The next identity and the source behind it, none when the identities are used up. -/
def take (source : IdSource) : Option (Nat × IdSource) :=
  if source.next < limit then some (source.next, ⟨source.next + 1⟩) else none

/-- A source hands out its next identity and moves on by one. -/
theorem take_next {source rest : IdSource} {id : Nat} (taken : source.take = some (id, rest)) :
    id = source.next ∧ rest.next = source.next + 1 := by
  unfold take at taken
  split at taken
  · cases taken
    exact ⟨rfl, rfl⟩
  · cases taken

end IdSource

end JobPool
