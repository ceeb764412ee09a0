/-
**Values with the effects of computing them.**

The parts of a pool are pure: an operation takes a state to a state, and what it does to the outside
world is the list of effects that comes with the result, in order. Chaining operations appends their
effects, so the history of a run is the concatenation of the histories of its steps.

* `value_bind` and `effects_bind` take a chain apart;
* `foldlM_preserves` carries an invariant through a traced fold.
-/

import JobPool.Message

namespace JobPool

/-- A value with the effects of computing it, in order. -/
structure Traced (ε α : Type) where
  value : α
  effects : List ε := []

namespace Traced

variable {ε α β : Type}

instance : Monad (Traced ε) where
  pure value := ⟨value, []⟩
  bind first next :=
    let second := next first.value
    ⟨second.value, first.effects ++ second.effects⟩

@[simp] theorem value_pure (value : α) : (pure value : Traced ε α).value = value := rfl

@[simp] theorem effects_pure (value : α) : (pure value : Traced ε α).effects = [] := rfl

@[simp] theorem value_bind (first : Traced ε α) (next : α → Traced ε β) :
    (first >>= next).value = (next first.value).value := rfl

@[simp] theorem effects_bind (first : Traced ε α) (next : α → Traced ε β) :
    (first >>= next).effects = first.effects ++ (next first.value).effects := rfl

instance : LawfulMonad (Traced ε) := LawfulMonad.mk' (Traced ε)
  (by
    intro α traced
    cases traced
    simp [Functor.map])
  (by
    intro α β value next
    simp [bind, pure])
  (by
    intro α β γ traced next last
    simp [bind])

@[simp] theorem value_map (change : α → β) (traced : Traced ε α) :
    (change <$> traced).value = change traced.value := rfl

@[simp] theorem effects_map (change : α → β) (traced : Traced ε α) :
    (change <$> traced).effects = traced.effects := by
  change traced.effects ++ [] = traced.effects
  exact List.append_nil _

/-- One effect, and nothing to return. -/
def emit (effect : ε) : Traced ε Unit := ⟨(), [effect]⟩

@[simp] theorem value_emit (effect : ε) : (emit effect).value = () := rfl

@[simp] theorem effects_emit (effect : ε) : (emit effect).effects = [effect] := rfl

/-- What every step of a traced fold keeps, the fold keeps. -/
theorem foldlM_preserves {holds : β → Prop} (step : β → α → Traced ε β) (items : List α)
    (keeps : ∀ state, ∀ item ∈ items, holds state → holds (step state item).value)
    {start : β} (initial : holds start) : holds (items.foldlM step start).value := by
  induction items generalizing start with
  | nil => exact initial
  | cons item rest hypothesis =>
    rw [List.foldlM_cons, value_bind]
    exact hypothesis
      (fun state other member => keeps state other (List.mem_cons_of_mem item member))
      (keeps start item List.mem_cons_self initial)

end Traced

/-! ## The effects of an engine -/

/-- How urgent a log record is, the most urgent first. -/
inductive LogLevel where
  | error
  | warn
  | info
  | debug
  | trace
  deriving DecidableEq, Repr

namespace LogLevel

def name : LogLevel → String
  | error => "ERROR"
  | warn => "WARN"
  | info => "INFO"
  | debug => "DEBUG"
  | trace => "TRACE"

/-- The place in the order of urgency, from one. -/
def rank : LogLevel → Nat
  | error => 1
  | warn => 2
  | info => 3
  | debug => 4
  | trace => 5

end LogLevel

/-- One line of the log. -/
structure LogRecord where
  level : LogLevel
  text : String
  deriving DecidableEq, Repr

/-- Why an engine goes away without a report. -/
inductive Breakdown where
  /-- The threads of its node could not be started. -/
  | unstarted
  /-- It cannot be told which waits are long. -/
  | unmeasurable (fault : DurationFault)
  deriving DecidableEq, Repr

/-- What an engine does to the outside world, and the steps of a job through it. -/
inductive Effect where
  | log (record : LogRecord)
  /-- A message was taken from the queue of received ones to be handled. -/
  | handled (message : Message)
  /-- A completion was held against the requests of its sender, and its request was outstanding
  or not. -/
  | resolved (worker : NodeId) (request : RequestId) (outstanding : Bool)
  /-- A change in the membership of another node took effect. -/
  | applied (change : MembershipEvent)
  /-- A submission was taken in under the identity of a job. -/
  | admitted (ticket : Ticket) (job : JobId)
  /-- A job was put at the end of the pending queue. -/
  | queued (job : JobId) (attempt : Nat)
  /-- A job left the queue under a new request. -/
  | issued (request : RequestId) (worker : NodeId) (job : JobId) (attempt : Nat)
  /-- A message was handed to the link, which may have refused it. -/
  | sent (destination : NodeId) (payload : Payload) (accepted : Bool)
  /-- A requested job was run. -/
  | ran (source : NodeId) (request : RequestId)
  /-- A submitter was told how its job ended. -/
  | answered (ticket : Ticket) (answer : Answer)
  /-- The link was shut down and joined. -/
  | linkClosed
  /-- The engine could not go on. -/
  | brokeDown (cause : Breakdown)

/-- A result of an engine's work. -/
abbrev Act := Traced Effect

namespace Act

/-- Writes one line to the log. -/
def log (level : LogLevel) (text : String) : Act Unit := Traced.emit (.log ⟨level, text⟩)

def error (text : String) : Act Unit := log .error text

def warn (text : String) : Act Unit := log .warn text

def info (text : String) : Act Unit := log .info text

def debug (text : String) : Act Unit := log .debug text

end Act

end JobPool
