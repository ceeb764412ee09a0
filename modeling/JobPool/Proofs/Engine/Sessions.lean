/-
**One engine and everything that can reach it.**

A session is an engine with the submissions that have been made to it. A stimulus is anything that
can happen next: an event from anybody, a change of the link, the end of the senders, a submitter
who stops waiting, a single pass, or the next step of the run. A run of a session is any sequence of
stimuli.

Each stimulus is a chain of turns, and a turn is a move of the engine or a change around it:

* `chain_perform`, `chain_create` — a stimulus and the run of a new engine are chains of turns;
* `run_keeps` — what every turn keeps, together with the history, every run keeps.
-/

import JobPool.Proofs.Engine.Runs

namespace JobPool

/-- An engine and the number of submissions made to it so far. -/
structure Session where
  engine : Engine
  submissions : Nat := 0

/-- What can happen to an engine next. -/
inductive Stimulus where
  | submit (job : Job) (input : Bytes)
  | endSubmissions
  | deliver (message : Message)
  | announce (change : MembershipEvent)
  | shutdown
  /-- From now on the link accepts or refuses what the engine sends. -/
  | relink (link : Link)
  /-- Nobody can send events any more. -/
  | disconnect
  /-- The submitter stops waiting for an answer. -/
  | abandonTicket (ticket : Ticket)
  /-- The engine makes one pass, unless it stands in the middle of one. -/
  | pass
  /-- The engine takes the next step of its run. -/
  | advance (gateOpen : Bool)
  /-- The engine has waited for the whole sleep interval. -/
  | timeOut

namespace Session

/-- The session of a new engine. -/
def create (options : Options) (node master : NodeId) (link : Link) : Session :=
  { engine := .create options node master link }

/-- The engine does something. -/
def change (session : Session) (act : Act Engine) : Act Session :=
  ⟨{ session with engine := act.value }, act.effects⟩

/-- The session after a stimulus. A ticket is the place of its submission among all. -/
def perform (session : Session) : Stimulus → Act Session
  | .submit job input =>
    { session with submissions := session.submissions + 1 }.change
      (session.engine.post (.submit session.submissions job input))
  | .endSubmissions => session.change (session.engine.post .endSubmissions)
  | .deliver message => session.change (session.engine.post (.message message))
  | .announce membership => session.change (session.engine.post (.membership membership))
  | .shutdown => session.change (session.engine.post .shutdown)
  | .relink link => pure { session with engine := { session.engine with link := link } }
  | .disconnect => pure { session with engine := session.engine.disconnect }
  | .abandonTicket ticket => pure { session with engine := session.engine.abandonTicket ticket }
  | .pass =>
    if session.engine.isGone || session.engine.stage = .holding then pure session
    else session.change ⟨session.engine.tick.value.1, session.engine.tick.effects⟩
  | .advance gateOpen => session.change (session.engine.advance gateOpen)
  | .timeOut => session.change session.engine.timeOut

/-- The session after a sequence of stimuli. -/
def run (session : Session) (stimuli : List Stimulus) : Act Session :=
  stimuli.foldlM perform session

/-! ### Turns -/

/-- **One turn of a session**, with its new state and its effects. -/
inductive Turn : Session → Act Session → Prop
  | move {session : Session} {act : Act Engine} (move : Engine.Move session.engine act) :
      Turn session (session.change act)
  /-- Something around the engine changes that it does not own. -/
  | surround {session : Session} {link : Link} {connected : Bool} {tickets : List Ticket} :
      Turn session (pure { session with engine := { session.engine with
        link := link, connected := connected, abandonedTickets := tickets } })
  | post {session : Session} {event : Event} (alive : session.engine.isGone = false)
      (other : Engine.ticket? event = none) :
      Turn session (pure { session with engine := { session.engine with
        mailbox := session.engine.mailbox ++ [event] } })
  | submit {session : Session} {job : Job} {input : Bytes}
      (alive : session.engine.isGone = false) :
      Turn session (pure
        { engine := { session.engine with
            mailbox := session.engine.mailbox ++ [.submit session.submissions job input] }
          submissions := session.submissions + 1 })
  /-- An engine that is gone drops an event. -/
  | drop {session : Session} {effects : List Effect} (gone : session.engine.isGone = true)
      (silent : Effect.deeds effects = []) : Turn session ⟨session, effects⟩
  /-- An engine that is gone dismisses a submitter at once. -/
  | dismiss {session : Session} {effects : List Effect} (gone : session.engine.isGone = true)
      (told : Effect.deeds effects = [.answered session.submissions (.error .engineStopped)]) :
      Turn session ⟨{ session with submissions := session.submissions + 1 }, effects⟩

/-- The moves of the engine are turns of its session. -/
private theorem chain_change (session : Session) {act : Act Engine}
    (chain : Chain Engine.Move session.engine act) : Chain Turn session (session.change act) := by
  have turns := chain.map (fun engine => { session with engine := engine }) id
    fun {engine act} move => by
      have turn : Turn { session with engine := engine } (session.change act) := .move move
      rw [List.map_id]
      exact turn
  rw [List.map_id] at turns
  exact turns

/-- Putting an event that is no submission into the mailbox is one turn. -/
theorem turn_post (session : Session) (event : Event)
    (other : Engine.ticket? event = none) :
    Turn session (session.change (session.engine.post event)) := by
  rcases session.engine.post_cases event with ⟨alive, posted⟩ | ⟨gone, kept, told⟩
  · rw [posted]
    exact .post alive other
  · rw [other] at told
    rw [change, kept]
    exact .drop gone told

/-- A submission is one turn. -/
theorem turn_submit (session : Session) (job : Job) (input : Bytes) :
    Turn session ({ session with submissions := session.submissions + 1 }.change
      (session.engine.post (.submit session.submissions job input))) := by
  rcases session.engine.post_cases (.submit session.submissions job input) with
    ⟨alive, posted⟩ | ⟨gone, kept, told⟩
  · rw [posted]
    exact .submit alive
  · rw [change, kept]
    exact .dismiss gone told

/-- **A stimulus is a chain of turns**, and leaves the engine poised for the next step. -/
theorem chain_perform (session : Session) (stimulus : Stimulus)
    (poised : session.engine.Poised) :
    Chain Turn session (session.perform stimulus) ∧
      (session.perform stimulus).value.engine.Poised := by
  have posted : ∀ event, (session.engine.post event).value.Poised := by
    intro event
    rcases session.engine.post_cases event with ⟨_, posted⟩ | ⟨_, kept, _⟩
    · rw [posted]
      exact poised
    · rw [kept]
      exact poised
  cases stimulus with
  | submit job input => exact ⟨.single (session.turn_submit job input), posted _⟩
  | endSubmissions => exact ⟨.single (session.turn_post _ rfl), posted _⟩
  | deliver message => exact ⟨.single (session.turn_post _ rfl), posted _⟩
  | announce change => exact ⟨.single (session.turn_post _ rfl), posted _⟩
  | shutdown => exact ⟨.single (session.turn_post _ rfl), posted _⟩
  | relink link => exact ⟨.single .surround, poised⟩
  | disconnect => exact ⟨.single .surround, poised⟩
  | abandonTicket ticket => exact ⟨.single .surround, poised⟩
  | pass =>
    rw [perform]
    split
    next => exact ⟨.refl session, poised⟩
    next free =>
      rw [Bool.or_eq_true, not_or, Bool.not_eq_true, decide_eq_true_eq] at free
      have passed := session.engine.steady_tick
      refine ⟨session.chain_change (session.engine.chain_tick free.1), fun holding => ?_⟩
      exact (free.2 (passed.stage.symm.trans holding)).elim
  | advance gateOpen =>
    exact ⟨session.chain_change (session.engine.chain_advance gateOpen poised),
      session.engine.poised_advance gateOpen poised⟩
  | timeOut =>
    exact ⟨session.chain_change session.engine.chain_timeOut,
      session.engine.poised_timeOut poised⟩

/-- **A run is a chain of turns.** -/
theorem chain_run (session : Session) (poised : session.engine.Poised)
    (stimuli : List Stimulus) : Chain Turn session (session.run stimuli) :=
  (Traced.chain_foldlM perform stimuli
    (fun state stimulus _ poised => state.chain_perform stimulus poised) session poised).1

theorem chain_create (options : Options) (node master : NodeId) (link : Link)
    (stimuli : List Stimulus) :
    Chain Turn (create options node master link)
      ((create options node master link).run stimuli) :=
  (create options node master link).chain_run nofun stimuli

/-- **What every turn keeps, together with the history, every run keeps.** -/
theorem run_keeps {holds : List Effect → Session → Prop}
    (keeps : ∀ {history session act}, holds history session → Turn session act →
      holds (history ++ act.effects) act.value)
    (session : Session) (poised : session.engine.Poised) (initial : holds [] session)
    (stimuli : List Stimulus) :
    holds (session.run stimuli).effects (session.run stimuli).value :=
  (session.chain_run poised stimuli).keeps keeps initial

end Session

end JobPool
