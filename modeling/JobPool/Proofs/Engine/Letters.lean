/-
**Letters, and what waits at an engine.**

Letters are messages with the node at their other end: the receiver as long as they wait on a link,
the sender once they have arrived. Among them only the requests to run a job and the completions
matter for the way of a request, and among the effects of an engine only its deals with requests.

* `asks`, `reports` — the requests and the completions among some letters;
* `Effect.deals` — what an engine did with requests; `Effect.aside` — effects without any;
* `Engine.executes`, `Engine.completions`, `Engine.departures` — what waits at an engine.
-/

import JobPool.Pool.State
import JobPool.Proofs.Engine.Operations

namespace JobPool

/-! ### Letters -/

/-- A payload with the node at its other end. -/
abbrev Letter := NodeId × Payload

/-- The requests to run a job among some letters. -/
def asks (letters : List Letter) : List (NodeId × RequestId) :=
  letters.filterMap fun
    | (node, .execute request ..) => some (node, request)
    | (_, .completed ..) | (_, .register) => none

/-- The completions among some letters. -/
def reports (letters : List Letter) : List (NodeId × RequestId) :=
  letters.filterMap fun
    | (node, .completed request ..) => some (node, request)
    | (_, .execute ..) | (_, .register) => none

@[simp] theorem asks_append (first second : List Letter) :
    asks (first ++ second) = asks first ++ asks second :=
  List.filterMap_append

@[simp] theorem reports_append (first second : List Letter) :
    reports (first ++ second) = reports first ++ reports second :=
  List.filterMap_append

theorem asks_perm {first second : List Letter} (perm : first.Perm second) :
    (asks first).Perm (asks second) :=
  perm.filterMap _

theorem reports_perm {first second : List Letter} (perm : first.Perm second) :
    (reports first).Perm (reports second) :=
  perm.filterMap _

/-- A completion has the node of its letter. -/
theorem exists_of_mem_reports {letters : List Letter} {report : NodeId × RequestId}
    (member : report ∈ reports letters) : ∃ letter ∈ letters, letter.1 = report.1 := by
  obtain ⟨⟨node, payload⟩, listed, selected⟩ := List.mem_filterMap.mp member
  refine ⟨(node, payload), listed, ?_⟩
  cases payload with
  | completed request result failed seconds =>
    cases selected
    rfl
  | execute _ _ _ | register => cases selected

/-- Registrations are neither requests nor completions. -/
theorem asks_of_register {letters : List Letter}
    (registering : ∀ letter ∈ letters, letter.2 = .register) :
    asks letters = [] ∧ reports letters = [] := by
  refine ⟨List.filterMap_eq_nil_iff.mpr fun letter member => ?_,
    List.filterMap_eq_nil_iff.mpr fun letter member => ?_⟩
  all_goals
    obtain ⟨node, payload⟩ := letter
    have plain : payload = .register := registering _ member
    rw [plain]

/-! ### Deals -/

/-- What an engine does with a request. -/
inductive Deal where
  /-- A completion from a worker was taken to be handled. -/
  | handled (worker : NodeId) (request : RequestId)
  | resolved (worker : NodeId) (request : RequestId) (outstanding : Bool)
  | ran (source : NodeId) (request : RequestId)
  | issued (request : RequestId) (worker : NodeId) (job : JobId)
  deriving DecidableEq, Repr

namespace Effect

/-- What was done with requests, among some effects. -/
def deals (effects : List Effect) : List Deal :=
  effects.filterMap fun
    | .handled ⟨worker, .completed request ..⟩ => some (.handled worker request)
    | .resolved worker request outstanding => some (.resolved worker request outstanding)
    | .ran source request => some (.ran source request)
    | .issued request worker job _ => some (.issued request worker job)
    | _ => none

@[simp] theorem deals_append (first second : List Effect) :
    deals (first ++ second) = deals first ++ deals second :=
  List.filterMap_append

theorem deals_deeds (effects : List Effect) : deals (deeds effects) = deals effects :=
  filterMap_deeds _ (fun _ => rfl) effects

@[simp] theorem accepted_append (first second : List Effect) :
    accepted (first ++ second) = accepted first ++ accepted second :=
  List.filterMap_append

theorem accepted_deeds (effects : List Effect) : accepted (deeds effects) = accepted effects :=
  filterMap_deeds _ (fun _ => rfl) effects

theorem closes_append (first second : List Effect) :
    closes (first ++ second) = (closes first || closes second) :=
  List.any_append

theorem closes_deeds (effects : List Effect) : closes (deeds effects) = closes effects := by
  induction effects with
  | nil => rfl
  | cons effect rest hypothesis =>
    have split : closes (effect :: rest) = (closes [effect] || closes rest) :=
      closes_append [effect] rest
    rw [split, ← hypothesis, deeds_cons]
    cases effect <;> rfl

/-- Effects that neither use the link nor concern a request. -/
def isAside : Effect → Bool
  | .queued .. | .answered .. | .applied _ | .admitted .. | .log _ => true
  | .handled _ | .resolved .. | .issued .. | .sent .. | .ran .. | .linkClosed | .brokeDown _ =>
    false

theorem aside {effects : List Effect} (asides : ∀ effect ∈ effects, effect.isAside = true) :
    deals effects = [] ∧ accepted effects = [] ∧ closes effects = false := by
  refine ⟨List.filterMap_eq_nil_iff.mpr fun effect member => ?_,
    List.filterMap_eq_nil_iff.mpr fun effect member => ?_,
    List.any_eq_false.mpr fun effect member => ?_⟩
  all_goals
    have apart := asides effect member
    cases effect <;> first | rfl | exact Bool.false_ne_true | cases apart

end Effect

/-- Telling submitters concerns no request. -/
theorem Told.aside {first second : Roster JobId Ticket} {jobs : List JobId}
    {told : List Effect} (reported : Told first second jobs told) :
    ∀ effect ∈ told, effect.isAside = true := by
  intro effect member
  obtain ⟨ticket, outcome, rfl, _⟩ := reported.answered effect member
  rfl

namespace Engine

/-- Putting an event into a mailbox concerns no request. -/
theorem asides_post (engine : Engine) (event : Event) :
    ∀ effect ∈ Effect.deeds (engine.post event).effects, effect.isAside = true := by
  intro effect member
  rcases engine.post_cases event with ⟨_, posted⟩ | ⟨_, _, deeds⟩
  · rw [posted] at member
    cases member
  · rw [deeds] at member
    obtain ⟨ticket, _, rfl⟩ := List.mem_map.mp member
    rfl

/-! ### What waits at an engine -/

/-- The letter that an event brings. -/
def letter? : Event → Option Letter
  | .message message => some (message.source, message.payload)
  | .membership _ | .submit .. | .endSubmissions | .shutdown => none

/-- The departure that an event announces. -/
def departure? : Event → Option NodeId
  | .membership (.departed node) => some node
  | .message _ | .membership (.joined _) | .membership .poolTerminated | .submit ..
  | .endSubmissions | .shutdown => none

/-- The messages that have arrived and not been handled, each with its sender. -/
def letters (engine : Engine) : List Letter :=
  engine.mailbox.filterMap letter? ++
    engine.inbound.map fun message => (message.source, message.payload)

/-- The request of a job to be run, with its sender. -/
def origin (request : WorkRequest) : NodeId × RequestId := (request.source, request.request)

/-- The requests that have arrived and not been run, each with its sender. -/
def executes (engine : Engine) : List (NodeId × RequestId) :=
  asks engine.letters ++ engine.work.map origin

/-- The completions that have arrived and not been handled, each with its sender. -/
def completions (engine : Engine) : List (NodeId × RequestId) := reports engine.letters

/-- The departures that have been announced and not been applied. -/
def departures (engine : Engine) : List NodeId :=
  engine.mailbox.filterMap departure? ++ engine.departed

/-- An event in the mailbox brings its letter, if it has one. -/
theorem letters_arrive (engine : Engine) (event : Event) :
    let next := { engine with mailbox := engine.mailbox ++ [event] }
    next.letters.Perm ((letter? event).toList ++ engine.letters) := by
  intro next
  have last : next.mailbox.filterMap letter? =
      engine.mailbox.filterMap letter? ++ (letter? event).toList := by
    show (engine.mailbox ++ [event]).filterMap letter? = _
    rw [List.filterMap_append]
    cases event <;> rfl
  rw [letters, letters, last, List.append_assoc]
  exact List.perm_append_comm_assoc ..

theorem executes_arrive (engine : Engine) (event : Event) :
    let next := { engine with mailbox := engine.mailbox ++ [event] }
    next.executes.Perm (asks (letter? event).toList ++ engine.executes) := by
  intro next
  have waiting := asks_perm (engine.letters_arrive event)
  rw [asks_append] at waiting
  rw [executes, executes, ← List.append_assoc]
  exact waiting.append_right _

theorem completions_arrive (engine : Engine) (event : Event) :
    let next := { engine with mailbox := engine.mailbox ++ [event] }
    next.completions.Perm (reports (letter? event).toList ++ engine.completions) := by
  intro next
  have waiting := reports_perm (engine.letters_arrive event)
  rw [reports_append] at waiting
  exact waiting

/-- An event in the mailbox announces its departure, if it has one. -/
theorem departures_arrive (engine : Engine) (event : Event) :
    let next := { engine with mailbox := engine.mailbox ++ [event] }
    ∀ node ∈ next.departures, node ∈ engine.departures ∨ departure? event = some node := by
  intro next node heard
  rcases List.mem_append.mp heard with waiting | accepted
  · have split : next.mailbox.filterMap departure? =
        engine.mailbox.filterMap departure? ++ [event].filterMap departure? :=
      List.filterMap_append
    rw [split] at waiting
    rcases List.mem_append.mp waiting with earlier | last
    · exact .inl (List.mem_append_left _ earlier)
    · obtain ⟨other, member, announced⟩ := List.mem_filterMap.mp last
      rw [List.mem_singleton.mp member] at announced
      exact .inr announced
  · exact .inl (List.mem_append_right _ accepted)

end Engine

end JobPool
