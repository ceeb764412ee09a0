/-
**A pass does not depend on how the kinds of events interleave.**

Events come in five kinds: commands, messages, departures of other nodes, joins, and reasons to stop.
Only commands act as they are accepted. All others are noted in the margin of the engine, each kind
in a place of its own, and no command looks at the margin. So what a pass does is settled by the
order within each kind, and it comes to the same to let the commands act first and then to take the
kinds one after the other.

* `Event.Kind`, `Event.ofKind` — the kinds, and the events of one kind in their order;
* `Margin.gather` — the margin once some events are accepted, put together kind by kind;
* `accept_all_eq` — accepting some events is accepting the commands among them, up to the place of
  lines in the log (`SameDeeds`);
* `finishTick`, `tick_eq` — a pass accepts its mailbox, and then takes kind after kind;
* `tickByKind`, `tick_rearranged` — the pass that takes the commands first, and the main result.
-/

import Mathlib.Data.List.Basic
import JobPool.Proofs.Engine.Margins
import JobPool.Proofs.Engine.Quiescence

namespace JobPool

/-- What follows a value depends on nothing else of its computation. -/
theorem Traced.bind_congr_value {ε α β : Type} {first : Traced ε α} {next other : α → Traced ε β}
    (same : next first.value = other first.value) : first >>= next = first >>= other := by
  simp only [bind, same]

namespace Event

/-- **The kinds of events.** Within a kind the order matters. -/
inductive Kind where
  /-- Submissions and their end. -/
  | command
  | message
  /-- The departure of another node. -/
  | departure
  | join
  /-- The end of the pool or of the node, or a request to stop. -/
  | stop
  deriving DecidableEq, Repr

/-- The kind of an event for the engine of a node. -/
def kind (node : NodeId) : Event → Kind
  | .submit .. | .endSubmissions => .command
  | .message _ => .message
  | .membership (.departed other) => if other = node then .stop else .departure
  | .membership (.joined _) => .join
  | .membership .poolTerminated | .shutdown => .stop

/-- The events of one kind, in their order. -/
def ofKind (node : NodeId) (kind : Kind) (events : List Event) : List Event :=
  events.filter fun event => event.kind node = kind

/-- The message in an event. -/
def message? : Event → Option Message
  | .message received => some received
  | .membership _ | .submit .. | .endSubmissions | .shutdown => none

/-- The node whose departure the engine of a node still has to apply. -/
def departed? (node : NodeId) : Event → Option NodeId
  | .membership (.departed other) => if other = node then none else some other
  | .membership (.joined _) | .membership .poolTerminated | .message _ | .submit ..
  | .endSubmissions | .shutdown => none

/-- The node that an event says has joined. -/
def joined? : Event → Option NodeId
  | .membership (.joined other) => some other
  | .membership (.departed _) | .membership .poolTerminated | .message _ | .submit ..
  | .endSubmissions | .shutdown => none

/-- The line that an accepted event leaves in the log, if it is no command. -/
def notice? (node : NodeId) : Event → Option Effect
  | .membership (.departed other) =>
    if other = node then some (.log ⟨.error, s!"node {other} has been declared dead"⟩) else none
  | .membership .poolTerminated => some (.log ⟨.warn, "the pool has been terminated"⟩)
  | .shutdown => some (.log ⟨.info, s!"shutdown requested on node {node}"⟩)
  | .membership (.joined _) | .message _ | .submit .. | .endSubmissions => none

/-- **The second list has the events of the first**, each kind in the same order. -/
def Rearranged (node : NodeId) (events other : List Event) : Prop :=
  ∀ kind, ofKind node kind other = ofKind node kind events

variable {node : NodeId}

theorem ofKind_cons (kind : Kind) (event : Event) (rest : List Event) :
    ofKind node kind (event :: rest) =
      if event.kind node = kind then event :: ofKind node kind rest
      else ofKind node kind rest := by
  simp only [ofKind, List.filter_cons, decide_eq_true_eq]

/-! ### What is taken from one kind only -/

theorem kind_of_message? {event : Event} {received : Message}
    (taken : event.message? = some received) : event.kind node = .message := by
  cases event with
  | message _ => rfl
  | membership _ | submit _ _ _ | endSubmissions | shutdown => cases taken

theorem kind_of_joined? {event : Event} {other : NodeId} (taken : event.joined? = some other) :
    event.kind node = .join := by
  cases event with
  | membership change =>
    cases change with
    | joined _ => rfl
    | departed _ | poolTerminated => cases taken
  | message _ | submit _ _ _ | endSubmissions | shutdown => cases taken

theorem kind_of_departed? {event : Event} {other : NodeId}
    (taken : event.departed? node = some other) : event.kind node = .departure := by
  cases event with
  | membership change =>
    cases change with
    | departed _ =>
      rw [departed?] at taken
      split at taken
      · cases taken
      next remote => rw [kind, if_neg remote]
    | joined _ | poolTerminated => cases taken
  | message _ | submit _ _ _ | endSubmissions | shutdown => cases taken

theorem kind_of_stopCause? {event : Event} {reason : StopReason}
    (taken : Engine.stopCause? node event = some reason) : event.kind node = .stop := by
  cases event with
  | membership change =>
    cases change with
    | departed _ =>
      rw [Engine.stopCause?] at taken
      split at taken
      next own => rw [kind, if_pos own]
      · cases taken
    | poolTerminated => rfl
    | joined _ => cases taken
  | shutdown => rfl
  | message _ | submit _ _ _ | endSubmissions => cases taken

theorem kind_of_notice? {event : Event} {line : Effect} (taken : event.notice? node = some line) :
    event.kind node = .stop ∧ line.isLog = true := by
  cases event with
  | membership change =>
    cases change with
    | departed _ =>
      rw [notice?] at taken
      split at taken
      next own =>
        cases taken
        exact ⟨by rw [kind, if_pos own], rfl⟩
      · cases taken
    | poolTerminated =>
      cases taken
      exact ⟨rfl, rfl⟩
    | joined _ => cases taken
  | shutdown =>
    cases taken
    exact ⟨rfl, rfl⟩
  | message _ | submit _ _ _ | endSubmissions => cases taken

/-- **A selection that takes only one kind** does not see how the kinds interleave. -/
theorem Rearranged.filterMap {events other : List Event} (same : Rearranged node events other)
    {α : Type} {select : Event → Option α} {kind : Kind}
    (only : ∀ {event item}, select event = some item → event.kind node = kind) :
    other.filterMap select = events.filterMap select := by
  have within (list : List Event) :
      list.filterMap select = (ofKind node kind list).filterMap select := by
    rw [ofKind, List.filterMap_filter]
    refine List.filterMap_congr fun event _ => ?_
    cases taken : select event with
    | none => exact (ite_self none).symm
    | some item => rw [decide_eq_true (only taken), if_pos rfl]
  rw [within other, same kind, ← within events]

theorem Rearranged.isEmpty {events other : List Event} (same : Rearranged node events other) :
    other.isEmpty = events.isEmpty := by
  have found {list : List Event} {event : Event} (member : event ∈ list) :
      event ∈ ofKind node (event.kind node) list :=
    List.mem_filter.mpr ⟨member, decide_eq_true rfl⟩
  rw [Bool.eq_iff_iff, List.isEmpty_iff, List.isEmpty_iff, List.eq_nil_iff_forall_not_mem,
    List.eq_nil_iff_forall_not_mem]
  refine ⟨fun none event member => ?_, fun none event member => ?_⟩
  · have listed := found member
    rw [← same] at listed
    exact none event (List.mem_of_mem_filter listed)
  · have listed := found member
    rw [same] at listed
    exact none event (List.mem_of_mem_filter listed)

end Event

namespace Engine

open Event

/-! ### Accepting a mailbox -/

/-- The margin once the engine of a node has accepted some events. -/
def Margin.gather (node : NodeId) (margin : Margin) (events : List Event) : Margin :=
  { margin with
    inbound := margin.inbound ++ events.filterMap message?
    departed := margin.departed ++ events.filterMap (departed? node)
    joined := margin.joined ++ events.filterMap joined?
    stopReason := margin.stopReason.or (firstCause node events) }

@[simp] theorem Margin.gather_nil (node : NodeId) (margin : Margin) :
    margin.gather node [] = margin := by
  simp only [gather, List.filterMap_nil, List.append_nil, firstCause, List.findSome?_nil,
    Option.or_none]

/-- To note an event is to gather it alone. -/
private theorem note_eq_gather (node : NodeId) (margin : Margin) (event : Event) :
    margin.note node event = margin.gather node [event] := by
  rw [Margin.gather, firstCause_singleton]
  simp only [List.filterMap_cons, List.filterMap_nil]
  cases event with
  | message message => simp [Margin.note, message?, departed?, joined?, stopCause?]
  | membership change =>
    cases change with
    | departed other =>
      by_cases own : other = node <;>
        simp [own, Margin.note, message?, departed?, joined?, stopCause?]
    | joined other | poolTerminated =>
      simp [Margin.note, message?, departed?, joined?, stopCause?]
  | submit ticket job input | endSubmissions | shutdown =>
    simp [Margin.note, message?, departed?, joined?, stopCause?]

theorem Margin.gather_cons (node : NodeId) (margin : Margin) (event : Event)
    (rest : List Event) :
    margin.gather node (event :: rest) = (margin.note node event).gather node rest := by
  rw [note_eq_gather, ← List.singleton_append]
  simp only [gather, List.filterMap_append, List.append_assoc, firstCause_append, Option.or_assoc]

/-- **An event that is no command** is noted in the margin. -/
theorem accept_eq_note (engine : Engine) (event : Event)
    (other : event.kind engine.node ≠ .command) :
    engine.accept event =
      ⟨engine.withMargin (engine.margin.note engine.node event),
        (event.notice? engine.node).toList⟩ := by
  cases event with
  | message message => rfl
  | membership change =>
    cases change with
    | departed node =>
      rw [accept, Margin.note, notice?]
      split <;> rfl
    | joined node | poolTerminated => rfl
  | submit ticket job input | endSubmissions => exact (other rfl).elim
  | shutdown => rfl

/-- A command leaves the margin alone. -/
theorem note_of_command {node : NodeId} {event : Event} (command : event.kind node = .command)
    (margin : Margin) : margin.note node event = margin ∧ event.notice? node = none := by
  cases event with
  | submit ticket job input | endSubmissions => exact ⟨rfl, rfl⟩
  | message message | shutdown => cases command
  | membership change =>
    cases change with
    | departed other =>
      rw [Event.kind] at command
      split at command <;> cases command
    | joined other | poolTerminated => cases command

/-- Commands do the same beside any margin. -/
theorem accept_commands_withMargin (engine : Engine) (margin : Margin) (commands : List Event)
    (all : ∀ event ∈ commands, event.kind engine.node = .command) :
    commands.foldlM accept (engine.withMargin margin) =
      ⟨(commands.foldlM accept engine).value.withMargin margin,
        (commands.foldlM accept engine).effects⟩ := by
  induction commands generalizing engine with
  | nil => rfl
  | cons event rest hypothesis =>
    rw [List.foldlM_cons, List.foldlM_cons, accept_withMargin,
      (note_of_command (all event List.mem_cons_self) margin).1]
    have later := hypothesis (engine.accept event).value fun other member => by
      rw [(steady_accept engine event).node]
      exact all other (List.mem_cons_of_mem event member)
    exact congrArg (fun act : Act Engine => Traced.mk act.value
      ((engine.accept event).effects ++ act.effects)) later

theorem kind_of_mem_ofKind {node : NodeId} {kind : Kind} {events : List Event} {event : Event}
    (member : event ∈ ofKind node kind events) : event.kind node = kind :=
  of_decide_eq_true (List.mem_filter.mp member).2

/-- Two histories with the same deeds and the same lines of the log, in whatever order the lines
stand. -/
structure SameDeeds (first second : List Effect) : Prop where
  deeds : Effect.deeds second = Effect.deeds first
  lines : second.Perm first

namespace SameDeeds

variable {first second third : List Effect}

theorem append_left (same : SameDeeds first second) (before : List Effect) :
    SameDeeds (before ++ first) (before ++ second) :=
  ⟨by rw [Effect.deeds_append, Effect.deeds_append, same.deeds], same.lines.append_left before⟩

theorem append_right (same : SameDeeds first second) (after : List Effect) :
    SameDeeds (first ++ after) (second ++ after) :=
  ⟨by rw [Effect.deeds_append, Effect.deeds_append, same.deeds], same.lines.append_right after⟩

theorem trans (left : SameDeeds first second) (right : SameDeeds second third) :
    SameDeeds first third :=
  ⟨right.deeds.trans left.deeds, right.lines.trans left.lines⟩

theorem symm (same : SameDeeds first second) : SameDeeds second first :=
  ⟨same.deeds.symm, same.lines.symm⟩

/-- Lines of the log may stand elsewhere. -/
theorem swap (lines : List Effect) (only : Effect.deeds lines = []) (before after : List Effect) :
    SameDeeds (lines ++ (before ++ after)) (before ++ (lines ++ after)) := by
  constructor
  · simp only [Effect.deeds_append, only, List.nil_append]
  · rw [← List.append_assoc, ← List.append_assoc]
    exact List.perm_append_comm.append_right after

end SameDeeds

theorem deeds_notices (node : NodeId) (events : List Event) :
    Effect.deeds (events.filterMap (notice? node)) = [] := by
  refine List.filter_eq_nil_iff.mpr fun effect member => ?_
  obtain ⟨event, _, taken⟩ := List.mem_filterMap.mp member
  rw [(kind_of_notice? taken).2, Bool.not_true]
  exact Bool.false_ne_true

/-- **Accepting some events is accepting the commands among them**, with the others noted in the
margin and in the log. -/
theorem accept_all_eq (engine : Engine) (events : List Event) :
    (events.foldlM accept engine).value =
        ((ofKind engine.node .command events).foldlM accept engine).value.withMargin
          (engine.margin.gather engine.node events) ∧
      SameDeeds
        (events.filterMap (notice? engine.node) ++
          ((ofKind engine.node .command events).foldlM accept engine).effects)
        (events.foldlM accept engine).effects := by
  induction events generalizing engine with
  | nil =>
    rw [Margin.gather_nil]
    exact ⟨rfl, rfl, .refl _⟩
  | cons event rest hypothesis =>
    obtain ⟨value, effects⟩ := hypothesis (engine.accept event).value
    rw [(steady_accept engine event).node] at value effects
    rw [margin_accept, ← Margin.gather_cons] at value
    rw [List.foldlM_cons, Traced.value_bind, Traced.effects_bind, value, ofKind_cons]
    by_cases command : event.kind engine.node = .command
    · rw [if_pos command, List.foldlM_cons, Traced.value_bind, Traced.effects_bind,
        List.filterMap_cons_none (note_of_command command engine.margin).2]
      exact ⟨rfl, (SameDeeds.swap _ (deeds_notices engine.node rest) _ _).trans
        (effects.append_left _)⟩
    · -- The later commands act beside the margin in which the event is noted.
      have beside := accept_commands_withMargin engine (engine.margin.note engine.node event)
        (ofKind engine.node .command rest) fun other member => kind_of_mem_ofKind member
      rw [if_neg command]
      rw [accept_eq_note engine event command] at effects ⊢
      dsimp only at effects ⊢
      rw [beside] at effects ⊢
      refine ⟨rfl, ?_⟩
      cases told : event.notice? engine.node with
      | none =>
        rw [List.filterMap_cons_none told, Option.toList_none, List.nil_append]
        exact effects
      | some line =>
        rw [List.filterMap_cons_some told, Option.toList_some]
        exact effects.append_left [line]

/-! ### The rest of a pass -/

/-- A pass once its messages are handled: every departure and every join, then one dispatch and one
run, unless there is a reason to stop. -/
def afterMessages (engine : Engine) (received : Bool) : Act (Engine × Bool) := do
  if engine.stopReason.isSome then return (engine, received)
  let (engine, moved) ← engine.applyMembership
  let (engine, dispatched) ← engine.dispatch
  let (engine, ran) ← engine.runOne
  return (engine, received || moved || dispatched || ran)

/-- **A pass once its mailbox is accepted**: every message, then the rest. -/
def finishTick (accepted : Engine) (arrivals : Bool) : Act (Engine × Bool) := do
  let messages := accepted.severed.inbound
  let engine ← messages.foldlM handle accepted.severed.measured
  engine.afterMessages (arrivals || !messages.isEmpty)

/-- A pass accepts its mailbox first. -/
theorem tick_eq (engine : Engine) :
    engine.tick = (do
      let accepted ← engine.mailbox.foldlM accept { engine with mailbox := [] }
      accepted.finishTick (!engine.mailbox.isEmpty)) := by
  have received : engine.receive = (do
      let accepted ← engine.mailbox.foldlM accept { engine with mailbox := [] }
      let handled ← accepted.severed.inbound.foldlM handle accepted.severed.measured
      return (handled, !engine.mailbox.isEmpty || !accepted.severed.inbound.isEmpty)) := rfl
  rw [tick, beginPass, received]
  simp only [bind_assoc, pure_bind]
  refine congrArg _ (funext fun accepted => ?_)
  rw [finishTick]
  refine congrArg _ (funext fun handled => ?_)
  rw [afterMessages]
  cases stopped : handled.stopReason with
  | some reason => simp only [Option.isSome_some, if_true, pure_bind, stopped]
  | none =>
    simp only [Option.isSome_none, Bool.false_eq_true, if_false, bind_assoc, pure_bind]
    -- The second look at the reason to stop finds none either.
    refine Traced.bind_congr_value (Traced.bind_congr_value ?_)
    have still : handled.applyMembership.value.1.dispatch.value.1.stopReason = none :=
      (dispatch_same _).stopReason.trans
        ((applyMembership_same handled).stopReason.trans stopped)
    simp only [still, Option.isSome_none, Bool.false_eq_true, if_false]

/-! ### The kinds in turn -/

/-- **The pass that takes the kinds of events in turn**: the commands first, then the messages, the
departures and the joins, and then the dispatch. -/
def tickByKind (engine : Engine) (events : List Event) : Act (Engine × Bool) := do
  let commanded ← (ofKind engine.node .command events).foldlM accept { engine with mailbox := [] }
  let arrived := { engine.margin with mailbox := [] }.gather engine.node events
  (commanded.withMargin arrived).finishTick (!events.isEmpty)

/-- **A pass takes the kinds of its events in turn**, but for the order of the log. -/
theorem tick_eq_tickByKind (engine : Engine) (events : List Event) :
    { engine with mailbox := events }.tick.value = (engine.tickByKind events).value ∧
      SameDeeds (events.filterMap (notice? engine.node) ++ (engine.tickByKind events).effects)
        { engine with mailbox := events }.tick.effects := by
  obtain ⟨value, effects⟩ := accept_all_eq { engine with mailbox := [] } events
  rw [tick_eq, tickByKind, Traced.value_bind, Traced.value_bind, Traced.effects_bind,
    Traced.effects_bind]
  dsimp only at value effects ⊢
  rw [value, ← List.append_assoc]
  exact ⟨rfl, effects.append_right _⟩

/-- How the kinds interleave makes no difference to the pass that takes them in turn. -/
theorem tickByKind_rearranged (engine : Engine) {events other : List Event}
    (same : Rearranged engine.node events other) :
    engine.tickByKind other = engine.tickByKind events := by
  have causes := congrArg List.head? (same.filterMap kind_of_stopCause?)
  rw [List.head?_filterMap, List.head?_filterMap] at causes
  have gathered : Margin.gather engine.node { engine.margin with mailbox := [] } other =
      Margin.gather engine.node { engine.margin with mailbox := [] } events := by
    rw [Margin.gather, Margin.gather, same.filterMap kind_of_message?,
      same.filterMap kind_of_departed?, same.filterMap kind_of_joined?, firstCause, firstCause,
      causes]
  rw [tickByKind, tickByKind, same .command, same.isEmpty, gathered]

/-- **A pass does not depend on how the kinds of its events interleave.** In every state of an engine
of either role, a pass does what it would do with the commands first, then the messages, the
departures and the joins, and last the dispatch. So with the events in another order, which is the
same within each kind, it leaves the same engine, makes the same progress and does the same deeds in
the same order, and its log has the same lines. -/
theorem tick_rearranged (engine : Engine) (events other : List Event)
    (same : Rearranged engine.node events other) :
    let pass := { engine with mailbox := events }.tick
    let again := { engine with mailbox := other }.tick
    (pass.value = (engine.tickByKind events).value ∧
      Effect.deeds pass.effects = Effect.deeds (engine.tickByKind events).effects) ∧
    again.value = pass.value ∧ Effect.deeds again.effects = Effect.deeds pass.effects ∧
      again.effects.Perm pass.effects := by
  intro pass again
  obtain ⟨value, effects⟩ := engine.tick_eq_tickByKind events
  obtain ⟨otherwise, retold⟩ := engine.tick_eq_tickByKind other
  rw [engine.tickByKind_rearranged same] at otherwise retold
  rw [same.filterMap fun taken => (kind_of_notice? taken).1] at retold
  have whole : SameDeeds pass.effects again.effects := effects.symm.trans retold
  refine ⟨⟨value, ?_⟩, otherwise.trans value.symm, whole.deeds, whole.lines⟩
  rw [effects.deeds, Effect.deeds_append, deeds_notices, List.nil_append]

/-- A worker departs with a request, another one registers and joins, and a second job is submitted.
In whatever order they arrive, the second job is the first in the queue and is dispatched. -/
theorem tick_rearranged_turnover :
    let options : Options :=
      ({ scheduler := { selector := .roundRobin, maxOutstanding := 1 } } : Settings).options
    let engine := ((Session.create options 1 1 {}).handleAll [.meet (.deliver ⟨2, .register⟩),
      .meet (.submit (.sleep 0) []), .meet .pass]).value.engine
    let events : List Event := [.submit 1 (.sleep 0) [], .message ⟨3, .register⟩,
      .membership (.departed 2), .membership (.joined 3), .endSubmissions]
    let other : List Event := [.membership (.joined 3), .membership (.departed 2),
      .submit 1 (.sleep 0) [], .endSubmissions, .message ⟨3, .register⟩]
    let pass := { engine with mailbox := events }.tick
    let again := { engine with mailbox := other }.tick
    again.value.1.scheduler.queue.map Submission.attempt = [2] ∧
      again.value.1.ledger.outstandingOn 3 = 1 ∧
      Effect.deeds again.effects = Effect.deeds pass.effects := by
  intro options engine events other pass again
  have node : engine.node = 1 := by decide +kernel
  have queue : pass.value.1.scheduler.queue.map Submission.attempt = [2] := by decide +kernel
  have outstanding : pass.value.1.ledger.outstandingOn 3 = 1 := by decide +kernel
  clear_value engine
  have same : Rearranged engine.node events other := by
    rw [node]
    intro kind
    cases kind <;> rfl
  obtain ⟨_, value, deeds, _⟩ := tick_rearranged engine events other same
  have equal : again.value = pass.value := value
  rw [equal]
  exact ⟨queue, outstanding, deeds⟩

end Engine

end JobPool
