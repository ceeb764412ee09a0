/-
**Irrelevant messages have no effect.**

A message is irrelevant if its handler refuses it: a request to a master, a registration of a worker
whose account is open or closed, a completion of a request that is not outstanding on its sender, and
on a worker any registration or completion. Whether it is so depends on the state in which it is
handled, after the messages before it. All that it leaves behind is a higher count of messages and a
longer queue. So two runs of which the second lacks some irrelevant messages go through the same
states but for these two counts.

* `Engine.Irrelevant`, `handle_of_irrelevant` — the messages, and that their handlers refuse them;
* `Engine.Accords` — what a registration relies on: scheduler and ledger agree about every worker;
* `Engine.recounted` — an engine with other counts of messages, which no operation looks at;
* `Arrival`, `Round`, `Engine.rounds` — runs as sequences of passes with what arrives before each;
* `Engine.OmitsIrrelevant` — every message that the second run lacks is irrelevant when handled;
* `Engine.irrelevant_without_effect` — the main result.
-/

import JobPool.Proofs.Engine.Kinds
import JobPool.Proofs.Engine.Registrations

namespace JobPool

namespace Effect

/-- The effect only tells that a message has arrived. -/
def isReceipt : Effect → Bool
  | handled _ | resolved .. => true
  | log _ | applied _ | admitted .. | queued .. | issued .. | sent .. | ran .. | answered ..
  | linkClosed | brokeDown _ => false

/-- The deeds that are no receipts, in order. -/
def consequences (effects : List Effect) : List Effect :=
  (deeds effects).filter fun effect => !effect.isReceipt

@[simp] theorem consequences_append (first second : List Effect) :
    consequences (first ++ second) = consequences first ++ consequences second := by
  rw [consequences, deeds_append, List.filter_append, consequences, consequences]

end Effect

namespace Engine

/-! ### Messages that are refused -/

/-- **A message is irrelevant to an engine** in the state in which it is handled. -/
def Irrelevant (engine : Engine) (message : Message) : Prop :=
  match message.payload with
  | .execute .. => engine.scheduler.isMaster = true
  | .register => engine.scheduler.isMaster = true →
      engine.ledger.isRegistered message.source = true ∨
        engine.ledger.isDeparted message.source = true
  | .completed request .. => engine.scheduler.isMaster = true →
      engine.ledger.isDeparted message.source = false ∧
        request ∉ (engine.ledger.requests message.source).map Request.id

instance decidableIrrelevant (engine : Engine) :
    (message : Message) → Decidable (engine.Irrelevant message)
  | ⟨_, .execute ..⟩ => inferInstanceAs (Decidable (engine.scheduler.isMaster = true))
  | ⟨source, .register⟩ => inferInstanceAs (Decidable (engine.scheduler.isMaster = true →
      engine.ledger.isRegistered source = true ∨ engine.ledger.isDeparted source = true))
  | ⟨source, .completed request ..⟩ => inferInstanceAs (Decidable (engine.scheduler.isMaster = true →
      engine.ledger.isDeparted source = false ∧
        request ∉ (engine.ledger.requests source).map Request.id))

/-- On the master, scheduler and ledger agree about every other node. -/
def Accords (engine : Engine) : Prop :=
  engine.scheduler.isMaster = true → ∀ worker, worker ≠ engine.scheduler.node →
    Agreement engine.scheduler engine.ledger worker

/-- The margin with other counts of messages. -/
def Margin.recounted (margin : Margin) (messages longestQueue : Nat) : Margin :=
  { margin with messages := messages, longestQueue := longestQueue }

/-- The engine with other counts of messages. -/
def recounted (engine : Engine) (messages longestQueue : Nat) : Engine :=
  { engine with messages := messages, longestQueue := longestQueue }

/-- A worker that is registered or has departed is admitted no more. -/
private theorem not_admits {engine : Engine} (accords : engine.Accords) {worker : NodeId}
    (known : engine.ledger.isRegistered worker = true ∨ engine.ledger.isDeparted worker = true) :
    ¬ engine.scheduler.Admits worker := by
  intro admits
  have agreement := accords admits.master worker admits.other
  rcases known with registered | departed
  · have recorded := agreement.known (Ledger.isRegistered_iff.mp registered)
    cases recorded.symm.trans admits.unseen
  · exact admits.present (agreement.closed.mp (Ledger.isDeparted_iff.mp departed))

/-- A worker that is registered or has departed opens no account. -/
private theorem register_of_known {ledger : Ledger} {worker : NodeId}
    (known : ledger.isRegistered worker = true ∨ ledger.isDeparted worker = true) :
    (ledger.register worker).value = ledger := by
  unfold Ledger.isRegistered Ledger.isDeparted at known
  unfold Ledger.register
  split
  · rfl
  · rfl
  next unknown => simp [unknown] at known

/-- A completion of a request that is not outstanding, from a worker that has not departed. -/
private theorem complete_of_stray (engine : Engine) {worker : NodeId} {request : RequestId}
    (present : engine.ledger.isDeparted worker = false)
    (stray : request ∉ (engine.ledger.requests worker).map Request.id)
    (result : Bytes) (failed : Bool) (seconds : Float) :
    (engine.complete worker request result failed seconds).value = engine ∧
      Effect.deeds (engine.complete worker request result failed seconds).effects =
        [.resolved worker request false] := by
  obtain ⟨silent, ⟨refused, _⟩ | ⟨before, struck, later, active, named, _⟩⟩ :=
    engine.ledger.resolve_cases worker request failed
  · unfold complete
    simp only [Traced.value_bind, Traced.effects_bind, Effect.deeds_append, refused, silent, present]
    exact ⟨rfl, rfl⟩
  · refine (stray ?_).elim
    rw [Ledger.requests_of_get? active, ← named]
    exact List.mem_map_of_mem (List.mem_append_right _ List.mem_cons_self)

/-- **An irrelevant message is only counted.** -/
theorem handle_of_irrelevant {engine : Engine} (accords : engine.Accords) {message : Message}
    (irrelevant : engine.Irrelevant message) :
    (engine.handle message).value = engine.recounted (engine.messages + 1) engine.longestQueue ∧
      Effect.consequences (engine.handle message).effects = [] := by
  unfold Irrelevant at irrelevant
  rcases engine.handle_cases message with
    ⟨_, _, _, payload, worker, _⟩ |
    ⟨request, result, failed, seconds, payload, master, value, deeds⟩ |
    ⟨payload, master, value, deeds⟩ | ⟨_, _, value, deeds⟩
  · rw [payload] at irrelevant
    cases worker.symm.trans irrelevant
  · rw [payload] at irrelevant
    obtain ⟨present, stray⟩ := irrelevant master
    obtain ⟨same, resolved⟩ := complete_of_stray { engine with messages := engine.messages + 1 }
      present stray result failed seconds
    rw [Effect.consequences, deeds, resolved]
    exact ⟨value.trans same, rfl⟩
  · rw [payload] at irrelevant
    have known := irrelevant master
    have refused : (engine.scheduler.join message.source).value = engine.scheduler := by
      rcases engine.scheduler.join_exact message.source with ⟨_, same⟩ | ⟨admits, _⟩
      · exact same
      · exact (not_admits accords known admits).elim
    rw [Effect.consequences, deeds, value, refused, register_of_known known]
    exact ⟨rfl, rfl⟩
  · rw [Effect.consequences, deeds, value]
    exact ⟨rfl, rfl⟩

/-! ### What a registration relies on -/

/-- A step that keeps the agreement with every worker. -/
private theorem Accords.step {engine next : Engine} {effects : List Effect}
    (accords : engine.Accords) (steady : engine.Steady next)
    (enrolment : engine.scheduler.isMaster = true → Enrolment engine next effects) :
    next.Accords := by
  intro still worker other
  have master := steady.isMaster.symm.trans still
  have change := (enrolment master).change
  rw [change.part.1] at other
  exact change.agreement (accords master worker other) master other

theorem accords_create (options : Options) (node master : NodeId) (link : Link) :
    (create options node master link).Accords := by
  intro _ worker _
  refine ⟨⟨fun closed => ?_, fun listed => ?_⟩, fun _ marked => ?_, fun known => ?_⟩
  · cases closed
  · cases listed
  · cases marked
  · cases known

theorem Accords.accept {engine : Engine} (accords : engine.Accords) (event : Event) :
    (engine.accept event).value.Accords :=
  accords.step (steady_accept engine event)
    fun _ => @enrolment_accept engine event engine.mailbox

theorem Accords.handle {engine : Engine} (accords : engine.Accords) (message : Message) :
    (engine.handle message).value.Accords :=
  accords.step (steady_handle engine message)
    fun _ => @enrolment_handle engine message engine.inbound

theorem Accords.depart {engine : Engine} (accords : engine.Accords) (node : NodeId) :
    (engine.depart node).value.Accords :=
  accords.step (steady_depart engine node)
    fun master => @enrolment_depart engine node engine.departed master

theorem Accords.arrive {engine : Engine} (accords : engine.Accords) (node : NodeId) :
    (engine.arrive node).value.Accords :=
  accords.step (steady_arrive engine node)
    fun _ => @enrolment_arrive engine node engine.joined

theorem Accords.applyMembership {engine : Engine} (accords : engine.Accords) :
    engine.applyMembership.value.1.Accords := by
  unfold Engine.applyMembership
  rw [Traced.value_bind, Traced.value_bind]
  have departed : (engine.departed.foldlM Engine.depart
      { engine with departed := [] }).value.Accords :=
    Traced.foldlM_preserves Engine.depart engine.departed
      (fun state node _ (accords : state.Accords) => accords.depart node) accords
  exact Traced.foldlM_preserves Engine.arrive _
    (fun state node _ (accords : state.Accords) => accords.arrive node) departed

theorem Accords.runOne {engine : Engine} (accords : engine.Accords) :
    engine.runOne.value.1.Accords := by
  unfold Engine.runOne
  split
  · exact accords
  next request rest _ =>
    have taken : { engine with work := rest }.Accords := accords
    exact taken.step (steady_execute _ request) fun _ =>
      @enrolment_execute { engine with work := rest } request rest

theorem Accords.afterMessages {engine : Engine} (accords : engine.Accords) (received : Bool) :
    (engine.afterMessages received).value.1.Accords := by
  have dispatched : engine.applyMembership.value.1.dispatch.value.1.Accords :=
    accords.applyMembership.step (steady_dispatch _) fun _ => enrolment_dispatch
  unfold Engine.afterMessages
  split
  · exact accords
  · exact dispatched.runOne

/-! ### Other counts -/

section Counts

variable (engine : Engine) (messages longestQueue : Nat)

private theorem withMargin_recounted {next : Engine} (kept : next.margin = engine.margin) :
    next.withMargin (engine.margin.recounted messages longestQueue) =
      next.recounted messages longestQueue := by
  rw [← kept]
  rfl

theorem depart_recounted (node : NodeId) :
    (engine.recounted messages longestQueue).depart node =
      ⟨(engine.depart node).value.recounted messages longestQueue,
        (engine.depart node).effects⟩ := by
  rw [← withMargin_recounted engine messages longestQueue (engine.margin_depart node)]
  exact engine.depart_withMargin (engine.margin.recounted messages longestQueue) node

theorem arrive_recounted (node : NodeId) :
    (engine.recounted messages longestQueue).arrive node =
      ⟨(engine.arrive node).value.recounted messages longestQueue,
        (engine.arrive node).effects⟩ := by
  rw [← withMargin_recounted engine messages longestQueue (engine.margin_arrive node)]
  exact engine.arrive_withMargin (engine.margin.recounted messages longestQueue) node

/-- A message adds one to either count. -/
theorem handle_recounted (message : Message) :
    (engine.recounted messages longestQueue).handle message =
      ⟨(engine.handle message).value.recounted (messages + 1) longestQueue,
        (engine.handle message).effects⟩ := by
  have kept : (engine.handle message).value.margin = (engine.recounted
      (engine.messages + 1) engine.longestQueue).margin := engine.margin_handle message
  rw [← withMargin_recounted _ _ _ kept]
  exact engine.handle_withMargin (engine.margin.recounted messages longestQueue) message

theorem applyMembership_recounted :
    (engine.recounted messages longestQueue).applyMembership =
      ⟨(engine.applyMembership.value.1.recounted messages longestQueue,
        engine.applyMembership.value.2), engine.applyMembership.effects⟩ := by
  have departing := Traced.foldlM_commutes depart (recounted · messages longestQueue)
    (fun state node => state.depart_recounted messages longestQueue node) engine.departed
    { engine with departed := [] }
  have departures : (engine.recounted messages longestQueue).departed = engine.departed := rfl
  dsimp only [applyMembership]
  rw [departures]
  generalize engine.departed.foldlM depart { engine with departed := [] } = told at departing ⊢
  have arriving := Traced.foldlM_commutes arrive (recounted · messages longestQueue)
    (fun state node => state.arrive_recounted messages longestQueue node) told.value.joined
    { told.value with joined := [] }
  refine (congrArg (fun act : Act Engine => act >>= _) departing).trans ?_
  exact congrArg (fun act : Act Engine => Traced.mk
    (act.value, !engine.departed.isEmpty || !told.value.joined.isEmpty)
    (told.effects ++ (act.effects ++ []))) arriving

theorem dispatch_recounted :
    (engine.recounted messages longestQueue).dispatch =
      ⟨(engine.dispatch.value.1.recounted messages longestQueue, engine.dispatch.value.2),
        engine.dispatch.effects⟩ := by
  have kept : engine.dispatch.value.1.margin = engine.margin :=
    congrArg (fun act : Act (Engine × Bool) => act.value.1.margin)
      (engine.dispatch_withMargin engine.margin)
  rw [← withMargin_recounted engine messages longestQueue kept]
  exact engine.dispatch_withMargin (engine.margin.recounted messages longestQueue)

theorem runOne_recounted :
    (engine.recounted messages longestQueue).runOne =
      ⟨(engine.runOne.value.1.recounted messages longestQueue, engine.runOne.value.2),
        engine.runOne.effects⟩ := by
  have kept : engine.runOne.value.1.margin = engine.margin :=
    congrArg (fun act : Act (Engine × Bool) => act.value.1.margin)
      (engine.runOne_withMargin engine.margin)
  rw [← withMargin_recounted engine messages longestQueue kept]
  exact engine.runOne_withMargin (engine.margin.recounted messages longestQueue)

/-- **No count matters after the messages**, and neither does whether there were any. -/
theorem afterMessages_recounted (received other : Bool) :
    ((engine.recounted messages longestQueue).afterMessages other).value.1 =
        (engine.afterMessages received).value.1.recounted messages longestQueue ∧
      ((engine.recounted messages longestQueue).afterMessages other).effects =
        (engine.afterMessages received).effects := by
  have reason : (engine.recounted messages longestQueue).stopReason = engine.stopReason := rfl
  unfold afterMessages
  rw [reason]
  split
  · exact ⟨rfl, rfl⟩
  · rw [applyMembership_recounted]
    simp only [Traced.value_bind, Traced.effects_bind, dispatch_recounted, runOne_recounted]
    exact ⟨rfl, rfl⟩

end Counts

/-! ### Runs that lack some messages -/

/-- The engine with other messages waiting and other counts of messages. -/
def thinned (engine : Engine) (inbound : List Message) (messages longestQueue : Nat) : Engine :=
  { engine with inbound := inbound, messages := messages, longestQueue := longestQueue }

/-- The margin with other messages waiting and other counts of messages. -/
def Margin.thinned (margin : Margin) (inbound : List Message) (messages longestQueue : Nat) :
    Margin :=
  { margin with inbound := inbound, messages := messages, longestQueue := longestQueue }

end Engine

/-- An event that reaches an engine, and whether the second of two runs lacks it. -/
structure Arrival where
  event : Event
  omitted : Bool := false

namespace Arrival

/-- The events of the first run. -/
def all (arrivals : List Arrival) : List Event := arrivals.map event

/-- The events of the second run. -/
def kept (arrivals : List Arrival) : List Event :=
  (arrivals.filter fun arrival => !arrival.omitted).map event

theorem all_append (first second : List Arrival) :
    all (first ++ second) = all first ++ all second :=
  List.map_append

theorem kept_append (first second : List Arrival) :
    kept (first ++ second) = kept first ++ kept second := by
  rw [kept, List.filter_append, List.map_append, kept, kept]

theorem kept_cons (arrival : Arrival) (rest : List Arrival) :
    kept (arrival :: rest) = if arrival.omitted then kept rest else arrival.event :: kept rest := by
  rw [kept, List.filter_cons]
  cases arrival.omitted <;> rfl

end Arrival

namespace Engine

/-- **Every message that the second run lacks is irrelevant** in the state in which the first run
handles it. The arrivals are those of one pass, and the state is that before its first message. -/
def OmitsIrrelevant (engine : Engine) : List Arrival → Prop
  | [] => True
  | arrival :: rest =>
    match arrival.event.message? with
    | none => arrival.omitted = false ∧ engine.OmitsIrrelevant rest
    | some message => (arrival.omitted = true → engine.Irrelevant message) ∧
        (engine.handle message).value.OmitsIrrelevant rest

instance decidableOmits :
    (engine : Engine) → (arrivals : List Arrival) → Decidable (engine.OmitsIrrelevant arrivals)
  | _, [] => .isTrue trivial
  | engine, ⟨.message message, omitted⟩ :: rest =>
    have := decidableOmits (engine.handle message).value rest
    inferInstanceAs (Decidable ((omitted = true → engine.Irrelevant message) ∧
      (engine.handle message).value.OmitsIrrelevant rest))
  | engine, ⟨.membership _, omitted⟩ :: rest
  | engine, ⟨.submit _ _ _, omitted⟩ :: rest
  | engine, ⟨.endSubmissions, omitted⟩ :: rest
  | engine, ⟨.shutdown, omitted⟩ :: rest =>
    have := decidableOmits engine rest
    inferInstanceAs (Decidable (omitted = false ∧ engine.OmitsIrrelevant rest))

/-- Only messages are left out. -/
theorem OmitsIrrelevant.message {engine : Engine} {arrivals : List Arrival}
    (omits : engine.OmitsIrrelevant arrivals) :
    ∀ arrival ∈ arrivals, arrival.omitted = true → ∃ message, arrival.event = .message message := by
  induction arrivals generalizing engine with
  | nil => nofun
  | cons arrival rest hypothesis =>
    rw [OmitsIrrelevant] at omits
    intro other member omitted
    rcases List.mem_cons.mp member with rfl | later
    · split at omits
      · cases omits.1.symm.trans omitted
      next message taken =>
        cases event : other.event with
        | message message => exact ⟨message, rfl⟩
        | membership _ | submit _ _ _ | endSubmissions | shutdown =>
          rw [event] at taken
          cases taken
    · split at omits
      · exact hypothesis omits.2 other later omitted
      · exact hypothesis omits.2 other later omitted

/-- **What two runs have in common**: the state but for the counts of messages, and all deeds but for
the receipts. -/
structure Agrees (whole left : Act Engine) : Prop where
  value : ∃ messages longestQueue, left.value = whole.value.recounted messages longestQueue
  effects : Effect.consequences left.effects = Effect.consequences whole.effects

theorem Agrees.after {whole left : Act Engine} (agrees : Agrees whole left)
    {before other : List Effect}
    (same : Effect.consequences other = Effect.consequences before) :
    Agrees ⟨whole.value, before ++ whole.effects⟩ ⟨left.value, other ++ left.effects⟩ :=
  ⟨agrees.value, by
    rw [Effect.consequences_append, Effect.consequences_append, same, agrees.effects]⟩

theorem Agrees.bind {α : Type} {first other : Act α} {next again : α → Act Engine}
    (same : Effect.consequences other.effects = Effect.consequences first.effects)
    (agrees : Agrees (next first.value) (again other.value)) :
    Agrees (first >>= next) (other >>= again) :=
  agrees.after same

/-- The second run handles the messages that it has as the first. -/
theorem handle_all_omitting {engine : Engine} (accords : engine.Accords) {arrivals : List Arrival}
    (omits : engine.OmitsIrrelevant arrivals) (messages longestQueue : Nat) :
    Agrees (((Arrival.all arrivals).filterMap Event.message?).foldlM handle engine)
      (((Arrival.kept arrivals).filterMap Event.message?).foldlM handle
        (engine.recounted messages longestQueue)) := by
  induction arrivals generalizing engine messages with
  | nil => exact ⟨⟨messages, longestQueue, rfl⟩, rfl⟩
  | cons arrival rest hypothesis =>
    rw [OmitsIrrelevant] at omits
    rw [Arrival.kept_cons, Arrival.all, List.map_cons]
    split at omits
    next none =>
      rw [omits.1, if_neg Bool.false_ne_true, List.filterMap_cons_none none,
        List.filterMap_cons_none none]
      exact hypothesis accords omits.2 messages
    next message some =>
      have handled := accords.handle message
      rw [List.filterMap_cons_some some, List.foldlM_cons]
      cases omitted : arrival.omitted with
      | false =>
        rw [if_neg Bool.false_ne_true, List.filterMap_cons_some some, List.foldlM_cons,
          handle_recounted]
        exact (hypothesis handled omits.2 (messages + 1)).after rfl
      | true =>
        obtain ⟨value, silent⟩ := handle_of_irrelevant accords (omits.1 omitted)
        have same : engine.recounted messages longestQueue =
            (engine.handle message).value.recounted messages longestQueue := by
          rw [value]
          rfl
        have unsaid : Effect.consequences [] =
            Effect.consequences (engine.handle message).effects := silent.symm
        have later := (hypothesis handled omits.2 messages).after unsaid
        rw [List.nil_append] at later
        rw [if_pos rfl, same]
        exact later

section Accepting

variable (engine : Engine) (inbound : List Message) (messages longestQueue : Nat)

theorem Margin.note_thinned (margin : Margin) (node : NodeId) (event : Event) :
    (margin.thinned inbound messages longestQueue).note node event =
      (margin.note node event).thinned (inbound ++ event.message?.toList) messages
        longestQueue := by
  cases event with
  | message message => rfl
  | membership change =>
    simp only [Event.message?, Option.toList_none, List.append_nil]
    cases change with
    | departed other =>
      rw [note, note]
      split <;> rfl
    | joined other | poolTerminated => rfl
  | submit ticket job input | endSubmissions | shutdown =>
    simp only [Event.message?, Option.toList_none, List.append_nil]
    rfl

theorem accept_thinned (event : Event) :
    (engine.thinned inbound messages longestQueue).accept event =
      ⟨(engine.accept event).value.thinned (inbound ++ event.message?.toList) messages longestQueue,
        (engine.accept event).effects⟩ := by
  have beside := engine.accept_withMargin (engine.margin.thinned inbound messages longestQueue)
    event
  rw [Margin.note_thinned, ← margin_accept] at beside
  exact beside

/-- **Whatever messages it lacks, the second run accepts the events as the first.** -/
theorem accept_all_thinned (arrivals : List Arrival)
    (only : ∀ arrival ∈ arrivals, arrival.omitted = true →
      ∃ message, arrival.event = .message message) :
    (Arrival.kept arrivals).foldlM accept (engine.thinned inbound messages longestQueue) =
      ⟨((Arrival.all arrivals).foldlM accept engine).value.thinned
          (inbound ++ (Arrival.kept arrivals).filterMap Event.message?) messages longestQueue,
        ((Arrival.all arrivals).foldlM accept engine).effects⟩ := by
  induction arrivals generalizing engine inbound with
  | nil =>
    simp only [Arrival.kept, Arrival.all, List.filter_nil, List.map_nil, List.foldlM_nil,
      List.filterMap_nil, List.append_nil]
    rfl
  | cons arrival rest hypothesis =>
    have later (inbound : List Message) :=
      hypothesis (engine.accept arrival.event).value inbound
        fun other member => only other (List.mem_cons_of_mem arrival member)
    rw [Arrival.kept_cons, Arrival.all, List.map_cons, List.foldlM_cons]
    cases omitted : arrival.omitted with
    | true =>
      -- A message that is left out waits in the queue of the first run only.
      obtain ⟨message, event⟩ := only arrival List.mem_cons_self omitted
      rw [event] at later ⊢
      exact later inbound
    | false =>
      have first : (arrival.event :: Arrival.kept rest).filterMap Event.message? =
          arrival.event.message?.toList ++ (Arrival.kept rest).filterMap Event.message? := by
        rw [List.filterMap_cons]
        cases arrival.event.message? <;> rfl
      rw [if_neg Bool.false_ne_true, List.foldlM_cons, accept_thinned, first, ← List.append_assoc]
      exact congrArg (fun act : Act Engine => Traced.mk act.value
        ((engine.accept arrival.event).effects ++ act.effects))
        (later (inbound ++ arrival.event.message?.toList))

end Accepting

theorem inbound_accept_all (engine : Engine) (events : List Event) :
    (events.foldlM accept engine).value.inbound =
      engine.inbound ++ events.filterMap Event.message? := by
  rw [(accept_all_eq engine events).1]
  rfl

theorem inbound_afterMessages (engine : Engine) (received : Bool) :
    (engine.afterMessages received).value.1.inbound = engine.inbound := by
  unfold afterMessages
  split
  · rfl
  · exact (runOne_same _).inbound.trans
      ((dispatch_same _).inbound.trans (applyMembership_same engine).inbound)

theorem Agrees.afterMessages {whole left : Act Engine} (agrees : Agrees whole left)
    (received other : Bool) :
    Agrees (Prod.fst <$> (whole >>= fun handled => handled.afterMessages received))
      (Prod.fst <$> (left >>= fun handled => handled.afterMessages other)) := by
  obtain ⟨⟨messages, longestQueue, value⟩, effects⟩ := agrees
  obtain ⟨same, told⟩ := whole.value.afterMessages_recounted messages longestQueue received other
  refine ⟨⟨messages, longestQueue, ?_⟩, ?_⟩
  · rw [Traced.value_map, Traced.value_map, Traced.value_bind, Traced.value_bind, value, same]
  · rw [Traced.effects_map, Traced.effects_map, Traced.effects_bind, Traced.effects_bind, value,
      told, Effect.consequences_append, Effect.consequences_append, effects]

private theorem severed_thinned (engine : Engine) (inbound : List Message)
    (messages longestQueue : Nat) :
    (engine.thinned inbound messages longestQueue).severed =
      engine.severed.thinned inbound messages longestQueue := by
  have connected : (engine.thinned inbound messages longestQueue).connected = engine.connected := rfl
  rw [severed, severed, connected]
  split <;> rfl

/-- **Once the mailbox is accepted, the second run makes the rest of the pass as the first.** -/
theorem finishTick_omitting {accepted : Engine}
    (accords : accepted.severed.measured.Accords) {arrivals : List Arrival}
    (omits : accepted.severed.measured.OmitsIrrelevant arrivals)
    (inbound : accepted.inbound = (Arrival.all arrivals).filterMap Event.message?)
    (messages longestQueue : Nat) (more less : Bool) :
    Agrees (Prod.fst <$> accepted.finishTick more)
      (Prod.fst <$> (accepted.thinned ((Arrival.kept arrivals).filterMap Event.message?) messages
        longestQueue).finishTick less) := by
  have waiting : accepted.severed.inbound = (Arrival.all arrivals).filterMap Event.message? := by
    rw [← inbound, severed]
    split <;> rfl
  have handled := handle_all_omitting accords omits messages
    (max longestQueue ((Arrival.kept arrivals).filterMap Event.message?).length)
  rw [finishTick, finishTick, severed_thinned, waiting]
  exact handled.afterMessages _ _

/-! ### Rounds -/

/-- **What happens to an engine up to the end of its next pass.** What surrounds it may change, and a
run may have got to another stage. The engine accepts events while it waits, and then finds events in
its mailbox. -/
structure Round where
  stage : Stage
  link : Link
  connected : Bool
  abandonedTickets : List Ticket
  waited : List Arrival
  mailbox : List Arrival

/-- The engine once its surroundings are those of a round. -/
def surrounded (engine : Engine) (round : Round) : Engine :=
  { engine with
    stage := round.stage
    link := round.link
    connected := round.connected
    abandonedTickets := round.abandonedTickets }

/-- A round up to the end of its pass, with all or some of its events. -/
def round (engine : Engine) (events : List Arrival → List Event) (round : Round) : Act Engine := do
  let engine ← (events round.waited).foldlM accept (engine.surrounded round)
  let (engine, _) ← { engine with mailbox := events round.mailbox }.tick
  return engine

/-- The engine of the first run once it has accepted all events of a round. -/
def afterMailbox (engine : Engine) (round : Round) : Engine :=
  let waited := (Arrival.all round.waited).foldlM accept (engine.surrounded round)
  ((Arrival.all round.mailbox).foldlM accept { waited.value with mailbox := [] }).value

theorem inbound_afterMailbox {engine : Engine} (empty : engine.inbound = []) (round : Round) :
    (engine.afterMailbox round).inbound =
      (Arrival.all (round.waited ++ round.mailbox)).filterMap Event.message? := by
  have first := inbound_accept_all (engine.surrounded round) (Arrival.all round.waited)
  have start : (engine.surrounded round).inbound = [] := empty
  rw [start, List.nil_append] at first
  rw [afterMailbox, inbound_accept_all, Arrival.all_append, List.filterMap_append]
  exact congrArg (· ++ _) first

theorem Accords.afterMailbox {engine : Engine} (accords : engine.Accords) (round : Round) :
    (engine.afterMailbox round).severed.measured.Accords := by
  have surrounded : (engine.surrounded round).Accords := accords
  have waited : ((Arrival.all round.waited).foldlM Engine.accept
      (engine.surrounded round)).value.Accords :=
    Traced.foldlM_preserves Engine.accept _
      (fun state event _ (accords : state.Accords) => accords.accept event) surrounded
  have accepted : (engine.afterMailbox round).Accords :=
    Traced.foldlM_preserves Engine.accept _
      (fun state event _ (accords : state.Accords) => accords.accept event) waited
  have severed : (engine.afterMailbox round).severed.Accords := by
    unfold Engine.severed
    split
    · exact accepted
    · exact accepted
  exact severed

/-- A round accepts its events and makes the rest of a pass. -/
theorem round_eq (engine : Engine) (events : List Arrival → List Event) (round : Round) :
    engine.round events round = (do
      let waited ← (events round.waited).foldlM accept (engine.surrounded round)
      let accepted ← (events round.mailbox).foldlM accept { waited with mailbox := [] }
      Prod.fst <$> accepted.finishTick (!(events round.mailbox).isEmpty)) := by
  rw [Engine.round]
  simp only [tick_eq, bind_assoc, map_eq_pure_bind]

theorem value_round (engine : Engine) (round : Round) :
    (engine.round Arrival.all round).value =
      ((engine.afterMailbox round).finishTick (!(Arrival.all round.mailbox).isEmpty)).value.1 := by
  rw [round_eq]
  rfl

theorem Accords.round {engine : Engine} (accords : engine.Accords) (round : Round) :
    (engine.round Arrival.all round).value.Accords := by
  rw [value_round, finishTick, Traced.value_bind]
  exact (Traced.foldlM_preserves Engine.handle _
    (fun state message _ (accords : state.Accords) => accords.handle message)
    (accords.afterMailbox round)).afterMessages _

/-- A pass leaves no messages. -/
theorem inbound_round (engine : Engine) (round : Round) :
    (engine.round Arrival.all round).value.inbound = [] := by
  rw [value_round, finishTick, Traced.value_bind, inbound_afterMessages]
  exact (handle_all_same _ _).inbound

/-- **Every message that the second run lacks in a round is irrelevant.** -/
def Round.OmitsIrrelevant (engine : Engine) (round : Round) : Prop :=
  (engine.afterMailbox round).severed.measured.OmitsIrrelevant (round.waited ++ round.mailbox)

/-- **A round without some irrelevant messages comes to the same.** -/
theorem round_omitting {engine : Engine} (accords : engine.Accords) (empty : engine.inbound = [])
    {round : Round} (omits : round.OmitsIrrelevant engine) (messages longestQueue : Nat) :
    Agrees (engine.round Arrival.all round)
      ((engine.recounted messages longestQueue).round Arrival.kept round) := by
  have only := omits.message
  have waiting := accept_all_thinned (engine.surrounded round) engine.inbound messages longestQueue
    round.waited fun arrival member => only arrival (List.mem_append_left _ member)
  rw [empty, List.nil_append] at waiting
  have finished := finishTick_omitting (accords.afterMailbox round) omits
    (inbound_afterMailbox empty round) messages longestQueue
    (!(Arrival.all round.mailbox).isEmpty) (!(Arrival.kept round.mailbox).isEmpty)
  rw [Arrival.kept_append, List.filterMap_append] at finished
  rw [round_eq, round_eq]
  have start : (engine.recounted messages longestQueue).surrounded round =
      (engine.surrounded round).thinned [] messages longestQueue := by
    rw [← empty]
    rfl
  rw [start, waiting]
  have arriving := accept_all_thinned
    { ((Arrival.all round.waited).foldlM accept (engine.surrounded round)).value with mailbox := [] }
    ((Arrival.kept round.waited).filterMap Event.message?) messages longestQueue round.mailbox
    fun arrival member => only arrival (List.mem_append_right _ member)
  refine Agrees.bind rfl (Agrees.bind (congrArg (Effect.consequences ·.effects) arriving) ?_)
  have accepted := congrArg Traced.value arriving
  refine (congrArg (fun state : Engine => Agrees _ (Prod.fst <$> state.finishTick _))
    accepted).mpr ?_
  exact finished

/-! ### Whole runs -/

/-- **A run as a sequence of rounds**, with all or some of their events. -/
def rounds (engine : Engine) (events : List Arrival → List Event) (rounds : List Round) :
    Act Engine :=
  rounds.foldlM (fun engine round => engine.round events round) engine

/-- **Every message that the second run lacks is irrelevant** when the first run handles it. -/
def RoundsOmitIrrelevant (engine : Engine) : List Round → Prop
  | [] => True
  | round :: rest => round.OmitsIrrelevant engine ∧
      (engine.round Arrival.all round).value.RoundsOmitIrrelevant rest

instance decidableRoundsOmit :
    (engine : Engine) → (run : List Round) → Decidable (engine.RoundsOmitIrrelevant run)
  | _, [] => .isTrue trivial
  | engine, round :: rest =>
    have := decidableRoundsOmit (engine.round Arrival.all round).value rest
    inferInstanceAs (Decidable
      ((engine.afterMailbox round).severed.measured.OmitsIrrelevant (round.waited ++ round.mailbox) ∧
        (engine.round Arrival.all round).value.RoundsOmitIrrelevant rest))

theorem rounds_omitting {engine : Engine} (accords : engine.Accords) (empty : engine.inbound = [])
    {run : List Round} (omits : engine.RoundsOmitIrrelevant run) (messages longestQueue : Nat) :
    Agrees (engine.rounds Arrival.all run)
      ((engine.recounted messages longestQueue).rounds Arrival.kept run) := by
  induction run generalizing engine messages longestQueue with
  | nil => exact ⟨⟨messages, longestQueue, rfl⟩, rfl⟩
  | cons round rest hypothesis =>
    obtain ⟨here, later⟩ := omits
    obtain ⟨⟨counted, longest, value⟩, effects⟩ :=
      round_omitting accords empty here messages longestQueue
    rw [rounds, rounds, List.foldlM_cons, List.foldlM_cons]
    refine Agrees.bind effects ?_
    rw [value]
    exact hypothesis (accords.round round) (engine.inbound_round round) later counted longest

theorem RoundsOmitIrrelevant.take {engine : Engine} {run : List Round}
    (omits : engine.RoundsOmitIrrelevant run) (passes : Nat) :
    engine.RoundsOmitIrrelevant (run.take passes) := by
  induction run generalizing engine passes with
  | nil =>
    rw [List.take_nil]
    exact omits
  | cons round rest hypothesis =>
    cases passes with
    | zero => trivial
    | succ fewer => exact ⟨omits.1, hypothesis omits.2 fewer⟩

/-- **Irrelevant messages have no effect.** Of two runs of an engine of either role, with the same
passes in the same surroundings, let the second lack any messages that are irrelevant when the first
run handles them. After every pass the engines are the same but for the number of messages and the
longest queue, and the runs have sent, answered, queued, dispatched, applied and run the same. -/
theorem irrelevant_without_effect (options : Options) (node master : NodeId) (link : Link)
    (run : List Round) (omits : (create options node master link).RoundsOmitIrrelevant run)
    (passes : Nat) :
    let whole := (create options node master link).rounds Arrival.all (run.take passes)
    let left := (create options node master link).rounds Arrival.kept (run.take passes)
    left.value = { whole.value with
        messages := left.value.messages
        longestQueue := left.value.longestQueue } ∧
      Effect.consequences left.effects = Effect.consequences whole.effects := by
  intro whole left
  obtain ⟨⟨messages, longestQueue, value⟩, effects⟩ : Agrees whole left :=
    rounds_omitting (accords_create options node master link) rfl (omits.take passes) 0 0
  refine ⟨?_, effects⟩
  rw [value]
  rfl

/-- A second registration, a request to the master and completions of a stranger and of a request
that was not issued are left out. The only job goes to the same worker under the same request, and
the first run has handled six messages where the second has handled two. -/
theorem irrelevant_without_effect_noise :
    let options := ({ scheduler := { selector := .roundRobin } } : Settings).options
    let run : List Round :=
      [{ stage := .passing, link := {}, connected := true, abandonedTickets := [], waited := []
         mailbox := [⟨.message ⟨2, .completed 1 [] false 1⟩, true⟩, ⟨.message ⟨2, .register⟩, false⟩,
           ⟨.submit 0 (.sleep 0) [], false⟩, ⟨.message ⟨2, .register⟩, true⟩] },
       { stage := .waiting, link := {}, connected := true, abandonedTickets := []
         waited := [⟨.message ⟨3, .execute 1 (.sleep 0) []⟩, true⟩]
         mailbox := [⟨.message ⟨2, .completed 2 [] true 1⟩, true⟩, ⟨.message ⟨3, .register⟩, false⟩,
           ⟨.membership (.departed 2), false⟩] }]
    let whole := (create options 1 1 {}).rounds Arrival.all run
    let left := (create options 1 1 {}).rounds Arrival.kept run
    whole.value.messages = 6 ∧ left.value.messages = 2 ∧
      left.value.ledger.outstandingOn 3 = 1 ∧
      left.value.scheduler.records.keys = whole.value.scheduler.records.keys ∧
      Effect.consequences left.effects = Effect.consequences whole.effects := by
  intro options run whole left
  have omits : (create options 1 1 {}).RoundsOmitIrrelevant run := by decide +kernel
  have counted : whole.value.messages = 6 ∧ left.value.messages = 2 ∧
      left.value.ledger.outstandingOn 3 = 1 := by decide +kernel
  have both : run.take 2 = run := rfl
  clear_value run
  obtain ⟨value, effects⟩ := irrelevant_without_effect options 1 1 {} run omits 2
  rw [both] at value effects
  have records := congrArg (fun engine : Engine => engine.scheduler.records.keys) value
  exact ⟨counted.1, counted.2.1, counted.2.2, records, effects⟩

end Engine

end JobPool
