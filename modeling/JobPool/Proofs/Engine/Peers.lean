/-
**The peers that an engine counts.**

An engine counts its peers up with every join of another node and down with every departure, but not
below zero. It does so when a change takes effect, and a pass applies all departures before all
joins, whatever the order in which they arrived. A departure that is applied while the count is zero
takes nothing off it, and the join that belongs to it still adds one: from then on the count is too
high by one. Such departures can be read off the history of an engine, and nothing else keeps the
count from the number of nodes that have joined and not departed.

* `headcount`, `missed` — the count after some changes, and the departures that it missed;
* `remoteNews`, `Effect.changes` — what an engine was told of other nodes, and what took effect;
* `Engine.Counts` — what a part of a run does to the queues of the membership and to the count;
  `counts_tick`, `counts_advance` and the others say it of every part;
* `Session.peers_counted` — the count whenever both queues are empty.
-/

import JobPool.Proofs.Engine.Reasons
import JobPool.Proofs.Pool.Views

namespace JobPool

/-! ### Counting changes -/

namespace MembershipEvent

/-- The node that joins. -/
def joining? : MembershipEvent → Option NodeId
  | joined node => some node
  | departed _ | poolTerminated => none

/-- The node that departs. -/
def leaving? : MembershipEvent → Option NodeId
  | departed node => some node
  | joined _ | poolTerminated => none

/-- The change concerns a node other than the given one. -/
def isRemote (node : NodeId) : MembershipEvent → Bool
  | joined other | departed other => other ≠ node
  | poolTerminated => false

/-- The number of peers after a change. No departure takes it below zero. -/
def count (peers : Nat) : MembershipEvent → Nat
  | joined _ => peers + 1
  | departed _ => peers - 1
  | poolTerminated => peers

/-- The change is a departure that finds no peer. -/
def misses (peers : Nat) : MembershipEvent → Nat
  | departed _ => if peers = 0 then 1 else 0
  | joined _ | poolTerminated => 0

end MembershipEvent

/-- The nodes that join, in the order of the changes. -/
def joiners (changes : List MembershipEvent) : List NodeId :=
  changes.filterMap MembershipEvent.joining?

/-- The nodes that depart, in the order of the changes. -/
def leavers (changes : List MembershipEvent) : List NodeId :=
  changes.filterMap MembershipEvent.leaving?

/-- The number of peers after some changes. -/
def headcount (peers : Nat) (changes : List MembershipEvent) : Nat :=
  changes.foldl MembershipEvent.count peers

/-- The departures among some changes that find no peer. -/
def missed (peers : Nat) : List MembershipEvent → Nat
  | [] => 0
  | change :: rest => change.misses peers + missed (change.count peers) rest

section Counting

variable (first second changes : List MembershipEvent) (peers : Nat)

@[simp] theorem joiners_append : joiners (first ++ second) = joiners first ++ joiners second :=
  List.filterMap_append

@[simp] theorem leavers_append :
    leavers (first ++ second) = leavers first ++ leavers second :=
  List.filterMap_append

theorem headcount_append :
    headcount peers (first ++ second) = headcount (headcount peers first) second :=
  List.foldl_append

theorem missed_append :
    missed peers (first ++ second) =
      missed peers first + missed (headcount peers first) second := by
  induction first generalizing peers with
  | nil => exact (Nat.zero_add _).symm
  | cons change rest hypothesis =>
    rw [List.cons_append, missed, hypothesis, missed, Nat.add_assoc]
    rfl

/-- **The count is off by the departures that found no peer.** -/
theorem headcount_balance :
    headcount peers changes + (leavers changes).length =
      peers + (joiners changes).length + missed peers changes := by
  induction changes generalizing peers with
  | nil => rfl
  | cons change rest hypothesis =>
    have later := hypothesis (change.count peers)
    rw [headcount, List.foldl_cons, ← headcount, missed]
    cases change with
    | joined node =>
      have more : (joiners (.joined node :: rest)).length = (joiners rest).length + 1 := rfl
      have same : leavers (.joined node :: rest) = leavers rest := rfl
      simp only [MembershipEvent.count, MembershipEvent.misses] at later ⊢
      rw [more, same]
      omega
    | departed node =>
      have same : joiners (.departed node :: rest) = joiners rest := rfl
      have more : (leavers (.departed node :: rest)).length = (leavers rest).length + 1 := rfl
      simp only [MembershipEvent.count, MembershipEvent.misses] at later ⊢
      rw [more, same]
      split <;> omega
    | poolTerminated =>
      simp only [MembershipEvent.count, MembershipEvent.misses] at later ⊢
      exact later.trans (congrArg _ (Nat.zero_add _).symm)

end Counting

/-- In consistent news, every node that joined is present or has departed. -/
theorem Consistent.length_observed {news : List MembershipEvent} (consistent : Consistent news) :
    (observed news).length + (leavers news).length = (joiners news).length := by
  induction consistent with
  | nil => rfl
  | @join news node _ _ hypothesis =>
    have last : observed (news ++ [.joined node]) = observed news ++ [node] := observed_append ..
    simp only [last, leavers_append, joiners_append, List.length_append]
    show _ + 1 + (_ + 0) = _ + 1
    omega
  | @part news node consistent joined present hypothesis =>
    have last : observed (news ++ [.departed node]) = (observed news).erase node :=
      observed_append ..
    have member : node ∈ observed news := (consistent.mem_observed.2 node).mpr ⟨joined, present⟩
    have fewer := List.length_erase_of_mem member
    have someone := List.length_pos_of_mem member
    simp only [last, leavers_append, joiners_append, List.length_append]
    show _ + (_ + 1) = _ + 0
    omega

/-- **No departure is missed where each one comes after the join of its node.** -/
theorem Consistent.missed_eq_zero {changes : List MembershipEvent}
    (consistent : Consistent changes) : missed 0 changes = 0 := by
  induction consistent with
  | nil => rfl
  | join _ _ hypothesis =>
    rw [missed_append, hypothesis]
    rfl
  | @part changes node consistent joined present hypothesis =>
    -- Up to here the count is the number of those who are there, and one of them departs.
    have balance := headcount_balance changes 0
    have observed := consistent.length_observed
    have member := (consistent.mem_observed.2 node).mpr ⟨joined, present⟩
    have someone := List.length_pos_of_mem member
    rw [missed_append, hypothesis]
    refine (Nat.zero_add _).trans (if_neg ?_)
    omega

/-! ### What an engine is told, and what takes effect -/

/-- What some events tell a node of the others. -/
def remoteNews (node : NodeId) (events : List Event) : List MembershipEvent :=
  (events.filterMap Event.news?).filter (MembershipEvent.isRemote node)

theorem remoteNews_append (node : NodeId) (first second : List Event) :
    remoteNews node (first ++ second) = remoteNews node first ++ remoteNews node second := by
  rw [remoteNews, List.filterMap_append, List.filter_append]
  rfl

theorem remoteNews_joined (node other : NodeId) :
    remoteNews node [.membership (.joined other)] =
      if other = node then [] else [.joined other] := by
  by_cases own : other = node <;> simp [remoteNews, Event.news?, MembershipEvent.isRemote, own]

theorem remoteNews_departed (node other : NodeId) :
    remoteNews node [.membership (.departed other)] =
      if other = node then [] else [.departed other] := by
  by_cases own : other = node <;> simp [remoteNews, Event.news?, MembershipEvent.isRemote, own]

namespace Effect

/-- The changes of the membership that took effect, among some effects. -/
def changes (effects : List Effect) : List MembershipEvent :=
  effects.filterMap fun
    | .applied change => some change
    | _ => none

@[simp] theorem changes_append (first second : List Effect) :
    changes (first ++ second) = changes first ++ changes second :=
  List.filterMap_append

theorem changes_of_deeds {effects told : List Effect} (deeds : deeds effects = told) :
    changes effects = changes told := by
  rw [← deeds, changes, changes]
  exact (filterMap_deeds _ (fun _ => rfl) effects).symm

/-- Where nothing takes effect, nothing changes. -/
theorem changes_eq_nil {effects : List Effect}
    (idle : ∀ change, .applied change ∉ deeds effects) : changes effects = [] := by
  refine List.filterMap_eq_nil_iff.mpr fun effect member => ?_
  cases effect with
  | applied change => exact (idle change (mem_deeds.mpr ⟨member, rfl⟩)).elim
  | log _ | handled _ | resolved _ _ _ | admitted _ _ | queued _ _ | issued _ _ _ _ | sent _ _ _
  | ran _ _ | answered _ _ | linkClosed | brokeDown _ => rfl

/-- Answers change nothing. -/
theorem changes_of_answers {effects : List Effect}
    (answers : ∀ effect ∈ effects, ∃ ticket answer, effect = .answered ticket answer) :
    changes effects = [] := by
  refine List.filterMap_eq_nil_iff.mpr fun effect member => ?_
  obtain ⟨ticket, answer, rfl⟩ := answers effect member
  rfl

end Effect

namespace Engine

/-- Two states of an engine with the same queues of the membership and the same count. -/
structure SamePeers (first second : Engine) : Prop where
  node : second.node = first.node
  departed : second.departed = first.departed
  joined : second.joined = first.joined
  peers : second.activePeers = first.activePeers

theorem SamePeers.refl (engine : Engine) : engine.SamePeers engine := ⟨rfl, rfl, rfl, rfl⟩

/-- **What a part of a run does to the membership**, in which the engine accepts some events. Both
queues give out what they get in its order, and the count follows the changes that take effect. -/
structure Counts (before : Engine) (events : List Event) (act : Act Engine) : Prop where
  node : act.value.node = before.node
  departed : before.departed ++ leavers (remoteNews before.node events) =
    leavers (Effect.changes act.effects) ++ act.value.departed
  joined : before.joined.filter (· ≠ before.node) ++ joiners (remoteNews before.node events) =
    joiners (Effect.changes act.effects) ++ act.value.joined.filter (· ≠ before.node)
  peers : act.value.activePeers = headcount before.activePeers (Effect.changes act.effects)

namespace Counts

variable {before middle after : Engine} {events more : List Event}

/-- A part in which nothing takes effect only fills the queues. -/
theorem quiet {act : Act Engine} (unchanged : Effect.changes act.effects = [])
    (node : act.value.node = before.node)
    (departed : act.value.departed =
      before.departed ++ leavers (remoteNews before.node events))
    (joined : act.value.joined.filter (· ≠ before.node) =
      before.joined.filter (· ≠ before.node) ++ joiners (remoteNews before.node events))
    (peers : act.value.activePeers = before.activePeers) : Counts before events act := by
  refine ⟨node, ?_, ?_, ?_⟩
  all_goals rw [unchanged]
  · exact departed.symm
  · exact joined.symm
  · exact peers

/-- A part that is told nothing of other nodes and leaves the queues and the count alone. -/
theorem idle {act : Act Engine} (silent : remoteNews before.node events = [])
    (unchanged : Effect.changes act.effects = []) (same : before.SamePeers act.value) :
    Counts before events act := by
  refine quiet unchanged same.node ?_ ?_ same.peers
  · rw [silent, same.departed]
    exact (List.append_nil _).symm
  · rw [silent, same.joined]
    exact (List.append_nil _).symm

theorem refl (engine : Engine) : Counts engine [] (pure engine) := idle rfl rfl (.refl engine)

/-- **Two parts after each other.** -/
theorem bind {γ : Type} {first : Traced Effect γ} {next : γ → Act Engine}
    (left : Counts before events ⟨middle, first.effects⟩)
    (right : Counts middle more (next first.value)) :
    Counts before (events ++ more) (first >>= next) := by
  have node : middle.node = before.node := left.node
  refine ⟨right.node.trans node, ?_, ?_, ?_⟩
  · rw [remoteNews_append, leavers_append, ← List.append_assoc, left.departed, ← node,
      List.append_assoc, right.departed, Traced.effects_bind, Effect.changes_append, leavers_append,
      List.append_assoc]
    rfl
  · have later := right.joined
    rw [node] at later
    rw [remoteNews_append, joiners_append, ← List.append_assoc, left.joined, List.append_assoc,
      later, Traced.effects_bind, Effect.changes_append, joiners_append, List.append_assoc]
    rfl
  · rw [Traced.effects_bind, Effect.changes_append, headcount_append, Traced.value_bind,
      right.peers]
    exact congrArg (headcount · _) left.peers

/-- What is left as it is before a part does not matter, and neither does it afterwards. -/
theorem within {act : Act Engine} (counts : Counts middle events act)
    (entered : before.SamePeers middle) (left : act.value.SamePeers after) :
    Counts before events ⟨after, act.effects⟩ := by
  obtain ⟨node, departed, joined, peers⟩ := counts
  rw [entered.node] at node departed joined
  refine ⟨left.node.trans node, ?_, ?_, left.peers.trans (peers.trans ?_)⟩
  · rw [← entered.departed, departed]
    exact congrArg _ left.departed.symm
  · rw [← entered.joined, joined]
    exact congrArg (_ ++ List.filter _ ·) left.joined.symm
  · rw [entered.peers]

/-- A part that accepts nothing after another one. -/
theorem andThen {γ : Type} {first : Traced Effect γ} {next : γ → Act Engine}
    (left : Counts before events ⟨middle, first.effects⟩)
    (right : Counts middle [] (next first.value)) : Counts before events (first >>= next) := by
  have whole := left.bind right
  rwa [List.append_nil] at whole

/-- The same for parts of a pass, which also tell whether they brought progress. -/
theorem andThen_fst {γ : Type} {first : Traced Effect γ}
    {next : γ → Traced Effect (Engine × Bool)}
    (left : Counts before events ⟨middle, first.effects⟩)
    (right : Counts middle [] ⟨(next first.value).value.1, (next first.value).effects⟩) :
    Counts before events ⟨(first >>= next).value.1, (first >>= next).effects⟩ := by
  let state : γ → Act Engine := fun value => ⟨(next value).value.1, (next value).effects⟩
  change Counts before events (first >>= state)
  exact left.andThen right

end Counts

section Parts

variable (engine : Engine)

/-! ### Accepting and handling -/

/-- An event that asks the engine to stop says nothing of another node. -/
private theorem remoteNews_of_stopCause {node : NodeId} {event : Event} {reason : StopReason}
    (cause : stopCause? node event = some reason) : remoteNews node [event] = [] := by
  cases event with
  | membership change =>
    cases change with
    | departed other =>
      have own : other = node := by
        by_contra other
        rw [stopCause?, if_neg other] at cause
        cases cause
      rw [remoteNews_departed, if_pos own]
    | joined other => cases cause
    | poolTerminated => rfl
  | shutdown => rfl
  | message _ | submit _ _ _ | endSubmissions => cases cause

theorem counts_accept (event : Event) : Counts engine [event] (engine.accept event) := by
  rcases engine.accept_cases event with ⟨ticket, job, input, rfl, taken⟩ |
    ⟨silent, ⟨_, rfl, value⟩ | ⟨other, rfl, value⟩ | ⟨other, rfl, remote, value⟩ |
      ⟨_, cause, value⟩ | ⟨rfl, value⟩⟩
  · rw [taken]
    rcases engine.submit_cases ticket job input with
      ⟨_, _, _, _, value, deeds⟩ | ⟨_, _, _, _, _, value, deeds⟩
    all_goals exact .idle rfl (Effect.changes_of_deeds deeds) (value ▸ ⟨rfl, rfl, rfl, rfl⟩)
  · exact .idle rfl (Effect.changes_of_deeds silent) (value ▸ ⟨rfl, rfl, rfl, rfl⟩)
  · refine .quiet (Effect.changes_of_deeds silent) ?_ ?_ ?_ ?_
    all_goals rw [value]
    all_goals
      by_cases own : other = engine.node
      all_goals simp [remoteNews_joined, own, leavers, joiners, MembershipEvent.leaving?,
        MembershipEvent.joining?]
  · refine .quiet (Effect.changes_of_deeds silent) ?_ ?_ ?_ ?_
    all_goals rw [value]
    all_goals simp [remoteNews_departed, remote, leavers, joiners, MembershipEvent.leaving?,
      MembershipEvent.joining?]
  · exact .idle (remoteNews_of_stopCause cause) (Effect.changes_of_deeds silent)
      (value ▸ ⟨rfl, rfl, rfl, rfl⟩)
  · exact .idle rfl (Effect.changes_of_deeds silent) (value ▸ ⟨rfl, rfl, rfl, rfl⟩)

theorem counts_accept_all (events : List Event) :
    Counts engine events (events.foldlM accept engine) := by
  induction events generalizing engine with
  | nil => exact .refl engine
  | cons event rest hypothesis =>
    rw [List.foldlM_cons]
    exact (engine.counts_accept event).bind (hypothesis _)

theorem counts_handle (message : Message) : Counts engine [] (engine.handle message) := by
  have answered : ∀ (subscribers : Roster JobId Ticket) (outcome : Outcome),
      Effect.changes (answersTo subscribers outcome) = [] := by
    intro subscribers outcome
    refine Effect.changes_of_answers fun effect member => ?_
    obtain ⟨ticket, _, rfl⟩ := List.mem_map.mp member
    exact ⟨ticket, _, rfl⟩
  rcases engine.handle_cases message with
    ⟨_, _, _, _, _, value, deeds⟩ | ⟨request, result, failed, seconds, _, _, value, deeds⟩ |
    ⟨_, _, value, deeds⟩ | ⟨_, _, value, deeds⟩
  · exact .idle rfl (Effect.changes_of_deeds deeds) (value ▸ ⟨rfl, rfl, rfl, rfl⟩)
  · rcases complete_exact { engine with messages := engine.messages + 1 } message.source request
      result failed seconds with
      ⟨_, _, completed, told⟩ | ⟨_, struck, _, _, _, _, completed, told⟩
    · rw [told] at deeds
      rw [completed] at value
      exact .idle rfl (Effect.changes_of_deeds deeds) (value ▸ ⟨rfl, rfl, rfl, rfl⟩)
    · rw [told] at deeds
      rw [completed] at value
      exact .idle rfl ((Effect.changes_of_deeds deeds).trans (answered _ _))
        (value ▸ ⟨rfl, rfl, rfl, rfl⟩)
  · exact .idle rfl (Effect.changes_of_deeds deeds) (value ▸ ⟨rfl, rfl, rfl, rfl⟩)
  · exact .idle rfl (Effect.changes_of_deeds deeds) (value ▸ ⟨rfl, rfl, rfl, rfl⟩)

theorem counts_handle_all (messages : List Message) :
    Counts engine [] (messages.foldlM handle engine) := by
  induction messages generalizing engine with
  | nil => exact .refl engine
  | cons message rest hypothesis =>
    rw [List.foldlM_cons]
    exact (engine.counts_handle message).andThen (hypothesis _)

/-- **Receiving puts what it is told into the queues of the membership.** -/
theorem counts_receive :
    Counts engine engine.mailbox ⟨engine.receive.value.1, engine.receive.effects⟩ := by
  obtain ⟨value, effects⟩ := engine.receive_eq
  have accepted := counts_accept_all { engine with mailbox := [] } engine.mailbox
  rw [value, effects]
  generalize engine.mailbox.foldlM accept { engine with mailbox := [] } = first at accepted ⊢
  have same : first.value.SamePeers first.value.severed.measured := by
    unfold severed
    split <;> exact ⟨rfl, rfl, rfl, rfl⟩
  have sorted : Counts engine engine.mailbox ⟨first.value.severed.measured, first.effects⟩ :=
    accepted.within ⟨rfl, rfl, rfl, rfl⟩ same
  have handled := first.value.severed.measured.counts_handle_all first.value.severed.inbound
  change Counts engine engine.mailbox
    (first >>= fun state => state.severed.inbound.foldlM handle state.severed.measured)
  exact sorted.andThen handled

/-! ### Applying the membership -/

/-- A departure takes effect, and takes one off the count. -/
private theorem applied_depart (node : NodeId) :
    Effect.changes (engine.depart node).effects = [.departed node] ∧
      { engine with activePeers := engine.activePeers - 1 }.SamePeers
        (engine.depart node).value := by
  rcases engine.depart_exact node with
    ⟨_, _, _, value, deeds⟩ | ⟨_, _, _, told, reported, _, value, deeds⟩
  · refine ⟨?_, value ▸ ⟨rfl, rfl, rfl, rfl⟩⟩
    have told : Effect.changes (tellings engine.subscribers
        ((engine.scheduler.abandoned ++ engine.scheduler.exhausted
          ((engine.ledger.requests node).map Request.submission)).map abandonment)) = [] := by
      refine Effect.changes_of_answers fun effect member => ?_
      obtain ⟨ticket, outcome, _, rfl⟩ := mem_tellings member
      exact ⟨ticket, _, rfl⟩
    rw [Effect.changes_of_deeds deeds, Effect.changes_append, told, List.append_nil]
    refine congrArg (_ :: ·) (List.filterMap_eq_nil_iff.mpr fun effect member => ?_)
    obtain ⟨submission, _, rfl⟩ := List.mem_map.mp member
    rfl
  · refine ⟨(Effect.changes_of_deeds deeds).trans (congrArg (_ :: ·) ?_),
      value ▸ ⟨rfl, rfl, rfl, rfl⟩⟩
    refine Effect.changes_of_answers fun effect member => ?_
    obtain ⟨ticket, outcome, rfl, _⟩ := reported.answered effect member
    exact ⟨ticket, _, rfl⟩

/-- Applying departures takes them from the front of their queue. -/
private theorem counts_depart_all (nodes : List NodeId) :
    Counts { engine with departed := nodes ++ engine.departed } []
      (nodes.foldlM depart engine) := by
  induction nodes generalizing engine with
  | nil => exact .refl engine
  | cons node rest hypothesis =>
    obtain ⟨applied, same⟩ := engine.applied_depart node
    have later := hypothesis (engine.depart node).value
    rw [List.foldlM_cons]
    generalize engine.depart node = act at applied same later
    have taken : Counts { engine with departed := (node :: rest) ++ engine.departed } []
        ⟨{ act.value with departed := rest ++ act.value.departed }, act.effects⟩ := by
      refine ⟨same.node, ?_, ?_, ?_⟩
      all_goals dsimp only
      all_goals rw [applied]
      · rw [same.departed]
        exact List.append_nil _
      · rw [same.joined]
        exact List.append_nil _
      · exact same.peers
    exact taken.andThen later

/-- Applying joins takes them from the front of their queue. Only those of other nodes count. -/
private theorem counts_arrive_all (nodes : List NodeId) :
    Counts { engine with joined := nodes ++ engine.joined } [] (nodes.foldlM arrive engine) := by
  induction nodes generalizing engine with
  | nil => exact .refl engine
  | cons node rest hypothesis =>
    have later := hypothesis (engine.arrive node).value
    have arrived := engine.arrive_cases node
    rw [List.foldlM_cons]
    generalize engine.arrive node = act at arrived later
    have taken : Counts { engine with joined := (node :: rest) ++ engine.joined } []
        ⟨{ act.value with joined := rest ++ act.value.joined }, act.effects⟩ := by
      rcases arrived with ⟨own, value, deeds⟩ | ⟨other, value, deeds⟩
      all_goals
        have applied := Effect.changes_of_deeds deeds
        rw [value]
        refine ⟨rfl, ?_, ?_, ?_⟩
        all_goals dsimp only
        all_goals rw [applied]
      · exact List.append_nil _
      · rw [List.cons_append, List.filter_cons_of_neg (by simpa using own)]
        exact List.append_nil _
      · rfl
      · exact List.append_nil _
      · rw [List.cons_append, List.filter_cons_of_pos (by simpa using other)]
        exact List.append_nil _
      · rfl
    exact taken.andThen later

/-- **Applying the membership empties both queues**, the one of the departures first. -/
theorem counts_applyMembership :
    Counts engine [] ⟨engine.applyMembership.value.1, engine.applyMembership.effects⟩ := by
  have departing := counts_depart_all { engine with departed := [] } engine.departed
  dsimp only at departing
  rw [List.append_nil] at departing
  unfold applyMembership
  simp only [Traced.value_bind, Traced.effects_bind, Traced.value_pure, Traced.effects_pure,
    List.append_nil]
  generalize engine.departed.foldlM depart { engine with departed := [] } = first at departing ⊢
  have arriving := counts_arrive_all { first.value with joined := [] } first.value.joined
  dsimp only at arriving
  rw [List.append_nil] at arriving
  change Counts engine []
    (first >>= fun state => state.joined.foldlM arrive { state with joined := [] })
  exact departing.andThen arriving

/-- **A node that joins and departs in the same pass leaves one peer where there was none.** -/
theorem activePeers_applyMembership_of_passerby {node : NodeId} (other : node ≠ engine.node)
    (departed : engine.departed = [node]) (joined : engine.joined = [node]) :
    engine.applyMembership.value.1.activePeers = max engine.activePeers 1 := by
  obtain ⟨_, same⟩ := ({ engine with departed := [] } : Engine).applied_depart node
  unfold applyMembership
  simp only [departed, List.foldlM_cons, List.foldlM_nil, Traced.value_bind, Traced.value_pure]
  generalize (depart { engine with departed := [] } node).value = parted at same
  have waiting : parted.joined = [node] := same.joined.trans joined
  simp only [waiting, List.foldlM_cons, List.foldlM_nil, Traced.value_bind, Traced.value_pure]
  rcases ({ parted with joined := [] } : Engine).arrive_cases node with
    ⟨own, _⟩ | ⟨_, value, _⟩
  · exact (other (own.trans same.node)).elim
  · rw [value]
    have peers : parted.activePeers = engine.activePeers - 1 := same.peers
    dsimp only
    omega

/-! ### The steps of a run -/

private theorem counts_dispatch :
    Counts engine [] ⟨engine.dispatch.value.1, engine.dispatch.effects⟩ := by
  rcases engine.dispatch_cases with
    ⟨_, _, value, deeds⟩ | ⟨_, _, _, _, _, _, _, _, _, _, _, _, _, value, deeds⟩
  all_goals exact .idle rfl (Effect.changes_of_deeds deeds) (value ▸ ⟨rfl, rfl, rfl, rfl⟩)

private theorem counts_runOne :
    Counts engine [] ⟨engine.runOne.value.1, engine.runOne.effects⟩ := by
  unfold runOne
  cases engine.work with
  | nil => exact .refl engine
  | cons request rest =>
    obtain ⟨value, deeds⟩ := execute_eq { engine with work := rest } request
    have unchanged :
        Effect.changes (execute { engine with work := rest } request).effects = [] := by
      rw [Effect.changes_of_deeds deeds]
      cases engine.linked <;> rfl
    dsimp only
    rw [Traced.effects_bind, Traced.value_bind, value]
    refine .idle rfl ?_ ⟨rfl, rfl, rfl, rfl⟩
    dsimp only
    rw [Effect.changes_append, unchanged]
    rfl

theorem counts_beginPass :
    Counts engine engine.mailbox ⟨engine.beginPass.value.1, engine.beginPass.effects⟩ := by
  refine engine.counts_receive.andThen_fst ?_
  generalize engine.receive.value = received
  obtain ⟨state, progress⟩ := received
  dsimp only
  split
  · exact .refl state
  · refine state.counts_applyMembership.andThen_fst ?_
    exact state.applyMembership.value.1.counts_dispatch.andThen_fst (.refl _)

theorem counts_tick :
    Counts engine engine.mailbox ⟨engine.tick.value.1, engine.tick.effects⟩ := by
  refine engine.counts_beginPass.andThen_fst ?_
  generalize engine.beginPass.value = begun
  obtain ⟨state, progress⟩ := begun
  dsimp only
  split
  · exact .refl state
  · exact state.counts_runOne.andThen_fst (.refl _)

/-- A shutdown applies nothing of the membership. -/
theorem counts_shutdown : Counts engine [] engine.shutdown := by
  refine .idle rfl (Effect.changes_eq_nil fun change member => ?_) ?_
  · rcases mem_deeds_shutdown member with closing | ⟨_, dismissal⟩
    · cases closing
    · cases dismissal
  · rcases engine.shutdown_cases with ⟨_, value, _⟩ | ⟨_, same⟩
    · exact value ▸ ⟨rfl, rfl, rfl, rfl⟩
    · exact same ▸ .refl engine

private theorem counts_finish : Counts engine [] engine.finish := by
  have stopped := engine.counts_shutdown
  refine .idle rfl (Effect.changes_eq_nil fun change member => ?_) ?_
  · rcases mem_deeds_finish member with closing | ⟨_, dismissal⟩
    · cases closing
    · cases dismissal
  · rw [engine.finish_cases.1]
    rcases engine.shutdown_cases with ⟨_, value, _⟩ | ⟨_, same⟩
    · exact value ▸ ⟨rfl, rfl, rfl, rfl⟩
    · exact same ▸ ⟨rfl, rfl, rfl, rfl⟩

private theorem counts_conclude (progress : Bool) :
    Counts engine [] (engine.conclude progress) := by
  unfold conclude stopIfDone
  split
  · exact .idle rfl rfl ⟨rfl, rfl, rfl, rfl⟩
  have asked : engine.SamePeers
      (if engine.shouldStop then engine.requestStop engine.naturalReason else engine) := by
    split <;> exact ⟨rfl, rfl, rfl, rfl⟩
  generalize (if engine.shouldStop then engine.requestStop engine.naturalReason else engine) = state
    at asked ⊢
  dsimp only
  split
  · exact state.counts_finish.within asked (.refl _)
  · exact .idle rfl rfl ⟨asked.node, asked.departed, asked.joined, asked.peers⟩

private theorem counts_endWait (waited : Duration) (alive : engine.isGone = false) :
    Counts engine [] (engine.endWait waited) := by
  unfold endWait
  split
  next fault _ =>
    refine .idle rfl (Effect.changes_eq_nil fun change member => ?_) ?_
    · rcases mem_deeds_breakDown alive member with broken | ⟨_, dismissal⟩
      · cases broken
      · cases dismissal
    · rw [(engine.breakDown_eq (.unmeasurable fault) alive).1]
      exact ⟨rfl, rfl, rfl, rfl⟩
  next limit _ =>
    have logged : Counts engine [] ⟨engine, (engine.logWait limit waited).effects⟩ :=
      .idle rfl (Effect.changes_of_deeds (deeds_logWait engine limit waited)) (.refl _)
    exact logged.andThen (engine.counts_conclude true)

private theorem counts_wake (event : Event) (alive : engine.isGone = false) :
    Counts engine [event] (engine.wake event) := by
  have accepted := engine.counts_accept event
  have still := (steady_accept engine event).isGone.trans alive
  unfold wake
  generalize engine.accept event = act at accepted still ⊢
  exact accepted.andThen (act.value.counts_endWait {} still)

private theorem counts_pass (gateOpen : Bool) :
    Counts engine (if engine.stopReason.isSome then [] else engine.mailbox)
      (engine.pass gateOpen) := by
  unfold pass
  split
  · exact engine.counts_conclude false
  refine engine.counts_beginPass.andThen ?_
  generalize engine.beginPass.value = begun
  obtain ⟨state, progress⟩ := begun
  dsimp only
  split
  · exact state.counts_conclude progress
  split
  · exact .idle rfl rfl ⟨rfl, rfl, rfl, rfl⟩
  · exact state.counts_runOne.andThen (counts_conclude _ _)

/-- **A step of a run counts the changes that it applies.** -/
theorem counts_advance (gateOpen : Bool) :
    Counts engine engine.nextEvents (engine.advance gateOpen) := by
  rw [advance, step?, nextEvents]
  cases stage : engine.stage with
  | created =>
    obtain ⟨value, deeds⟩ := engine.start_eq
    refine .idle rfl ?_ (value ▸ ⟨rfl, rfl, rfl, rfl⟩)
    refine (Effect.changes_of_deeds deeds).trans ?_
    cases engine.scheduler.role with
    | master => rfl
    | worker => cases engine.linked <;> rfl
  | passing => exact engine.counts_pass gateOpen
  | holding =>
    cases gateOpen with
    | true => exact engine.counts_runOne.andThen (counts_conclude _ _)
    | false => exact .refl engine
  | waiting =>
    have alive : engine.isGone = false := by rw [isGone, stage]
    cases arrived : engine.mailbox with
    | cons event rest =>
      have woken := counts_wake { engine with mailbox := rest } event alive
      dsimp only
      rw [← stage]
      exact woken.within ⟨rfl, rfl, rfl, rfl⟩ (.refl _)
    | nil =>
      cases connected : engine.connected with
      | true => exact .refl engine
      | false =>
        exact ((engine.requestStop .disconnected).counts_endWait {} alive).within
          ⟨rfl, rfl, rfl, rfl⟩ (.refl _)
  | finished | discarded => exact .refl engine

theorem counts_timeOut : Counts engine [] engine.timeOut := by
  unfold timeOut
  split
  next waiting => exact engine.counts_endWait _ (by rw [isGone, waiting])
  next => exact .refl engine

/-- An event that is put into the mailbox is not heard yet. -/
theorem counts_post (event : Event) : Counts engine [] (engine.post event) := by
  rcases engine.post_cases event with ⟨_, posted⟩ | ⟨_, kept, deeds⟩
  · rw [posted]
    exact .idle rfl rfl ⟨rfl, rfl, rfl, rfl⟩
  · refine .idle rfl ((Effect.changes_of_deeds deeds).trans ?_) (by rw [kept]; exact .refl engine)
    refine Effect.changes_of_answers fun effect member => ?_
    obtain ⟨ticket, _, rfl⟩ := List.mem_map.mp member
    exact ⟨ticket, _, rfl⟩

end Parts

end Engine

namespace Session

/-! ### Handlings -/

/-- **A handling counts the changes that are applied in it.** -/
theorem counts_handle (session : Session) (handling : Handling) :
    session.engine.Counts (session.takes handling)
      ⟨(session.handle handling).value.engine, (session.handle handling).effects⟩ := by
  cases handling with
  | shutdown =>
    rw [handle]
    split
    · exact .refl _
    · exact session.engine.counts_shutdown
  | meet stimulus =>
    cases stimulus with
    | submit job input => exact session.engine.counts_post (.submit session.submissions job input)
    | endSubmissions => exact session.engine.counts_post .endSubmissions
    | deliver message => exact session.engine.counts_post (.message message)
    | announce change => exact session.engine.counts_post (.membership change)
    | shutdown => exact session.engine.counts_post .shutdown
    | relink | disconnect | abandonTicket => exact .idle rfl rfl ⟨rfl, rfl, rfl, rfl⟩
    | pass =>
      rw [handle, begun, takes]
      by_cases created : session.engine.stage = .created
      · have alive : session.engine.isGone = false := by rw [Engine.isGone, created]
        have free : ¬(session.engine.isGone || session.engine.stage = .holding) = true := by
          rw [alive, created]
          decide
        rw [if_pos created, if_neg free]
        have ticked := Engine.counts_tick { session.engine with stage := .passing }
        exact ticked.within ⟨rfl, rfl, rfl, rfl⟩ (.refl _)
      · rw [if_neg created, perform]
        split
        · exact .refl _
        · exact session.engine.counts_tick
    | advance gateOpen => exact session.engine.counts_advance gateOpen
    | timeOut => exact session.engine.counts_timeOut

/-- **All handlings together count the changes that are applied in them.** -/
theorem counts_handleAll (session : Session) (handlings : List Handling) :
    session.engine.Counts (session.accepted handlings)
      ⟨(session.handleAll handlings).value.engine, (session.handleAll handlings).effects⟩ := by
  induction handlings generalizing session with
  | nil => exact .refl session.engine
  | cons handling rest hypothesis =>
    have later := hypothesis (session.handle handling).value
    let rested : Session → Act Engine := fun state =>
      ⟨(state.handleAll rest).value.engine, (state.handleAll rest).effects⟩
    change session.engine.Counts _ (session.handle handling >>= rested)
    exact (session.counts_handle handling).bind later

/-! ### The number of peers -/

/-- **The count of peers is exact unless a departure was missed.** Once both queues are empty, every
change that the engine was told has taken effect once, and the count is the number of the nodes that
have joined and not departed, together with one more for every departure that was applied while the
count was zero. There is no such departure if the changes took effect in a consistent order. -/
theorem peers_counted (options : Options) (node master : NodeId) (link : Link)
    (handlings : List Handling) :
    let session := create options node master link
    let act := session.handleAll handlings
    let engine := act.value.engine
    let news := remoteNews node (session.accepted handlings)
    let applied := Effect.changes act.effects
    Consistent news → engine.departed = [] → engine.joined = [] →
      leavers applied = leavers news ∧ joiners applied = joiners news ∧
      (observed news).Nodup ∧
      (∀ other, other ∈ observed news ↔ .joined other ∈ news ∧ .departed other ∉ news) ∧
      engine.activePeers = (observed news).length + missed 0 applied ∧
      (Consistent applied → engine.activePeers = (observed news).length) := by
  intro session act engine news applied consistent departed joined
  obtain ⟨_, parted, met, counted⟩ := session.counts_handleAll handlings
  change [] ++ leavers news = leavers applied ++ engine.departed at parted
  change [] ++ joiners news = joiners applied ++ engine.joined.filter _ at met
  change engine.activePeers = headcount 0 applied at counted
  rw [departed, List.nil_append, List.append_nil] at parted
  rw [joined, List.nil_append, List.filter_nil, List.append_nil] at met
  have balance := headcount_balance applied 0
  have present := consistent.length_observed
  rw [← counted, ← parted, ← met] at balance
  have exact_count : engine.activePeers = (observed news).length + missed 0 applied := by omega
  refine ⟨parted.symm, met.symm, consistent.mem_observed.1, consistent.mem_observed.2, exact_count,
    fun ordered => ?_⟩
  rw [exact_count, ordered.missed_eq_zero]
  rfl

/-- A node joins and departs again between two passes. -/
def passerby (node : NodeId) : List Handling :=
  [.meet (.announce (.joined node)), .meet (.announce (.departed node)), .meet .pass]

/-- The departure of a passer-by is not missed as long as another node is there. -/
theorem peers_counted_accompanied :
    let session := create Pool.inTurn 1 1 {}
    let handlings := [.meet (.announce (.joined 2)), .meet .pass] ++ passerby 3
    let act := session.handleAll handlings
    remoteNews 1 (session.accepted handlings) = [.joined 2] ++ [.joined 3] ++ [.departed 3] ∧
      Effect.changes act.effects = [.joined 2, .departed 3, .joined 3] ∧
      act.value.engine.activePeers = 1 := by
  have counted := peers_counted Pool.inTurn 1 1 {}
    ([.meet (.announce (.joined 2)), .meet .pass] ++ passerby 3)
  dsimp only at counted ⊢
  have heard : remoteNews 1 ((create Pool.inTurn 1 1 {}).accepted
      ([.meet (.announce (.joined 2)), .meet .pass] ++ passerby 3)) =
      [.joined 2] ++ [.joined 3] ++ [.departed 3] := by decide +kernel
  have applied : Effect.changes ((create Pool.inTurn 1 1 {}).handleAll
      ([.meet (.announce (.joined 2)), .meet .pass] ++ passerby 3)).effects =
      [.joined 2, .departed 3, .joined 3] := by decide +kernel
  have consistent : Consistent ([.joined 2] ++ [.joined 3] ++ [.departed 3]) :=
    .part (.join (.join .nil nofun) (by decide)) (by decide) (by decide)
  rw [heard, applied] at counted
  obtain ⟨_, _, _, _, count, _⟩ := counted consistent (by decide +kernel) (by decide +kernel)
  exact ⟨heard, applied, count⟩

/-- **The count of peers can be wrong.** An engine without peers misses the departure of a
passer-by, and counts it from then on. -/
theorem activePeers_ne_present :
    ¬ ∀ (options : Options) (node master : NodeId) (link : Link) (handlings : List Handling),
      let session := create options node master link
      let engine := (session.handleAll handlings).value.engine
      let news := remoteNews node (session.accepted handlings)
      Consistent news → engine.departed = [] → engine.joined = [] →
        engine.activePeers = (observed news).length := by
  intro exact_count
  have counted := exact_count Pool.inTurn 1 1 {} (passerby 3)
  have heard : remoteNews 1 ((create Pool.inTurn 1 1 {}).accepted (passerby 3)) =
      [.joined 3] ++ [.departed 3] := by decide +kernel
  dsimp only at counted
  rw [heard] at counted
  have none : 1 = 0 :=
    counted (.part (.join .nil (by decide)) (by decide) (by decide)) rfl rfl
  cases none

end Session

end JobPool
