/-
**What an action does to the members and to the messages of a pool.**

The steps of a pool tell one node at a time, so between them the nodes may know of different
members. An action is told to all of them at once. `Turnover` says how it changes the members and
what every node is told of it; `Carriage` says which messages wait, arrive or are lost.

* `changes_perform` — every action is a turnover and a carriage;
* `performAll_concat`, `ready_performAll`, `wired_performAll` — sequences of actions, one at a time;
* `Spent.perform` — a link that is closed and has delivered everything stays so.
-/

import JobPool.Proofs.Pool.Mail
import JobPool.Proofs.Pool.Wiring

namespace JobPool

namespace Pool

/-- The link of the node is closed and has delivered everything. -/
def Spent (pool : Pool) (node : NodeId) : Prop :=
  ∃ station, pool.stations.get? node = some station ∧ station.closed = true ∧
    station.outbound = []

/-- **What an action does to the members**, and what every node is told of it. -/
inductive Turnover (pool : Pool) : Action → PoolAct Pool → Prop
  /-- Nobody joins or leaves. -/
  | stays {action : Action} {act : PoolAct Pool} (alike : pool.Alike act.value)
      (nodeIds : act.value.nodeIds = pool.nodeIds) (quiet : ∀ node, news node act.effects = []) :
      Turnover pool action act
  | joins {options : Options} {act : PoolAct Pool} {node : NodeId}
      (taken : pool.nodeIds.take = some (node, act.value.nodeIds))
      (members : act.value.members = pool.members ++ [node])
      (nodes : ∀ other, (act.value.stations.get? other).isSome = true →
        other = node ∨ (pool.stations.get? other).isSome = true)
      (told : ∀ other, news other act.effects =
        if other = node then pool.members.map .joined ++ [.joined node]
        else if other ∈ pool.members then [.joined node] else []) :
      Turnover pool (.launch options) act
  /-- A node leaves by itself, or is killed and hears of it. -/
  | parts {action : Action} {act : PoolAct Pool} {node : NodeId} {own : List MembershipEvent}
      (member : node ∈ pool.members)
      (cause : action = .carry node ∧ pool.Spent node ∧ own = [] ∨
        action = .kill node ∧ own = [.departed node])
      (members : act.value.members = pool.members.erase node)
      (nodes : ∀ other, (act.value.stations.get? other).isSome =
        (pool.stations.get? other).isSome)
      (nodeIds : act.value.nodeIds = pool.nodeIds)
      (told : ∀ other, news other act.effects =
        if other = node then own
        else if other ∈ pool.members then [.departed node] else []) :
      Turnover pool action act
  | ends {act : PoolAct Pool} (members : act.value.members = [])
      (nodes : ∀ other, (act.value.stations.get? other).isSome =
        (pool.stations.get? other).isSome)
      (nodeIds : act.value.nodeIds = pool.nodeIds) (quiet : ∀ node, news node act.effects = []) :
      Turnover pool .terminate act

/-- **What an action does to the messages on the links.** -/
inductive Carriage (pool : Pool) (act : PoolAct Pool) : Prop
  /-- What a link accepts waits there. A node whose engine is gone sends nothing. -/
  | waits (waiting : ∀ node, act.value.view node Station.outbound =
        pool.view node Station.outbound ++ accepted node act.effects)
      (unread : ∀ node, letters node act.effects = [])
      (silent : ∀ node station, pool.stations.get? node = some station →
        station.engine.isGone = true → accepted node act.effects = [])
  /-- A link delivers its oldest message between two members. -/
  | delivers {source destination : NodeId} {payload : Payload}
      (sender : source ∈ pool.members) (receiver : destination ∈ pool.members)
      (waiting : ∀ node, pool.view node Station.outbound =
        (if node = source then [(destination, payload)] else []) ++
          act.value.view node Station.outbound)
      (delivered : ∀ node, mail node act.effects =
        if node = destination then [.message ⟨source, payload⟩] else [])
      (unsent : ∀ node, accepted node act.effects = [])
  /-- A link loses its oldest message, because one end of it is not a member. -/
  | loses {source destination : NodeId} {payload : Payload}
      (out : source ∉ pool.members ∨ destination ∉ pool.members)
      (waiting : ∀ node, pool.view node Station.outbound =
        (if node = source then [(destination, payload)] else []) ++
          act.value.view node Station.outbound)
      (undelivered : ∀ node, mail node act.effects = [])
      (unsent : ∀ node, accepted node act.effects = [])

/-! ### Mail alone -/

section Telling

variable {pool base : Pool} {posts : List (NodeId × Event)} {act : PoolAct Pool}

theorem Told.news (told : base.Told posts act) (node : NodeId) :
    news node act.effects = (arriving node posts).filterMap Event.news? := by
  rw [Pool.news, told.delivered]

/-- Mail of which none is news changes no member. -/
private theorem Told.stays (told : base.Told posts act) (alike : pool.Alike base)
    (nodeIds : base.nodeIds = pool.nodeIds) (plain : ∀ post ∈ posts, post.2.news? = none)
    (action : Action) : pool.Turnover action act := by
  refine .stays (alike.trans told.alike) (told.nodeIds.trans nodeIds) fun node => ?_
  rw [told.news]
  exact List.filterMap_eq_nil_iff.mpr fun event member => plain _ (mem_arriving member)

/-- Mail without a message moves no message, whoever is a member before and after it. -/
private theorem Told.waits (told : base.Told posts act) {next : Pool}
    (before : ∀ node, base.view node Station.outbound = pool.view node Station.outbound)
    (after : ∀ node, next.view node Station.outbound = act.value.view node Station.outbound)
    (plain : ∀ post ∈ posts, Engine.letter? post.2 = none) :
    pool.Carriage ⟨next, act.effects⟩ := by
  refine .waits (fun node => ?_) (fun node => ?_) fun node _ _ _ => told.unsent node
  · calc next.view node Station.outbound = act.value.view node Station.outbound := after node
      _ = base.view node Station.outbound := told.waiting node
      _ = pool.view node Station.outbound ++ accepted node act.effects := by
        rw [before, told.unsent, List.append_nil]
  · rw [letters, told.delivered]
    exact List.filterMap_eq_nil_iff.mpr fun event member => plain _ (mem_arriving member)

/-- A node is in, and it and the other members were told. -/
private theorem Told.joins {options : Options} {node : NodeId} {nodeIds : IdSource}
    (told : (pool.found options node nodeIds).Told
      ((pool.members.flatMap fun other =>
        [(other, .membership (.joined node)), (node, .membership (.joined other))]) ++
        [(node, .membership (.joined node))]) act)
    (ready : pool.Ready) (taken : pool.nodeIds.take = some (node, nodeIds)) :
    pool.Turnover (.launch options) act ∧ pool.Carriage act := by
  obtain ⟨rfl, following⟩ := IdSource.take_next taken
  have unknown : ¬ (pool.stations.get? pool.nodeIds.next).isSome = true := fun there =>
    Nat.lt_irrefl _ (ready.numbered _ there)
  have fresh : pool.nodeIds.next ∉ pool.members := fun member =>
    unknown (ready.known _ member)
  refine ⟨.joins (taken.trans (congrArg (fun ids => some (_, ids)) told.nodeIds.symm))
    told.alike.members (fun other there => ?_) fun other => ?_,
    .waits (fun other => ?_) (fun other => ?_) fun other _ _ _ => told.unsent other⟩
  · rw [told.alike.nodes, get?_found] at there
    by_cases here : other = pool.nodeIds.next
    · exact .inl here
    · rw [if_neg here] at there
      exact .inr there
  · rw [told.news, arriving_append, arriving_introductions ready.distinct fresh]
    by_cases here : other = pool.nodeIds.next
    · simp [here, arriving, Event.news?, List.filterMap_map, Function.comp_def]
    · by_cases among : other ∈ pool.members
      · simp [here, among, arriving, Event.news?, Ne.symm here]
      · simp [here, among, arriving, Ne.symm here]
  · rw [told.waiting, told.unsent, List.append_nil, view_found]
    by_cases here : other = pool.nodeIds.next
    · rw [if_pos here, here, view_of_absent (Option.not_isSome_iff_eq_none.mp unknown)]
    · rw [if_neg here]
  · rw [letters, told.delivered, arriving_append, arriving_introductions ready.distinct fresh]
    by_cases here : other = pool.nodeIds.next
    · simp [here, arriving, Engine.letter?, List.filterMap_map]
    · by_cases among : other ∈ pool.members
      · simp [here, among, arriving, Engine.letter?, Ne.symm here]
      · simp [here, among, arriving, Ne.symm here]

/-- A node is out, and the other members were told. -/
private theorem Ready.parts (ready : pool.Ready) {extra : List (NodeId × Event)}
    {own : List MembershipEvent} {node : NodeId} {action : Action} (member : node ∈ pool.members)
    (told : base.Told ((pool.members.erase node).map (·, .membership (.departed node)) ++ extra)
      act)
    (members : base.members = pool.members.erase node)
    (nodes : ∀ other, (base.stations.get? other).isSome = (pool.stations.get? other).isSome)
    (nodeIds : base.nodeIds = pool.nodeIds)
    (cause : action = .carry node ∧ pool.Spent node ∧ own = [] ∨
      action = .kill node ∧ own = [.departed node])
    (extras : ∀ other, (arriving other extra).filterMap Event.news? =
      if other = node then own else []) : pool.Turnover action act := by
  refine .parts member cause (told.alike.members.trans members)
    (fun other => (told.alike.nodes other).trans (nodes other)) (told.nodeIds.trans nodeIds)
    fun other => ?_
  rw [told.news, arriving_append, List.filterMap_append, extras,
    arriving_map (ready.distinct.erase node)]
  by_cases here : other = node
  · subst here
    simp [ready.distinct.not_mem_erase]
  · by_cases among : other ∈ pool.members
    · simp [here, among, List.mem_erase_of_ne here, Event.news?]
    · simp [here, among, List.mem_erase_of_ne here]

end Telling

/-! ### Every action -/

/-- An engine that is gone does nothing by itself. -/
private theorem idle_of_gone {engine : Engine} {act : Act Engine}
    (chain : Chain Engine.Move engine act) (gone : engine.isGone = true) : act.effects = [] := by
  cases chain with
  | refl => rfl
  | step taken _ => cases taken.alive.symm.trans gone

section Actions

variable {pool : Pool}

/-- Mail that is neither news nor a message changes nothing here. -/
private theorem changes_told {base : Pool} {posts : List (NodeId × Event)} {act : PoolAct Pool}
    (told : base.Told posts act) (action : Action) (alike : pool.Alike base)
    (nodeIds : base.nodeIds = pool.nodeIds)
    (waiting : ∀ node, base.view node Station.outbound = pool.view node Station.outbound)
    (plain : ∀ post ∈ posts, post.2.news? = none ∧ Engine.letter? post.2 = none) :
    pool.Turnover action act ∧ pool.Carriage act :=
  ⟨told.stays alike nodeIds (fun post member => (plain post member).1) action,
    told.waits waiting (fun _ => rfl) fun post member => (plain post member).2⟩

/-- Nothing happens. -/
private theorem changes_pure (action : Action) :
    pool.Turnover action (pure pool) ∧ pool.Carriage (pure pool) :=
  changes_told (told_pure pool) action ⟨rfl, fun _ => rfl⟩ rfl (fun _ => rfl) nofun

/-- What an engine does by itself changes no member, and what it sends waits. -/
private theorem changes_change (action : Action) (node : NodeId) (work : Engine → Act Engine)
    (chain : ∀ station, pool.stations.get? node = some station →
      Chain Engine.Move station.engine (work station.engine)) :
    pool.Turnover action (pool.change node work) ∧ pool.Carriage (pool.change node work) := by
  unfold change
  cases present : pool.stations.get? node with
  | none => exact changes_pure action
  | some station =>
    refine ⟨.stays (alike_enter present _) rfl fun other => ?_, .waits ?_ (fun other => ?_) ?_⟩
    · rw [Pool.news, mail_engine]
      rfl
    · intro other
      rw [accepted_engine]
      refine (view_enter pool node other _ _).trans ?_
      by_cases here : other = node
      · rw [if_pos here, if_pos here.symm, here, view_of_get? present]
        rfl
      · rw [if_neg here, if_neg (Ne.symm here), List.append_nil]
    · rw [letters, mail_engine]
      rfl
    · intro other found there gone
      rw [accepted_engine]
      by_cases here : node = other
      · rw [← here, present] at there
        cases there
        rw [if_pos here, idle_of_gone (chain station present) gone]
        rfl
      · rw [if_neg here]

private theorem changes_launch (ready : pool.Ready) (options : Options) :
    pool.Turnover (.launch options)
        ⟨(pool.launch options).value.2, (pool.launch options).effects⟩ ∧
      pool.Carriage ⟨(pool.launch options).value.2, (pool.launch options).effects⟩ := by
  unfold launch
  split
  next => exact changes_pure _
  split
  next => exact changes_pure _
  split
  next => exact changes_pure _
  next node nodeIds taken =>
    have told := fun text => (told_introductions (pool.found options node nodeIds)
      node pool.members).trans ((told_post _ node (.membership (.joined node))).log ⟨.info, text⟩)
    exact (told _).joins ready taken

/-- A member that is taken out, whatever happens to its station before. -/
private theorem told_remove {base : Pool} {node : NodeId} (member : node ∈ base.members) :
    ∃ flag, Told { base with members := base.members.erase node, founderDeparted := flag }
      ((base.members.erase node).map (·, .membership (.departed node))) (base.remove node) := by
  have removed : base.remove node = broadcast { base with
      members := base.members.erase node
      founderDeparted := base.founderDeparted || base.founder == some node } (.departed node) :=
    if_pos (List.contains_iff_mem.mpr member)
  rw [removed]
  exact ⟨_, told_broadcast _ (.departed node)⟩

private theorem changes_kill (ready : pool.Ready) (node : NodeId) :
    pool.Turnover (.kill node) ⟨(pool.kill node).value.2, (pool.kill node).effects⟩ ∧
      pool.Carriage ⟨(pool.kill node).value.2, (pool.kill node).effects⟩ := by
  unfold kill
  split
  next => exact changes_pure _
  next among =>
    rw [Bool.not_eq_true', Bool.not_eq_false, List.contains_iff_mem] at among
    obtain ⟨flag, removed⟩ := told_remove among
    have farewell := fun text => ((told_pure (pool.remove node).value).log ⟨.warn, text⟩).trans
      ((told_post _ node (.membership (.departed node))).trans (told_pure _))
    have told := fun text => removed.trans (farewell text)
    refine ⟨ready.parts among (told _) rfl (fun _ => rfl) rfl (.inr ⟨rfl, rfl⟩) fun other => ?_,
      (told _).waits (fun _ => rfl) (fun _ => rfl) fun post member => ?_⟩
    · by_cases here : other = node
      · simp [arriving, here, Event.news?]
      · simp [arriving, here, Ne.symm here]
    · rcases List.mem_append.mp member with news | own
      · obtain ⟨_, _, rfl⟩ := List.mem_map.mp news
        rfl
      · rw [List.mem_singleton.mp own]
        rfl

private theorem changes_terminate :
    pool.Turnover .terminate pool.terminate ∧ pool.Carriage pool.terminate := by
  have told := (told_broadcast { pool with terminated := true } .poolTerminated).trans
    (told_pure _)
  have quiet : ∀ post ∈ pool.members.map (·, Event.membership .poolTerminated) ++ [],
      post.2.news? = none ∧ Engine.letter? post.2 = none := by
    intro post member
    rw [List.append_nil] at member
    obtain ⟨_, _, rfl⟩ := List.mem_map.mp member
    exact ⟨rfl, rfl⟩
  refine ⟨.ends rfl told.alike.nodes told.nodeIds fun node => ?_,
    told.waits (fun _ => rfl) (fun _ => rfl) fun post member => (quiet post member).2⟩
  refine (told.news node).trans ?_
  exact List.filterMap_eq_nil_iff.mpr fun event member => (quiet _ (mem_arriving member)).1

/-- A link delivers its oldest message, or loses it. -/
private theorem changes_deliver (action : Action) {source destination : NodeId} {station : Station}
    {payload : Payload} {rest : List Letter} (present : pool.stations.get? source = some station)
    (oldest : station.outbound = (destination, payload) :: rest) :
    let popped := pool.pop source station rest
    pool.Turnover action (popped.deliver source destination payload) ∧
      pool.Carriage (popped.deliver source destination payload) := by
  intro popped
  have alike : pool.Alike popped := alike_enter present _
  have waiting : ∀ node, pool.view node Station.outbound =
      (if node = source then [(destination, payload)] else []) ++
        popped.view node Station.outbound := by
    intro node
    rw [show popped.view node Station.outbound = _ from view_enter ..]
    by_cases here : node = source
    · rw [if_pos here, if_pos here, here, view_of_get? present, oldest]
      rfl
    · rw [if_neg here, if_neg here]
      rfl
  have lost : ∀ record, (source ∉ pool.members ∨ destination ∉ pool.members) →
      pool.Turnover action ⟨popped, [.log record]⟩ ∧ pool.Carriage ⟨popped, [.log record]⟩ :=
    fun record out => ⟨.stays alike rfl fun _ => rfl,
      .loses out waiting (fun _ => rfl) fun _ => rfl⟩
  unfold deliver
  split
  next out =>
    rw [Bool.not_eq_true', ← Bool.not_eq_true, List.contains_iff_mem] at out
    exact lost _ (.inl out)
  next sender =>
    rw [Bool.not_eq_true', Bool.not_eq_false, List.contains_iff_mem] at sender
    split
    next out =>
      rw [Bool.not_eq_true', ← Bool.not_eq_true, List.contains_iff_mem] at out
      exact lost _ (.inr out)
    next receiver =>
      rw [Bool.not_eq_true', Bool.not_eq_false, List.contains_iff_mem] at receiver
      have told := popped.told_post destination (.message ⟨source, payload⟩)
      refine ⟨.stays (alike.trans told.alike) told.nodeIds fun node => ?_,
        @Carriage.delivers _ _ source destination payload sender receiver (fun node => ?_)
          (fun node => ?_) told.unsent⟩
      · rw [told.news]
        by_cases here : destination = node
        · simp [arriving, here, Event.news?]
        · simp [arriving, here]
      · rw [told.waiting]
        exact waiting node
      · rw [told.delivered]
        by_cases here : node = destination
        · simp [arriving, here]
        · simp [arriving, here, Ne.symm here]

/-- A node leaves once its closed link has delivered everything. -/
private theorem changes_depart (ready : pool.Ready) {node : NodeId} {station : Station}
    (present : pool.stations.get? node = some station) (empty : station.outbound = [])
    (closed : station.closed = true) :
    let drained := pool.enter node { station with drained := true }
    pool.Turnover (.carry node) (drained.depart node) ∧
      pool.Carriage (drained.depart node) := by
  intro drained
  have alike : pool.Alike drained := alike_enter present _
  have waiting : ∀ node, drained.view node Station.outbound = pool.view node Station.outbound :=
    @view_enter_of_eq _ pool node station { station with drained := true } _ present rfl
  unfold depart
  split
  next =>
    refine ⟨.stays alike rfl fun _ => rfl,
      .waits (fun node => ?_) (fun _ => rfl) fun _ _ _ _ => rfl⟩
    rw [show accepted node _ = [] from rfl, List.append_nil]
    exact waiting node
  next among =>
    rw [Bool.not_eq_true', Bool.not_eq_false, List.contains_iff_mem] at among
    obtain ⟨flag, removed⟩ := told_remove among
    have told := fun text =>
      removed.trans ((told_pure (drained.remove node).value).log ⟨.info, text⟩)
    refine ⟨ready.parts among (told _) rfl alike.nodes rfl
        (.inl ⟨rfl, ⟨station, present, closed, empty⟩, rfl⟩) fun other => (ite_self _).symm,
      (told _).waits waiting (fun _ => rfl) fun post member => ?_⟩
    rw [List.append_nil] at member
    obtain ⟨_, _, rfl⟩ := List.mem_map.mp member
    rfl

private theorem changes_carry (ready : pool.Ready) (node : NodeId) :
    pool.Turnover (.carry node) (pool.carry node) ∧ pool.Carriage (pool.carry node) := by
  unfold carry
  split
  next => exact changes_pure _
  next station present =>
    split
    next oldest => exact changes_deliver _ present oldest
    next empty =>
      split
      next done =>
        rw [Bool.and_eq_true] at done
        exact changes_depart ready present empty done.1
      next => exact changes_pure _

/-- A node is asked for something. -/
private theorem changes_asked {base : Pool} (action : Action) (node : NodeId) {event : Event}
    (alike : pool.Alike base) (nodeIds : base.nodeIds = pool.nodeIds)
    (waiting : ∀ node, base.view node Station.outbound = pool.view node Station.outbound)
    (quiet : event.news? = none) (plain : Engine.letter? event = none) :
    pool.Turnover action (base.post node event) ∧ pool.Carriage (base.post node event) := by
  refine changes_told (base.told_post node event) action alike nodeIds waiting fun post member => ?_
  rw [List.mem_singleton.mp member]
  exact ⟨quiet, plain⟩

/-- **What every action does to the members and to the messages.** -/
theorem changes_perform (ready : pool.Ready) (action : Action) :
    pool.Turnover action (pool.perform action) ∧ pool.Carriage (pool.perform action) := by
  -- An action that also returns something ends with nothing more to do.
  have ends : ∀ {next : Pool} {effects : List PoolEffect},
      pool.Turnover action ⟨next, effects⟩ ∧ pool.Carriage ⟨next, effects⟩ →
      pool.Turnover action ⟨next, effects ++ []⟩ ∧ pool.Carriage ⟨next, effects ++ []⟩ := by
    intro next effects changes
    rw [List.append_nil]
    exact changes
  have still : pool.Alike pool := ⟨rfl, fun _ => rfl⟩
  cases action with
  | launch options => exact ends (changes_launch ready options)
  | abort node =>
    exact changes_change _ node Engine.abort fun station _ => station.engine.chain_abort
  | leave node =>
    refine ends ?_
    unfold leave
    split
    next => exact changes_pure _
    next => exact ends (changes_asked _ node still rfl (fun _ => rfl) rfl rfl)
  | kill node => exact ends (changes_kill ready node)
  | terminate => exact changes_terminate
  | submit node job input =>
    refine ends ?_
    exact ends (changes_asked _ node ⟨rfl, fun _ => rfl⟩ rfl (fun _ => rfl) rfl rfl)
  | endSubmissions node => exact changes_asked _ node still rfl (fun _ => rfl) rfl rfl
  | openGate =>
    exact changes_told (told_pure pool.openGate) _ ⟨rfl, fun _ => rfl⟩ rfl (fun _ => rfl) nofun
  | advance node =>
    exact changes_change _ node (fun engine => engine.advance pool.gateOpen) fun station present =>
      station.engine.chain_advance pool.gateOpen (ready.poised node station present)
  | timeOut node =>
    exact changes_change _ node Engine.timeOut fun station _ => station.engine.chain_timeOut
  | carry node => exact changes_carry ready node

end Actions

/-! ### Sequences of actions -/

section Sequences

variable {pool : Pool}

theorem performAll_append (pool : Pool) (first second : List Action) :
    pool.performAll (first ++ second) =
      ⟨((pool.performAll first).value.performAll second).value,
        (pool.performAll first).effects ++
          ((pool.performAll first).value.performAll second).effects⟩ :=
  List.foldlM_append

/-- One more action. -/
theorem performAll_concat (pool : Pool) (actions : List Action) (action : Action) :
    pool.performAll (actions ++ [action]) =
      ⟨((pool.performAll actions).value.perform action).value,
        (pool.performAll actions).effects ++
          ((pool.performAll actions).value.perform action).effects⟩ := by
  rw [performAll_append]
  show Traced.mk _ (_ ++ (((pool.performAll actions).value.perform action).effects ++ [])) = _
  rw [List.append_nil]
  rfl

theorem ready_performAll (ready : pool.Ready) (actions : List Action) :
    (pool.performAll actions).value.Ready :=
  @Traced.foldlM_preserves _ _ _ Ready perform actions
    (fun _ action _ ready => (@chain_perform true _ ready action fun _ => rfl).2) pool ready

theorem wired_performAll (actions : List Action) : (performAll {} actions).value.Wired true :=
  @performAll_keeps true (fun _ pool => pool.Wired true) (fun wired step => wired.step step)
    (wired_empty true) actions fun _ _ _ => rfl

/-- Another station at a node leaves a spent link alone, unless the node is its own. -/
private theorem Spent.enter {node other : NodeId} (spent : pool.Spent node) {new : Station}
    (own : other = node → new.closed = true ∧ new.outbound = []) :
    (pool.enter other new).Spent node := by
  by_cases here : node = other
  · obtain ⟨closed, empty⟩ := own here.symm
    exact ⟨new, by rw [get?_enter, if_pos here], closed, empty⟩
  · obtain ⟨station, present, spent⟩ := spent
    exact ⟨station, by rw [get?_enter, if_neg here, present], spent⟩

private theorem Spent.post {node : NodeId} (spent : pool.Spent node) (other : NodeId)
    (event : Event) : (pool.post other event).value.Spent node := by
  rcases pool.post_cases other event with ⟨_, same⟩ | ⟨found, there, same⟩
  · rw [same]
    exact spent
  · rw [same]
    refine spent.enter fun own => ?_
    obtain ⟨station, present, closed, empty⟩ := spent
    rw [← own, there] at present
    cases present
    rw [Station.outbound_receive]
    unfold Station.receive
    split
    · exact ⟨closed, empty⟩
    · exact ⟨closed, empty⟩

/-- A link that is closed and has delivered everything stays so in every step. -/
private theorem Spent.step {node : NodeId} (spent : pool.Spent node) (wired : pool.Wired true)
    {act : PoolAct Pool} (step : Step true pool act) : act.value.Spent node := by
  obtain ⟨station, present, closed, empty⟩ := spent
  have spent : pool.Spent node := ⟨station, present, closed, empty⟩
  have popped : ∀ {source : NodeId} {found : Station} {letter : Letter} {rest : List Letter},
      pool.stations.get? source = some found → found.outbound = letter :: rest →
      (pool.pop source found rest).Spent node := by
    intro source found letter rest there oldest
    refine spent.enter fun own => ?_
    rw [own, present] at there
    cases there
    cases oldest.symm.trans empty
  cases step with
  | move there move =>
    refine spent.enter fun own => ?_
    rw [own, present] at there
    cases there
    cases move.alive.symm.trans ((wired.fitted node station present).closed closed)
  | notify notice => exact spent.post _ _
  | deliver there oldest _ _ => exact (popped there oldest).post _ _
  | lose there oldest _ => exact popped there oldest
  | @retire other found flag there drained done =>
    have still : (pool.enter other { found with drained := true }).Spent node :=
      spent.enter fun _ => ⟨done, drained⟩
    obtain ⟨_, there, spent⟩ := still
    exact ⟨_, there, spent⟩
  | expel _ _ => exact spent
  | launch taken =>
    obtain ⟨rfl, _⟩ := IdSource.take_next taken
    have other : node ≠ pool.nodeIds.next := Nat.ne_of_lt (wired.numbered node station present)
    exact ⟨station, (get?_found ..).trans ((if_neg other).trans present), closed, empty⟩
  | adjust => exact spent

/-- **A link that is closed and has delivered everything stays so.** -/
theorem Spent.perform {node : NodeId} (spent : pool.Spent node) (wired : pool.Wired true)
    (ready : pool.Ready) (action : Action) : (pool.perform action).value.Spent node :=
  (@Chain.keeps _ _ _ _ _ (fun _ (pool : Pool) => pool.Wired true ∧ pool.Spent node)
    (fun ⟨wired, spent⟩ step => ⟨wired.step step, spent.step wired step⟩) []
    (chain_perform ready action fun _ => rfl).1 ⟨wired, spent⟩).2

end Sequences

end Pool

end JobPool
