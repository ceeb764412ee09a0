/-
**The steps of a pool.**

A run of a pool is a sequence of small steps: an engine makes a move, a node hears of something, a
link delivers or loses its oldest message, a node leaves once its link is done, or a node is taken
out by force. `Step` says once what each step is and when it can happen, with or without force.

* `deals`, `deals_post` — what is done with requests in a pool, and that posting does nothing with
  them;
* `chain_perform` — every action is a chain of steps;
* `performAll_keeps` — what every step keeps, together with the history, every run keeps.
-/

import JobPool.Pool.Run
import JobPool.Proofs.Engine.Runs
import JobPool.Proofs.Engine.Traffic

namespace JobPool

/-! ### Stations -/

namespace Station

/-- The station after an event was put into its mailbox. -/
def receive (station : Station) (event : Event) : Station :=
  if station.engine.isGone then station
  else { station with
    engine := { station.engine with mailbox := station.engine.mailbox ++ [event] } }

@[simp] theorem outbound_receive (station : Station) (event : Event) :
    (station.receive event).outbound = station.outbound := by
  unfold receive
  split <;> rfl

@[simp] theorem isGone_receive (station : Station) (event : Event) :
    (station.receive event).engine.isGone = station.engine.isGone := by
  unfold receive
  split <;> rfl

theorem absorb_pure (station : Station) : station.absorb (pure station.engine) = station := by
  rw [absorb, Traced.effects_pure, Traced.value_pure]
  show { station with
    outbound := station.outbound ++ [], closed := station.closed || false } = station
  rw [List.append_nil, Bool.or_false]

/-- Two things that an engine does after each other. -/
theorem absorb_absorb (station : Station) (first second : Act Engine) :
    (station.absorb first).absorb second =
      station.absorb ⟨second.value, first.effects ++ second.effects⟩ := by
  have accepted : Effect.accepted (first.effects ++ second.effects) =
    Effect.accepted first.effects ++ Effect.accepted second.effects := Effect.accepted_append ..
  have closes : Effect.closes (first.effects ++ second.effects) =
    (Effect.closes first.effects || Effect.closes second.effects) := Effect.closes_append ..
  simp only [absorb, accepted, closes, List.append_assoc, Bool.or_assoc]

/-- An event reaches the mailbox and nothing else. -/
theorem absorb_post (station : Station) (event : Event) :
    station.absorb (station.engine.post event) = station.receive event := by
  unfold receive
  rcases station.engine.post_cases event with ⟨alive, posted⟩ | ⟨gone, kept, deeds⟩
  · rw [posted, alive, if_neg Bool.false_ne_true]
    exact absorb_pure { station with
      engine := { station.engine with mailbox := station.engine.mailbox ++ [event] } }
  · obtain ⟨_, unsent, unclosed⟩ := Effect.aside (station.engine.asides_post event)
    rw [Effect.accepted_deeds] at unsent
    rw [Effect.closes_deeds] at unclosed
    rw [gone, if_pos rfl, absorb, kept, unsent, unclosed, List.append_nil, Bool.or_false]

end Station

namespace Pool

/-! ### What is done in a pool -/

/-- What the nodes did with requests, among some effects. -/
def deals (effects : List PoolEffect) : List (NodeId × Deal) :=
  effects.flatMap fun
    | .engine node effect => (Effect.deals [effect]).map (node, ·)
    | .log _ | .posted .. => []

@[simp] theorem deals_append (first second : List PoolEffect) :
    deals (first ++ second) = deals first ++ deals second :=
  List.flatMap_append

/-- A reading of the effects that depends on the deals only. -/
theorem filterMap_deals {β : Type} {read : PoolEffect → Option β}
    {pick : NodeId × Deal → Option β}
    (agree : ∀ effect, (read effect).toList = (deals [effect]).filterMap pick)
    (effects : List PoolEffect) : effects.filterMap read = (deals effects).filterMap pick := by
  induction effects with
  | nil => rfl
  | cons effect rest hypothesis =>
    have first : (effect :: rest).filterMap read = (read effect).toList ++ rest.filterMap read := by
      rw [List.filterMap_cons]
      cases read effect <;> rfl
    have split : deals (effect :: rest) = deals [effect] ++ deals rest := deals_append [effect] rest
    rw [first, split, List.filterMap_append, agree, hypothesis]

/-- What one node does is what its engine does. -/
theorem deals_engine (node : NodeId) (effects : List Effect) :
    deals (effects.map (.engine node)) = (Effect.deals effects).map (node, ·) := by
  induction effects with
  | nil => rfl
  | cons effect rest hypothesis =>
    have split : Effect.deals (effect :: rest) = Effect.deals [effect] ++ Effect.deals rest :=
      Effect.deals_append [effect] rest
    rw [split, List.map_append, ← hypothesis]
    rfl

/-- Lines in the log concern no request. -/
theorem deals_log (records : List LogRecord) : deals (records.map .log) = [] := by
  refine List.flatMap_eq_nil_iff.mpr fun effect member => ?_
  obtain ⟨record, _, rfl⟩ := List.mem_map.mp member
  rfl

/-! ### Entering a station -/

/-- The pool with another station at a node. -/
def enter (pool : Pool) (node : NodeId) (station : Station) : Pool :=
  { pool with stations := pool.stations.insert node station }

theorem get?_enter (pool : Pool) (node other : NodeId) (station : Station) :
    (pool.enter node station).stations.get? other =
      if other = node then some station else pool.stations.get? other :=
  Roster.get?_insert _ _ _ _

/-- After another station was entered, a node has this one or the one that it had. -/
theorem get?_enter_cases {pool : Pool} {node other : NodeId} {station found : Station}
    (present : (pool.enter node station).stations.get? other = some found) :
    other = node ∧ found = station ∨ pool.stations.get? other = some found := by
  rw [get?_enter] at present
  by_cases here : other = node
  · rw [if_pos here] at present
    exact .inl ⟨here, (Option.some.inj present).symm⟩
  · rw [if_neg here] at present
    exact .inr present

theorem enter_of_get? {pool : Pool} {node : NodeId} {station : Station}
    (present : pool.stations.get? node = some station) : pool.enter node station = pool := by
  rw [enter, Roster.insert_of_get? present]

theorem enter_enter (pool : Pool) (node : NodeId) (old new : Station) :
    (pool.enter node old).enter node new = pool.enter node new := by
  rw [enter, enter, enter, Roster.insert_insert]

/-! ### Posting -/

section Posts

variable (pool : Pool) (node other : NodeId) (event : Event)

/-- Putting an event into a mailbox is nothing but another station at its node. -/
theorem post_cases :
    pool.stations.get? node = none ∧ (pool.post node event).value = pool ∨
    ∃ station, pool.stations.get? node = some station ∧
      (pool.post node event).value = pool.enter node (station.receive event) := by
  show _ ∧ (pool.change node fun engine => engine.post event).value = pool ∨
    ∃ station, _ ∧ (pool.change node fun engine => engine.post event).value = _
  unfold change
  cases pool.stations.get? node with
  | none => exact .inl ⟨rfl, rfl⟩
  | some station =>
    refine .inr ⟨station, rfl, ?_⟩
    show pool.enter node (station.absorb (station.engine.post event)) = _
    rw [station.absorb_post event]

theorem get?_post :
    (pool.post node event).value.stations.get? other =
      if other = node then (pool.stations.get? node).map fun station => station.receive event
      else pool.stations.get? other := by
  refine (pool.stations_change node other fun engine => engine.post event).trans ?_
  simp only [Station.absorb_post]

/-- Nothing is done with a request when an event is put into a mailbox. -/
theorem deals_post : deals (pool.post node event).effects = [] := by
  show deals ([.posted node event] ++
    (pool.change node fun engine => engine.post event).effects) = []
  rw [deals_append]
  unfold change
  cases pool.stations.get? node with
  | none => rfl
  | some station =>
    have asides := (Effect.aside (station.engine.asides_post event)).1
    rw [Effect.deals_deeds] at asides
    show [] ++ deals ((station.engine.post event).effects.map (.engine node)) = []
    rw [deals_engine, asides]
    rfl

end Posts

/-! ### Steps -/

/-- The node was launched and is no longer a member. -/
def Departed (pool : Pool) (node : NodeId) : Prop :=
  node ∉ pool.members ∧ (pool.stations.get? node).isSome = true

/-- An event other than a message. A departure is only announced of a node that is out. -/
structure Notice (pool : Pool) (event : Event) : Prop where
  plain : Engine.letter? event = none
  departed : ∀ node, Engine.departure? event = some node → pool.Departed node

/-- An event that is neither a message nor a departure can be heard at any time. -/
theorem notice_of_plain {event : Event} (plain : Engine.letter? event = none)
    (quiet : Engine.departure? event = none) (pool : Pool) : pool.Notice event :=
  ⟨plain, fun node announced => by cases quiet.symm.trans announced⟩

/-- The pool without the oldest message of a link. -/
def pop (pool : Pool) (node : NodeId) (station : Station) (rest : List Letter) : Pool :=
  pool.enter node { station with outbound := rest }

/-- The pool with one more node, the first of all or a worker of the first. -/
def found (pool : Pool) (options : Options) (node : NodeId) (nodeIds : IdSource) : Pool :=
  { pool.enter node { engine := .create options node (pool.founder.getD node) {} } with
    members := pool.members ++ [node]
    founder := some (pool.founder.getD node)
    nodeIds := nodeIds }

theorem get?_found (pool : Pool) (options : Options) (node : NodeId) (nodeIds : IdSource)
    (other : NodeId) :
    (pool.found options node nodeIds).stations.get? other =
      if other = node then some { engine := .create options node (pool.founder.getD node) {} }
      else pool.stations.get? other :=
  get?_enter ..

/-- The first node stays the first. -/
theorem founder_found {pool : Pool} {master : NodeId} (founder : pool.founder = some master)
    (options : Options) (node : NodeId) (nodeIds : IdSource) :
    (pool.found options node nodeIds).founder = some master := by
  show some (pool.founder.getD node) = some master
  rw [founder]
  rfl

/-- **One step of a pool**, with its new state and its effects. -/
inductive Step (violent : Bool) : Pool → PoolAct Pool → Prop
  | move {pool : Pool} {node : NodeId} {station : Station} {act : Act Engine}
      (present : pool.stations.get? node = some station)
      (move : Engine.Move station.engine act) :
      Step violent pool ⟨pool.enter node (station.absorb act), act.effects.map (.engine node)⟩
  /-- A node hears of something. -/
  | notify {pool : Pool} {node : NodeId} {event : Event} (notice : pool.Notice event) :
      Step violent pool (pool.post node event)
  /-- A link delivers its oldest message. -/
  | deliver {pool : Pool} {source destination : NodeId} {station : Station} {payload : Payload}
      {rest : List Letter} (present : pool.stations.get? source = some station)
      (oldest : station.outbound = (destination, payload) :: rest)
      (sender : source ∈ pool.members) (receiver : destination ∈ pool.members) :
      Step violent pool
        ((pool.pop source station rest).post destination (.message ⟨source, payload⟩))
  /-- A link loses its oldest message, because the node at one end of it is out. -/
  | lose {pool : Pool} {source destination : NodeId} {station : Station} {payload : Payload}
      {rest : List Letter} (present : pool.stations.get? source = some station)
      (oldest : station.outbound = (destination, payload) :: rest)
      (out : source ∉ pool.members ∨ destination ∉ pool.members) :
      Step violent pool (pure (pool.pop source station rest))
  /-- A closed link has delivered everything, and its node leaves. -/
  | retire {pool : Pool} {node : NodeId} {station : Station} {flag : Bool}
      (present : pool.stations.get? node = some station) (empty : station.outbound = [])
      (closed : station.closed = true) :
      Step violent pool (pure { pool.enter node { station with drained := true } with
        members := pool.members.erase node
        founderDeparted := flag })
  /-- Nodes are taken out by force. -/
  | expel {pool : Pool} {members : List NodeId} {flag : Bool} (allowed : violent = true)
      (fewer : members.Sublist pool.members) :
      Step violent pool (pure { pool with members := members, founderDeparted := flag })
  | launch {pool : Pool} {options : Options} {node : NodeId} {nodeIds : IdSource}
      (taken : pool.nodeIds.take = some (node, nodeIds)) :
      Step violent pool (pure (pool.found options node nodeIds))
  /-- Something happens that concerns neither the nodes nor the membership. -/
  | adjust {pool : Pool} {terminated gateOpen : Bool} {submissions : Nat}
      {records : List LogRecord} :
      Step violent pool ⟨{ pool with
        terminated := terminated, gateOpen := gateOpen, submissions := submissions },
        records.map .log⟩

/-! ### What every action leaves -/

/-- Two states of a pool with the same nodes and the same members. -/
structure Alike (first second : Pool) : Prop where
  members : second.members = first.members
  nodes : ∀ node, (second.stations.get? node).isSome = (first.stations.get? node).isSome

/-- The members are distinct nodes of the pool, no node has an identity that is still to come, and
every engine is poised for its next step. -/
structure Ready (pool : Pool) : Prop where
  distinct : pool.members.Nodup
  known : ∀ node ∈ pool.members, (pool.stations.get? node).isSome = true
  numbered : ∀ node, (pool.stations.get? node).isSome = true → node < pool.nodeIds.next
  poised : ∀ node station, pool.stations.get? node = some station → station.engine.Poised

theorem Alike.trans {first second third : Pool} (left : first.Alike second)
    (right : second.Alike third) : first.Alike third :=
  ⟨right.members.trans left.members, fun node => (right.nodes node).trans (left.nodes node)⟩

theorem Notice.alike {first second : Pool} {event : Event} (notice : first.Notice event)
    (alike : first.Alike second) : second.Notice event := by
  refine ⟨notice.plain, fun node announced => ?_⟩
  rw [Departed, alike.members, alike.nodes]
  exact notice.departed node announced

theorem alike_post (pool : Pool) (node : NodeId) (event : Event) :
    pool.Alike (pool.post node event).value := by
  refine ⟨members_post pool node event, fun other => ?_⟩
  rw [get?_post]
  by_cases here : other = node
  · rw [if_pos here, here, Option.isSome_map]
  · rw [if_neg here]

/-- Another station at a node leaves the nodes and the members as they are. -/
theorem alike_enter {pool : Pool} {node : NodeId} {old : Station}
    (present : pool.stations.get? node = some old) (new : Station) :
    pool.Alike (pool.enter node new) := by
  refine ⟨rfl, fun other => ?_⟩
  rw [get?_enter]
  by_cases here : other = node
  · rw [if_pos here, here, present]
    rfl
  · rw [if_neg here]

theorem Ready.enter {pool : Pool} {node : NodeId} {old new : Station} (ready : pool.Ready)
    (present : pool.stations.get? node = some old) (poised : new.engine.Poised) :
    (pool.enter node new).Ready := by
  have nodes := (alike_enter present new).nodes
  refine ⟨ready.distinct, ?_, ?_, ?_⟩
  · intro other member
    rw [nodes]
    exact ready.known other member
  · intro other there
    rw [nodes] at there
    exact ready.numbered other there
  · intro other station found
    rcases get?_enter_cases found with ⟨_, rfl⟩ | elsewhere
    · exact poised
    · exact ready.poised other station elsewhere

theorem Ready.post {pool : Pool} (ready : pool.Ready) (node : NodeId) (event : Event) :
    (pool.post node event).value.Ready := by
  rcases pool.post_cases node event with ⟨_, same⟩ | ⟨station, present, same⟩
  · rw [same]
    exact ready
  · rw [same]
    refine ready.enter present ?_
    unfold Station.receive
    split
    · exact ready.poised node station present
    · exact ready.poised node station present

theorem Ready.fewer {pool : Pool} (ready : pool.Ready) {members : List NodeId}
    (fewer : members.Sublist pool.members) (flag : Bool) :
    Ready { pool with members := members, founderDeparted := flag } :=
  ⟨ready.distinct.sublist fewer, fun node member => ready.known node (fewer.subset member),
    ready.numbered, ready.poised⟩

theorem Ready.found {pool : Pool} (ready : pool.Ready) (options : Options) {node : NodeId}
    {nodeIds : IdSource} (taken : pool.nodeIds.take = some (node, nodeIds)) :
    (pool.found options node nodeIds).Ready := by
  obtain ⟨rfl, following⟩ := IdSource.take_next taken
  have fresh : ∀ other ∈ pool.members, other < pool.nodeIds.next := fun other member =>
    ready.numbered other (ready.known other member)
  refine ⟨?_, ?_, ?_, ?_⟩
  · refine List.nodup_append.mpr ⟨ready.distinct, List.pairwise_singleton _ _, ?_⟩
    intro other member last single same
    rw [List.mem_singleton.mp single] at same
    exact Nat.lt_irrefl _ (same ▸ fresh other member)
  · intro other member
    rw [get?_found]
    by_cases here : other = pool.nodeIds.next
    · rw [if_pos here]
      rfl
    · rw [if_neg here]
      refine ready.known other ((List.mem_append.mp member).resolve_right fun last => ?_)
      exact here (List.mem_singleton.mp last)
  · intro other there
    show other < nodeIds.next
    rw [following]
    obtain ⟨station, present⟩ := Option.isSome_iff_exists.mp there
    rcases get?_enter_cases present with ⟨rfl, _⟩ | elsewhere
    · exact Nat.lt_succ_self _
    · exact Nat.lt_succ_of_lt (ready.numbered other (Option.isSome_of_eq_some elsewhere))
  · intro other station present
    rcases get?_enter_cases present with ⟨_, rfl⟩ | elsewhere
    · nofun
    · exact ready.poised other station elsewhere

/-! ### Actions are chains of steps -/

section Actions

variable {violent : Bool} {pool : Pool}

/-- What an engine does in moves, its node does in steps. -/
private theorem chain_enter {node : NodeId} (station : Station) {act : Act Engine}
    (chain : Chain Engine.Move station.engine act) :
    Chain (Step violent) (pool.enter node station)
      ⟨pool.enter node (station.absorb act), act.effects.map (.engine node)⟩ := by
  generalize start : station.engine = engine at chain
  induction chain generalizing station with
  | refl engine =>
    subst start
    rw [station.absorb_pure]
    exact .refl _
  | @step engine first rest taken chain hypothesis =>
    subst start
    have present : (pool.enter node station).stations.get? node = some station := by
      rw [get?_enter, if_pos rfl]
    have step := @Step.move violent _ _ _ _ present taken
    rw [enter_enter] at step
    have later := hypothesis (station.absorb first) rfl
    rw [station.absorb_absorb] at later
    rw [List.map_append]
    have whole := Chain.step step later
    exact whole

/-- A chain of moves at one node is a chain of steps. -/
private theorem chain_change (node : NodeId) (action : Engine → Act Engine)
    (chain : ∀ station, pool.stations.get? node = some station →
      Chain Engine.Move station.engine (action station.engine)) :
    Chain (Step violent) pool (pool.change node action) := by
  unfold change
  cases present : pool.stations.get? node with
  | none => exact .refl pool
  | some station =>
    have steps := @chain_enter violent pool node station _ (chain station present)
    rw [enter_of_get? present] at steps
    exact steps

private theorem Ready.change (ready : pool.Ready) (node : NodeId) (action : Engine → Act Engine)
    (poised : ∀ engine : Engine, engine.Poised → (action engine).value.Poised) :
    (pool.change node action).value.Ready := by
  unfold Pool.change
  cases present : pool.stations.get? node with
  | none => exact ready
  | some station => exact ready.enter present (poised _ (ready.poised node station present))

/-- An event that a node may hear of is posted in one step. -/
private theorem chain_notify (ready : pool.Ready) (node : NodeId) {event : Event}
    (notice : pool.Notice event) :
    Chain (Step violent) pool (pool.post node event) ∧ (pool.post node event).value.Ready :=
  ⟨.single (.notify notice), ready.post node event⟩

/-- Every member hears of the change. -/
private theorem chain_broadcast (ready : pool.Ready) {change : MembershipEvent}
    (notice : pool.Notice (.membership change)) :
    Chain (Step violent) pool (pool.broadcast change) ∧ (pool.broadcast change).value.Ready ∧
      pool.Alike (pool.broadcast change).value := by
  have told := @Traced.chain_foldlM _ _ _ (Step violent)
    (fun state => state.Ready ∧ pool.Alike state)
    (fun state member => state.post member (.membership change)) pool.members
    (fun state member _ ⟨ready, alike⟩ => ⟨.single (.notify (notice.alike alike)),
      ready.post member _, alike.trans (state.alike_post member _)⟩)
    pool ⟨ready, rfl, fun _ => rfl⟩
  exact ⟨told.1, told.2.1, told.2.2⟩

/-- Lines in the log come after a chain of steps. -/
private theorem chain_log {first : PoolAct Pool} (chain : Chain (Step violent) pool first)
    (records : List LogRecord) :
    Chain (Step violent) pool ⟨first.value, first.effects ++ records.map .log⟩ :=
  chain.trans (.single .adjust)

/-- The pool without a member. -/
def without (pool : Pool) (node : NodeId) : Pool :=
  { pool with
    members := pool.members.erase node
    founderDeparted := pool.founderDeparted || pool.founder == some node }

/-- Once a member is out, the others hear of it. -/
private theorem chain_remove (ready : pool.Ready) {node : NodeId} (member : node ∈ pool.members) :
    Chain (Step violent) (pool.without node) (pool.remove node) ∧
      (pool.remove node).value.Ready ∧
      (pool.remove node).value.Notice (.membership (.departed node)) := by
  have removed : pool.remove node = (pool.without node).broadcast (.departed node) :=
    if_pos (List.contains_iff_mem.mpr member)
  have notice : (pool.without node).Notice (.membership (.departed node)) := by
    refine ⟨rfl, fun other announced => ?_⟩
    cases announced
    exact ⟨ready.distinct.not_mem_erase, ready.known node member⟩
  obtain ⟨told, still, alike⟩ := chain_broadcast (ready.fewer List.erase_sublist _) notice
  rw [removed]
  exact ⟨told, still, notice.alike alike⟩

/-- What concerns neither the nodes nor the membership can change at any time. -/
private theorem chain_adjust (ready : pool.Ready) (terminated gateOpen : Bool)
    (submissions : Nat) :
    let adjusted : Pool := { pool with
      terminated := terminated, gateOpen := gateOpen, submissions := submissions }
    Chain (Step violent) pool (pure adjusted) ∧ adjusted.Ready := by
  intro adjusted
  have adjust : Step violent pool ⟨adjusted, [].map .log⟩ := .adjust
  refine ⟨?_, ready.distinct, ready.known, ready.numbered, ready.poised⟩
  exact .single adjust

/-- All nodes are taken out. -/
private theorem chain_clear (ready : pool.Ready) :
    Chain (Step true) pool (pure { pool with members := [] }) ∧
      Ready { pool with members := [] } :=
  ⟨.single (.expel rfl (List.nil_sublist _)), ready.fewer (List.nil_sublist _) _⟩

/-- A new node and a member hear of each other. -/
private theorem chain_introduce (ready : pool.Ready) (node member : NodeId) :
    Chain (Step violent) pool (pool.introduce node member) ∧
      (pool.introduce node member).value.Ready := by
  obtain ⟨first, still⟩ := @chain_notify violent pool ready member
    (.membership (.joined node)) (notice_of_plain rfl rfl _)
  obtain ⟨second, ready⟩ := @chain_notify violent _ still node
    (.membership (.joined member)) (notice_of_plain rfl rfl _)
  exact ⟨first.trans second, ready⟩

private theorem chain_launch (ready : pool.Ready) (options : Options) :
    Chain (Step violent) pool
        ⟨(pool.launch options).value.2, (pool.launch options).effects⟩ ∧
      (pool.launch options).value.2.Ready := by
  unfold launch
  split
  next => exact ⟨.refl pool, ready⟩
  split
  next => exact ⟨.refl pool, ready⟩
  split
  next => exact ⟨.refl pool, ready⟩
  next node nodeIds taken =>
    obtain ⟨introduced, still⟩ := @Traced.chain_foldlM _ _ _ (Step violent) Ready
      (fun state member => state.introduce node member) pool.members
      (fun state member _ ready => chain_introduce ready node member)
      (pool.found options node nodeIds) (ready.found options taken)
    obtain ⟨told, ready⟩ := @chain_notify violent _ still node
      (.membership (.joined node)) (notice_of_plain rfl rfl _)
    have whole := fun text => (Chain.step (.launch taken) introduced).trans
      (chain_log told [⟨.info, text⟩])
    refine ⟨?_, ready⟩
    exact whole _

private theorem chain_leave (ready : pool.Ready) (node : NodeId) :
    Chain (Step violent) pool ⟨(pool.leave node).value.2, (pool.leave node).effects⟩ ∧
      (pool.leave node).value.2.Ready := by
  unfold leave
  split
  next => exact ⟨.refl pool, ready⟩
  next =>
    obtain ⟨told, ready⟩ := @chain_notify violent pool ready node .shutdown
      (notice_of_plain rfl rfl _)
    refine ⟨?_, ready⟩
    exact told.trans (.refl _)

private theorem chain_submit (ready : pool.Ready) (node : NodeId) (job : Job) (input : Bytes) :
    Chain (Step violent) pool
        ⟨(pool.submit node job input).value.2, (pool.submit node job input).effects⟩ ∧
      (pool.submit node job input).value.2.Ready := by
  obtain ⟨numbered, still⟩ := @chain_adjust violent pool ready pool.terminated pool.gateOpen
    (pool.submissions + 1)
  obtain ⟨told, ready⟩ := @chain_notify violent _ still node
    (.submit pool.submissions job input) (notice_of_plain rfl rfl _)
  refine ⟨?_, ready⟩
  exact numbered.trans (told.trans (.refl _))

private theorem chain_kill (ready : pool.Ready) (node : NodeId) :
    Chain (Step true) pool ⟨(pool.kill node).value.2, (pool.kill node).effects⟩ ∧
      (pool.kill node).value.2.Ready := by
  unfold kill
  split
  next => exact ⟨.refl pool, ready⟩
  next among =>
    rw [Bool.not_eq_true', Bool.not_eq_false, List.contains_iff_mem] at among
    have expel : Step true pool (pure (pool.without node)) := .expel rfl List.erase_sublist
    obtain ⟨farewell, still, notice⟩ := chain_remove ready among
    obtain ⟨told, ready⟩ := chain_notify still node notice
    have whole := fun text => (Chain.step expel farewell).trans
      ((chain_log (.refl _) [⟨.warn, text⟩]).trans (told.trans (.refl _)))
    refine ⟨?_, ready⟩
    exact whole _

private theorem chain_terminate (ready : pool.Ready) :
    Chain (Step true) pool pool.terminate ∧ pool.terminate.value.Ready := by
  obtain ⟨mark, marked⟩ := @chain_adjust true pool ready true pool.gateOpen pool.submissions
  have plain : Notice { pool with terminated := true } (.membership .poolTerminated) :=
    notice_of_plain rfl rfl _
  obtain ⟨told, still, _⟩ := chain_broadcast marked plain
  obtain ⟨cleared, ready⟩ := chain_clear still
  have whole := (mark.trans told).trans cleared
  refine ⟨?_, ready⟩
  exact whole

/-- A link delivers its oldest message, or loses it. -/
private theorem chain_deliver (ready : pool.Ready) {source destination : NodeId}
    {station : Station} {payload : Payload} {rest : List Letter}
    (present : pool.stations.get? source = some station)
    (oldest : station.outbound = (destination, payload) :: rest) :
    let popped := pool.pop source station rest
    Chain (Step violent) pool (popped.deliver source destination payload) ∧
      (popped.deliver source destination payload).value.Ready := by
  intro popped
  have still : popped.Ready := ready.enter present (ready.poised source station present)
  unfold deliver
  split
  next out =>
    rw [Bool.not_eq_true', ← Bool.not_eq_true, List.contains_iff_mem] at out
    refine ⟨?_, still⟩
    exact chain_log (.single (.lose present oldest (.inl out))) [⟨.debug, _⟩]
  next sender =>
    rw [Bool.not_eq_true', Bool.not_eq_false, List.contains_iff_mem] at sender
    split
    next out =>
      rw [Bool.not_eq_true', ← Bool.not_eq_true, List.contains_iff_mem] at out
      refine ⟨?_, still⟩
      exact chain_log (.single (.lose present oldest (.inr out))) [⟨.warn, _⟩]
    next receiver =>
      rw [Bool.not_eq_true', Bool.not_eq_false, List.contains_iff_mem] at receiver
      exact ⟨.single (.deliver present oldest sender receiver), still.post _ _⟩

/-- A node leaves once its closed link has delivered everything. -/
private theorem chain_depart (ready : pool.Ready) {node : NodeId} {station : Station}
    (present : pool.stations.get? node = some station) (empty : station.outbound = [])
    (closed : station.closed = true) :
    let drained := pool.enter node { station with drained := true }
    Chain (Step violent) pool (drained.depart node) ∧ (drained.depart node).value.Ready := by
  intro drained
  have still : drained.Ready := ready.enter present (ready.poised node station present)
  have retire : ∀ flag, Step violent pool (pure { drained with
      members := pool.members.erase node, founderDeparted := flag }) :=
    fun flag => .retire present empty closed
  unfold depart
  split
  next out =>
    rw [Bool.not_eq_true', ← Bool.not_eq_true, List.contains_iff_mem] at out
    have unlisted : node ∉ pool.members := out
    have silent := retire pool.founderDeparted
    rw [List.erase_of_not_mem unlisted] at silent
    refine ⟨?_, still⟩
    exact .single silent
  next among =>
    rw [Bool.not_eq_true', Bool.not_eq_false, List.contains_iff_mem] at among
    obtain ⟨farewell, ready, _⟩ := @chain_remove violent drained still node among
    have whole := fun text => (Chain.step (retire _) farewell).trans
      (chain_log (.refl _) [⟨.info, text⟩])
    refine ⟨?_, ready⟩
    exact whole _

private theorem chain_carry (ready : pool.Ready) (node : NodeId) :
    Chain (Step violent) pool (pool.carry node) ∧ (pool.carry node).value.Ready := by
  unfold carry
  split
  next => exact ⟨.refl pool, ready⟩
  next station present =>
    split
    next oldest => exact chain_deliver ready present oldest
    next empty =>
      split
      next done =>
        rw [Bool.and_eq_true] at done
        exact chain_depart ready present empty done.1
      next => exact ⟨.refl pool, ready⟩

end Actions

/-- The action takes nodes out by force. -/
def Action.isViolent : Action → Bool
  | .kill _ | .terminate => true
  | .launch _ | .abort _ | .leave _ | .submit .. | .endSubmissions _ | .openGate | .advance _
  | .timeOut _ | .carry _ => false

/-- **Every action is a chain of steps**, without force if the action is without force. -/
theorem chain_perform {violent : Bool} {pool : Pool} (ready : pool.Ready) (action : Action)
    (allowed : action.isViolent = true → violent = true) :
    Chain (Step violent) pool (pool.perform action) ∧ (pool.perform action).value.Ready := by
  cases action with
  | launch options =>
    obtain ⟨chain, ready⟩ := chain_launch ready options
    refine ⟨?_, ready⟩
    exact chain.trans (.refl _)
  | abort node =>
    refine ⟨chain_change node Engine.abort ?_, ready.change node Engine.abort ?_⟩
    · exact fun station _ => station.engine.chain_abort
    · exact fun engine poised => engine.poised_abort poised
  | leave node =>
    obtain ⟨chain, ready⟩ := chain_leave ready node
    refine ⟨?_, ready⟩
    exact chain.trans (.refl _)
  | kill node =>
    obtain ⟨chain, ready⟩ := chain_kill ready node
    rw [allowed rfl]
    refine ⟨?_, ready⟩
    exact chain.trans (.refl _)
  | terminate =>
    rw [allowed rfl]
    exact chain_terminate ready
  | submit node job input =>
    obtain ⟨chain, ready⟩ := chain_submit ready node job input
    refine ⟨?_, ready⟩
    exact chain.trans (.refl _)
  | endSubmissions node => exact chain_notify ready node (notice_of_plain rfl rfl _)
  | openGate => exact chain_adjust ready pool.terminated true pool.submissions
  | advance node =>
    refine ⟨chain_change node (fun engine => engine.advance pool.gateOpen) ?_,
      ready.change node (fun engine => engine.advance pool.gateOpen) ?_⟩
    · exact fun station present =>
        station.engine.chain_advance pool.gateOpen (ready.poised node station present)
    · exact fun engine poised => engine.poised_advance pool.gateOpen poised
  | timeOut node =>
    refine ⟨chain_change node Engine.timeOut ?_, ready.change node Engine.timeOut ?_⟩
    · exact fun station _ => station.engine.chain_timeOut
    · exact fun engine poised => engine.poised_timeOut poised
  | carry node => exact chain_carry ready node

theorem get?_empty (node : NodeId) : ({} : Pool).stations.get? node = none := rfl

theorem ready_empty : Ready {} := by
  refine ⟨List.nodup_nil, nofun, ?_, ?_⟩
  · intro node there
    rw [get?_empty] at there
    cases there
  · intro node station present
    rw [get?_empty] at present
    cases present

/-- **What every step keeps, together with the history, every run keeps.** -/
theorem performAll_keeps {violent : Bool} {holds : List PoolEffect → Pool → Prop}
    (keeps : ∀ {history pool act}, holds history pool → Step violent pool act →
      holds (history ++ act.effects) act.value)
    (initial : holds [] {}) (actions : List Action)
    (allowed : ∀ action ∈ actions, action.isViolent = true → violent = true) :
    holds (performAll {} actions).effects (performAll {} actions).value := by
  have chain := (Traced.chain_foldlM perform actions
    (fun state action member ready => chain_perform ready action (allowed action member)) {}
    ready_empty).1
  have kept := chain.keeps keeps initial
  exact kept

end Pool

end JobPool
