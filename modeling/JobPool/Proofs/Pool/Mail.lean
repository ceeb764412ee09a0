/-
**The mail of the nodes of a pool.**

The effects of a pool name every event that is put into a mailbox and every message that a link
accepts. Read for one node they are its mail and what it sent. Most of what happens in a pool puts
events into mailboxes and does nothing else: the members, the nodes and the links stay as they are.

* `mail`, `news`, `letters`, `accepted` — the mail of a node, the changes and the messages in it,
  and what the link of a node accepted;
* `Told` — events are put into mailboxes and nothing else happens;
* `told_foldlM`, `told_broadcast`, `told_introductions` — the mail of a broadcast and of a newcomer.
-/

import JobPool.Proofs.Pool.Transit

namespace JobPool

/-- The change of the members that an event tells of. -/
def Event.news? : Event → Option MembershipEvent
  | .membership (.joined node) => some (.joined node)
  | .membership (.departed node) => some (.departed node)
  | .membership .poolTerminated | .message _ | .submit .. | .endSubmissions | .shutdown => none

namespace Pool

/-- The events that were put into the mailbox of a node, the oldest first. -/
def mail (node : NodeId) (effects : List PoolEffect) : List Event :=
  effects.filterMap fun
    | .posted receiver event => if receiver = node then some event else none
    | .log _ | .engine .. => none

/-- The changes of the members that a node was told of, the oldest first. -/
def news (node : NodeId) (effects : List PoolEffect) : List MembershipEvent :=
  (mail node effects).filterMap Event.news?

/-- The messages that a node was sent, the oldest first, each with its sender. -/
def letters (node : NodeId) (effects : List PoolEffect) : List Letter :=
  (mail node effects).filterMap Engine.letter?

/-- What the engine of a node did, the oldest first. -/
def doings (node : NodeId) (effects : List PoolEffect) : List Effect :=
  effects.filterMap fun
    | .engine actor effect => if actor = node then some effect else none
    | .log _ | .posted .. => none

/-- The messages that the link of a node accepted, the oldest first, each with its receiver. -/
def accepted (node : NodeId) (effects : List PoolEffect) : List Letter :=
  Effect.accepted (doings node effects)

/-- The events for one node, among some for all. -/
def arriving (node : NodeId) (posts : List (NodeId × Event)) : List Event :=
  posts.filterMap fun post => if post.1 = node then some post.2 else none

/-! ### Reading the effects -/

section Reading

variable (node : NodeId)

@[simp] theorem mail_append (first second : List PoolEffect) :
    mail node (first ++ second) = mail node first ++ mail node second :=
  List.filterMap_append

@[simp] theorem news_append (first second : List PoolEffect) :
    news node (first ++ second) = news node first ++ news node second := by
  rw [news, mail_append, List.filterMap_append]
  rfl

@[simp] theorem accepted_append (first second : List PoolEffect) :
    accepted node (first ++ second) = accepted node first ++ accepted node second := by
  rw [accepted, doings, List.filterMap_append, Effect.accepted_append]
  rfl

@[simp] theorem arriving_append (first second : List (NodeId × Event)) :
    arriving node (first ++ second) = arriving node first ++ arriving node second :=
  List.filterMap_append

/-- An engine puts nothing into a mailbox. -/
theorem mail_engine (sender : NodeId) (effects : List Effect) :
    mail node (effects.map (.engine sender)) = [] := by
  refine List.filterMap_eq_nil_iff.mpr fun effect member => ?_
  obtain ⟨_, _, rfl⟩ := List.mem_map.mp member
  rfl

/-- The link of a node accepts what the engine of this node sends. -/
theorem accepted_engine (sender : NodeId) (effects : List Effect) :
    accepted node (effects.map (.engine sender)) =
      if sender = node then Effect.accepted effects else [] := by
  have own : doings node (effects.map (.engine sender)) =
      effects.filterMap fun effect => if sender = node then some effect else none :=
    List.filterMap_map
  rw [accepted, own]
  by_cases here : sender = node
  · simp [here]
  · simp [here, Effect.accepted]

end Reading

theorem mem_arriving {node : NodeId} {posts : List (NodeId × Event)} {event : Event}
    (arrives : event ∈ arriving node posts) : (node, event) ∈ posts := by
  obtain ⟨⟨receiver, sent⟩, member, own⟩ := List.mem_filterMap.mp arrives
  by_cases here : receiver = node
  · simp only [here, if_pos] at own
    cases own
    exact here ▸ member
  · simp [here] at own

/-- One event for each of some nodes. -/
theorem arriving_map {nodes : List NodeId} (distinct : nodes.Nodup) (node : NodeId)
    (event : Event) :
    arriving node (nodes.map (·, event)) = if node ∈ nodes then [event] else [] := by
  induction nodes with
  | nil => rfl
  | cons first rest hypothesis =>
    obtain ⟨fresh, distinct⟩ := List.nodup_cons.mp distinct
    rw [List.map_cons, arriving, List.filterMap_cons, ← arriving, hypothesis distinct]
    by_cases own : first = node
    · subst own
      simp [fresh]
    · simp [own, Ne.symm own]

/-- A node that is introduced to others hears of them, and they hear of it. -/
theorem arriving_introductions {others : List NodeId} (distinct : others.Nodup) {node : NodeId}
    (fresh : node ∉ others) (receiver : NodeId) :
    arriving receiver (others.flatMap fun other =>
        [(other, .membership (.joined node)), (node, .membership (.joined other))]) =
      if receiver = node then others.map fun other => .membership (.joined other)
      else if receiver ∈ others then [.membership (.joined node)] else [] := by
  induction others with
  | nil => simp [arriving]
  | cons first rest hypothesis =>
    obtain ⟨unlike, distinct⟩ := List.nodup_cons.mp distinct
    rw [List.mem_cons, not_or] at fresh
    rw [List.flatMap_cons, arriving_append, hypothesis distinct fresh.2]
    by_cases own : receiver = node
    · subst own
      simp [arriving, Ne.symm fresh.1]
    · by_cases here : receiver = first
      · subst here
        simp [arriving, own, unlike, fresh.1]
      · simp [arriving, own, here, Ne.symm own, Ne.symm here]

/-! ### Nothing but mail -/

/-- **Events are put into mailboxes, and nothing else happens** to the members, the nodes and the
links. -/
structure Told (pool : Pool) (posts : List (NodeId × Event)) (act : PoolAct Pool) : Prop where
  alike : pool.Alike act.value
  nodeIds : act.value.nodeIds = pool.nodeIds
  waiting : ∀ node, act.value.view node Station.outbound = pool.view node Station.outbound
  delivered : ∀ node, mail node act.effects = arriving node posts
  unsent : ∀ node, accepted node act.effects = []

section Telling

variable {pool : Pool} {posts more : List (NodeId × Event)} {first second : PoolAct Pool}

theorem told_pure (pool : Pool) : pool.Told [] (pure pool) :=
  ⟨⟨rfl, fun _ => rfl⟩, rfl, fun _ => rfl, fun _ => rfl, fun _ => rfl⟩

theorem Told.trans (left : pool.Told posts first) (right : first.value.Told more second) :
    pool.Told (posts ++ more) ⟨second.value, first.effects ++ second.effects⟩ := by
  refine ⟨left.alike.trans right.alike, right.nodeIds.trans left.nodeIds,
    fun node => (right.waiting node).trans (left.waiting node), ?_, ?_⟩
  · intro node
    rw [mail_append, left.delivered, right.delivered, arriving_append]
  · intro node
    rw [accepted_append, left.unsent, right.unsent]
    rfl

/-- Lines in the log are no mail. -/
theorem Told.log (told : pool.Told posts first) (record : LogRecord) :
    pool.Told posts ⟨first.value, first.effects ++ [.log record]⟩ := by
  refine ⟨told.alike, told.nodeIds, told.waiting, fun node => ?_, fun node => ?_⟩
  · rw [mail_append, told.delivered]
    exact List.append_nil _
  · rw [accepted_append, told.unsent]
    rfl

theorem told_post (pool : Pool) (node : NodeId) (event : Event) :
    pool.Told [(node, event)] (pool.post node event) := by
  have effects : ∃ aside : List Effect, Effect.accepted aside = [] ∧
      (pool.post node event).effects = .posted node event :: aside.map (.engine node) := by
    show ∃ aside, _ ∧ [.posted node event] ++
      (pool.change node fun engine => engine.post event).effects = _
    unfold change
    cases pool.stations.get? node with
    | none => exact ⟨[], rfl, rfl⟩
    | some station =>
      have unsent := (Effect.aside (station.engine.asides_post event)).2.1
      rw [Effect.accepted_deeds] at unsent
      exact ⟨_, unsent, rfl⟩
  obtain ⟨aside, unsent, effects⟩ := effects
  refine ⟨pool.alike_post node event, ?_, ?_, ?_, ?_⟩
  · rcases pool.post_cases node event with ⟨_, same⟩ | ⟨_, _, same⟩ <;> rw [same]
    rfl
  · intro other
    rcases pool.post_cases node event with ⟨_, same⟩ | ⟨station, present, same⟩
    · rw [same]
    · rw [same]
      exact view_enter_of_eq present (station.outbound_receive event) other
  · intro other
    rw [effects, ← List.singleton_append, mail_append, mail_engine, List.append_nil]
    rfl
  · intro other
    rw [effects, ← List.singleton_append, accepted_append, accepted_engine, unsent, ite_self]
    rfl

/-- **Item by item the nodes are told, and nothing else happens.** -/
theorem told_foldlM {α : Type} {step : Pool → α → PoolAct Pool} {posts : α → List (NodeId × Event)}
    (told : ∀ pool item, Told pool (posts item) (step pool item)) (items : List α) (pool : Pool) :
    pool.Told (items.flatMap posts) (items.foldlM step pool) := by
  induction items generalizing pool with
  | nil => exact pool.told_pure
  | cons item rest hypothesis =>
    rw [List.flatMap_cons, List.foldlM_cons]
    exact (told pool item).trans (hypothesis _)

/-- Every member hears of a change. -/
theorem told_broadcast (pool : Pool) (change : MembershipEvent) :
    pool.Told (pool.members.map (·, .membership change)) (pool.broadcast change) := by
  have told := told_foldlM (fun state member => state.told_post member (.membership change))
    pool.members pool
  rw [← List.map_eq_flatMap] at told
  exact told

/-- A node and others hear of each other. -/
theorem told_introductions (pool : Pool) (node : NodeId) (others : List NodeId) :
    pool.Told
      (others.flatMap fun other =>
        [(other, .membership (.joined node)), (node, .membership (.joined other))])
      (others.foldlM (fun pool other => pool.introduce node other) pool) :=
  told_foldlM (fun state other => (state.told_post other _).trans (Pool.told_post _ node _))
    others pool

end Telling

end Pool

end JobPool
