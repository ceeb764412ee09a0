/-
**Who counts as the master of a pool.**

A pool does not look at its members to name its master. It keeps the first node that was launched,
and a flag that is raised when this node leaves or is killed. A pool that is terminated takes all
nodes out at once and leaves the flag as it is: it goes on naming a master that is no longer a
member.

* `Same` — two states of a pool with the same members under the same master;
* `Succession`, `succession_perform` — what an action does to the members and to the master;
* `launched`, `DissolvedWith` — the nodes that were launched, and those that were members when the
  pool was terminated;
* `Throne`, `throne_performAll` — what the pool keeps of its master, after any sequence of actions;
* `master_named` — when a pool names a master, and which.
-/

import JobPool.Proofs.Pool.Views

namespace JobPool.Pool

/-! ### The master and the members -/

/-- The pool takes new nodes. -/
structure IsOpen (pool : Pool) : Prop where
  led : pool.founderDeparted = false
  running : pool.terminated = false

/-- Two states of a pool with the same members under the same master. -/
structure Same (first second : Pool) : Prop where
  founder : second.founder = first.founder
  departed : second.founderDeparted = first.founderDeparted
  terminated : second.terminated = first.terminated
  members : second.members = first.members
  nodeIds : second.nodeIds = first.nodeIds

theorem Same.refl (pool : Pool) : pool.Same pool := ⟨rfl, rfl, rfl, rfl, rfl⟩

theorem Same.trans {first second third : Pool} (left : first.Same second)
    (right : second.Same third) : first.Same third :=
  ⟨right.founder.trans left.founder, right.departed.trans left.departed,
    right.terminated.trans left.terminated, right.members.trans left.members,
    right.nodeIds.trans left.nodeIds⟩

theorem Same.isOpen {first second : Pool} (same : first.Same second) (isOpen : second.IsOpen) :
    first.IsOpen :=
  ⟨same.departed.symm.trans isOpen.led, same.terminated.symm.trans isOpen.running⟩

/-- The pool without any node. -/
def dissolved (pool : Pool) : Pool := { pool with members := [], terminated := true }

/-- The node that is launched in an action. -/
def launched? (pool : Pool) : Action → Option NodeId
  | .launch options => (pool.launch options).value.1.toOption
  | .abort _ | .leave _ | .kill _ | .terminate | .submit .. | .endSubmissions _ | .openGate
  | .advance _ | .timeOut _ | .carry _ => none

/-- **What an action does to the members of a pool and to its master.** -/
inductive Succession (pool : Pool) : Action → Pool → Prop
  | stays {action : Action} {next : Pool} (unlaunched : pool.launched? action = none)
      (ongoing : action ≠ .terminate) (same : pool.Same next) : Succession pool action next
  | joins {options : Options} {node : NodeId} {nodeIds : IdSource} {next : Pool}
      (isOpen : pool.IsOpen) (launched : pool.launched? (.launch options) = some node)
      (same : (pool.found options node nodeIds).Same next) : Succession pool (.launch options) next
  | parts {action : Action} {node : NodeId} {next : Pool} (member : node ∈ pool.members)
      (cause : action = .carry node ∨ action = .kill node)
      (same : (pool.without node).Same next) : Succession pool action next
  | ends {next : Pool} (same : pool.dissolved.Same next) : Succession pool .terminate next

section Actions

variable (pool : Pool)

/-- The first node that is launched becomes the master. -/
theorem founder_found_first {pool : Pool} (first : pool.founder = none) (options : Options)
    (node : NodeId) (nodeIds : IdSource) :
    (pool.found options node nodeIds).founder = some node := by
  change some (pool.founder.getD node) = some node
  rw [first]
  rfl

theorem same_change (node : NodeId) (action : Engine → Act Engine) :
    pool.Same (pool.change node action).value := by
  unfold change
  split <;> exact ⟨rfl, rfl, rfl, rfl, rfl⟩

theorem same_post (node : NodeId) (event : Event) : pool.Same (pool.post node event).value :=
  pool.same_change node _

theorem same_broadcast (change : MembershipEvent) : pool.Same (pool.broadcast change).value :=
  @Traced.foldlM_preserves _ _ _ pool.Same _ _
    (fun state member _ same => same.trans (state.same_post member _)) _ (.refl pool)

private theorem succession_launch (options : Options) :
    pool.Succession (.launch options) (pool.launch options).value.2 := by
  have given : pool.launched? (.launch options) = (pool.launch options).value.1.toOption := rfl
  revert given
  unfold launch
  split
  next => exact fun given => .stays given nofun (.refl pool)
  next running =>
    split
    next => exact fun given => .stays given nofun (.refl pool)
    next led =>
      split
      next => exact fun given => .stays given nofun (.refl pool)
      next node nodeIds taken =>
        have introduced : (pool.found options node nodeIds).Same _ :=
          @Traced.foldlM_preserves _ _ _ (pool.found options node nodeIds).Same
            (fun state member => state.introduce node member) pool.members
            (fun state member _ same =>
              (same.trans (state.same_post member _)).trans (same_post _ node _)) _ (.refl _)
        exact fun given => .joins ⟨Bool.eq_false_iff.mpr led, Bool.eq_false_iff.mpr running⟩ given
          (introduced.trans (same_post _ node (.membership (.joined node))))

/-- A member that is taken out. -/
private theorem same_remove {node : NodeId} (member : node ∈ pool.members) :
    (pool.without node).Same (pool.remove node).value := by
  rw [remove, if_pos (List.contains_iff_mem.mpr member)]
  exact same_broadcast _ (.departed node)

private theorem succession_kill (node : NodeId) :
    pool.Succession (.kill node) (pool.kill node).value.2 := by
  unfold kill
  split
  next => exact .stays rfl nofun (.refl pool)
  next among =>
    rw [Bool.not_eq_true', Bool.not_eq_false, List.contains_iff_mem] at among
    exact .parts among (.inr rfl) ((pool.same_remove among).trans (same_post _ node _))

private theorem succession_terminate : pool.Succession .terminate pool.terminate.value := by
  have told := same_broadcast { pool with terminated := true } .poolTerminated
  exact .ends ⟨told.founder, told.departed, told.terminated, rfl, told.nodeIds⟩

private theorem succession_carry (node : NodeId) :
    pool.Succession (.carry node) (pool.carry node).value := by
  unfold carry
  split
  next => exact .stays rfl nofun (.refl pool)
  next station _ =>
    have entered : ∀ other : Station, pool.Same (pool.enter node other) :=
      fun _ => ⟨rfl, rfl, rfl, rfl, rfl⟩
    split
    next destination payload rest _ =>
      refine .stays rfl nofun ((entered { station with outbound := rest }).trans ?_)
      unfold deliver
      split
      · exact .refl _
      split
      · exact .refl _
      · exact same_post _ destination (.message ⟨node, payload⟩)
    next =>
      split
      next =>
        unfold depart
        split
        next => exact .stays rfl nofun (entered { station with drained := true })
        next among =>
          rw [Bool.not_eq_true', Bool.not_eq_false, List.contains_iff_mem] at among
          have removed := same_remove (pool.enter node { station with drained := true }) among
          exact .parts among (.inl rfl) ⟨removed.founder, removed.departed, removed.terminated,
            removed.members, removed.nodeIds⟩
      next => exact .stays rfl nofun (.refl pool)

/-- **Every action is a succession.** -/
theorem succession_perform (action : Action) :
    pool.Succession action (pool.perform action).value := by
  cases action with
  | launch options => exact pool.succession_launch options
  | abort node => exact .stays rfl nofun (pool.same_change node Engine.abort)
  | leave node =>
    change pool.Succession (.leave node) (pool.leave node).value.2
    unfold leave
    split
    · exact .stays rfl nofun (.refl pool)
    · exact .stays rfl nofun (pool.same_post node .shutdown)
  | kill node => exact pool.succession_kill node
  | terminate => exact pool.succession_terminate
  | submit node job input =>
    have counted : pool.Same { pool with submissions := pool.submissions + 1 } :=
      ⟨rfl, rfl, rfl, rfl, rfl⟩
    exact .stays rfl nofun (counted.trans (same_post _ node (.submit pool.submissions job input)))
  | endSubmissions node => exact .stays rfl nofun (pool.same_post node .endSubmissions)
  | openGate => exact .stays rfl nofun ⟨rfl, rfl, rfl, rfl, rfl⟩
  | advance node => exact .stays rfl nofun (pool.same_change node _)
  | timeOut node => exact .stays rfl nofun (pool.same_change node _)
  | carry node => exact pool.succession_carry node

end Actions

/-! ### Sequences of actions -/

/-- The nodes that are launched in a sequence of actions, in their order. -/
def launched (pool : Pool) : List Action → List NodeId
  | [] => []
  | action :: rest => (pool.launched? action).toList ++ launched (pool.perform action).value rest

/-- The pool was terminated while the node was a member. -/
def DissolvedWith (actions : List Action) (node : NodeId) : Prop :=
  ∃ earlier later, actions = earlier ++ .terminate :: later ∧
    node ∈ (performAll {} earlier).value.members

theorem launched_append (pool : Pool) (first second : List Action) :
    pool.launched (first ++ second) =
      pool.launched first ++ (pool.performAll first).value.launched second := by
  induction first generalizing pool with
  | nil => rfl
  | cons action rest hypothesis =>
    rw [List.cons_append, launched, launched, hypothesis, List.append_assoc]
    rfl

theorem launched_concat (pool : Pool) (actions : List Action) (action : Action) :
    pool.launched (actions ++ [action]) =
      pool.launched actions ++ ((pool.performAll actions).value.launched? action).toList := by
  rw [launched_append, launched, launched, List.append_nil]

theorem dissolvedWith_concat {actions : List Action} {action : Action} {node : NodeId} :
    DissolvedWith (actions ++ [action]) node ↔
      DissolvedWith actions node ∨
        action = .terminate ∧ node ∈ (performAll {} actions).value.members := by
  constructor
  · rintro ⟨earlier, later, split, member⟩
    rcases List.eq_nil_or_concat later with rfl | ⟨rest, last, rfl⟩
    · obtain ⟨rfl, ended⟩ := List.append_inj' split rfl
      exact .inr ⟨(List.cons.inj ended).1, member⟩
    · rw [List.concat_eq_append, ← List.cons_append, ← List.append_assoc] at split
      obtain ⟨rfl, _⟩ := List.append_inj' split rfl
      exact .inl ⟨earlier, rest, rfl, member⟩
  · rintro (⟨earlier, later, rfl, member⟩ | ⟨rfl, member⟩)
    · exact ⟨earlier, later ++ [action], by simp, member⟩
    · exact ⟨actions, [], rfl, member⟩

/-- Only a terminated pool dissolves. -/
private theorem dissolvedWith_ongoing {actions : List Action} {action : Action} {node : NodeId}
    (ongoing : action ≠ .terminate) :
    DissolvedWith (actions ++ [action]) node ↔ DissolvedWith actions node :=
  dissolvedWith_concat.trans (or_iff_left fun ends => ongoing ends.1)

/-- **What a pool keeps of its master.** The master is the first node that was launched. Its flag is
down exactly as long as it is a member, and for good if it is one when the pool is terminated. -/
structure Throne (actions : List Action) (pool : Pool) : Prop where
  founder : pool.founder = (launched {} actions).head?
  seated : ∀ master, pool.founder = some master →
    (pool.founderDeparted = false ↔ master ∈ pool.members ∨ DissolvedWith actions master)
  closed : ∀ node, DissolvedWith actions node → pool.terminated = true
  empty : pool.terminated = true → pool.members = []

theorem throne_empty : Throne [] {} := by
  refine ⟨rfl, nofun, ?_, nofun⟩
  rintro node ⟨earlier, later, split, _⟩
  exact absurd split (by simp)

section Keeping

variable {actions : List Action} {action : Action} {pool next : Pool}

private theorem Throne.undissolved (throne : Throne actions pool)
    (running : pool.terminated = false) (node : NodeId) : ¬ DissolvedWith actions node :=
  fun ended => Bool.false_ne_true (running.symm.trans (throne.closed node ended))

private theorem Throne.stays (throne : Throne actions pool) (ongoing : action ≠ .terminate)
    (crowned : launched {} (actions ++ [action]) = launched {} actions) (same : pool.Same next) :
    Throne (actions ++ [action]) next := by
  refine ⟨?_, fun master named => ?_, fun node ended => ?_, fun ended => ?_⟩
  · rw [same.founder, crowned, throne.founder]
  · rw [same.departed, same.members, dissolvedWith_ongoing ongoing]
    exact throne.seated master (same.founder.symm.trans named)
  · exact same.terminated.trans (throne.closed node ((dissolvedWith_ongoing ongoing).mp ended))
  · exact same.members.trans (throne.empty (same.terminated.symm.trans ended))

/-- The first node that is launched becomes the master, and nobody joins once the flag is up. -/
private theorem Throne.joins (throne : Throne actions pool) {options : Options} {node : NodeId}
    {nodeIds : IdSource} (isOpen : pool.IsOpen)
    (crowned : launched {} (actions ++ [.launch options]) = launched {} actions ++ [node])
    (same : (pool.found options node nodeIds).Same next) :
    Throne (actions ++ [.launch options]) next := by
  have running : next.terminated = false := same.terminated.trans isOpen.running
  have undissolved := throne.undissolved isOpen.running
  have ongoing : Action.launch options ≠ .terminate := nofun
  refine ⟨?_, fun master named => iff_of_true (same.departed.trans isOpen.led) (.inl ?_),
    fun other ended => (undissolved other ((dissolvedWith_ongoing ongoing).mp ended)).elim,
    fun ended => (Bool.false_ne_true (running.symm.trans ended)).elim⟩
  · rw [same.founder, crowned, List.head?_append, ← throne.founder]
    exact (Option.or_some ..).symm
  · rw [same.members]
    rw [same.founder] at named
    cases before : pool.founder with
    | none =>
      cases named.symm.trans (founder_found_first before options node nodeIds)
      exact List.mem_append_right _ (List.mem_singleton_self _)
    | some first =>
      cases named.symm.trans (founder_found before options node nodeIds)
      have member := ((throne.seated master before).mp isOpen.led).resolve_right
        (undissolved master)
      exact List.mem_append_left _ member

/-- The flag is raised exactly when the master is taken out. -/
private theorem Throne.parts (throne : Throne actions pool) (distinct : pool.members.Nodup)
    {node : NodeId} (member : node ∈ pool.members) (ongoing : action ≠ .terminate)
    (crowned : launched {} (actions ++ [action]) = launched {} actions)
    (same : (pool.without node).Same next) : Throne (actions ++ [action]) next := by
  have running : pool.terminated = false := by
    refine Bool.eq_false_iff.mpr fun ended => ?_
    rw [throne.empty ended] at member
    cases member
  have undissolved := throne.undissolved running
  refine ⟨?_, fun master named => ?_,
    fun other ended => (undissolved other ((dissolvedWith_ongoing ongoing).mp ended)).elim,
    fun ended =>
      (Bool.false_ne_true ((same.terminated.trans running).symm.trans ended)).elim⟩
  · rw [same.founder, crowned]
    exact throne.founder
  · have known : pool.founder = some master := same.founder.symm.trans named
    have before := throne.seated master known
    rw [or_iff_left (undissolved master)] at before
    rw [same.departed, same.members, dissolvedWith_ongoing ongoing,
      or_iff_left (undissolved master), without, known]
    by_cases own : master = node
    · subst own
      simp [distinct.not_mem_erase]
    · simp [own, before, List.mem_erase_of_ne own]

/-- A pool that is terminated keeps its master as it is. -/
private theorem Throne.ends {actions : List Action} {next : Pool}
    (throne : Throne actions (performAll {} actions).value)
    (crowned : launched {} (actions ++ [.terminate]) = launched {} actions)
    (same : (performAll {} actions).value.dissolved.Same next) :
    Throne (actions ++ [.terminate]) next := by
  refine ⟨?_, fun master named => ?_, fun _ _ => same.terminated, fun _ => same.members⟩
  · rw [same.founder, crowned]
    exact throne.founder
  · rw [same.departed, same.members, dissolvedWith_concat]
    have before := throne.seated master (same.founder.symm.trans named)
    exact before.trans ⟨fun held => .inr (held.symm.imp_right fun member => ⟨rfl, member⟩),
      fun held => (held.resolve_left List.not_mem_nil).symm.imp_left And.right⟩

end Keeping

/-- **Every action keeps the throne.** -/
theorem Throne.perform {actions : List Action}
    (throne : Throne actions (performAll {} actions).value) (action : Action) :
    Throne (actions ++ [action]) ((performAll {} actions).value.perform action).value := by
  have crowned := launched_concat {} actions action
  cases succession_perform (performAll {} actions).value action with
  | stays unlaunched ongoing same =>
    rw [unlaunched, Option.toList_none, List.append_nil] at crowned
    exact throne.stays ongoing crowned same
  | joins isOpen given same =>
    rw [given, Option.toList_some] at crowned
    exact throne.joins isOpen crowned same
  | parts member cause same =>
    have distinct := (ready_performAll ready_empty actions).distinct
    rcases cause with rfl | rfl
    all_goals exact throne.parts distinct member nofun (crowned.trans (List.append_nil _)) same
  | ends same => exact throne.ends (crowned.trans (List.append_nil _)) same

theorem throne_performAll (actions : List Action) :
    Throne actions (performAll {} actions).value := by
  induction actions using List.reverseRecOn with
  | nil => exact throne_empty
  | append_singleton actions action hypothesis =>
    rw [performAll_concat]
    exact hypothesis.perform action

/-! ### The master that a pool names -/

/-- **A raised flag stays up.** -/
theorem founderDeparted_performAll (pool : Pool) (departed : pool.founderDeparted = true)
    (actions : List Action) : (pool.performAll actions).value.founderDeparted = true := by
  refine @Traced.foldlM_preserves _ _ _ (fun state : Pool => state.founderDeparted = true) perform
    actions (fun state action _ departed => ?_) pool departed
  cases state.succession_perform action with
  | stays _ _ same => exact same.departed.trans departed
  | joins isOpen _ _ => cases departed.symm.trans isOpen.led
  | parts _ _ same => exact same.departed.trans (Bool.or_eq_true_iff.mpr (.inl departed))
  | ends same => exact same.departed.trans departed

/-- A pool names its first node as long as the flag is down. -/
theorem master?_eq_some {pool : Pool} {node : NodeId} :
    pool.master? = some node ↔ pool.founderDeparted = false ∧ pool.founder = some node := by
  unfold master?
  cases pool.founderDeparted <;> simp

/-- **The master that a pool names** is the first node that was launched, as long as it is a member,
and for good once it was a member when the pool was terminated. So it is a member as long as the
pool is not terminated. After a first launch, a pool that names no master never names one again. -/
theorem master_named (actions : List Action) :
    let pool := (performAll {} actions).value
    (∀ node, pool.master? = some node ↔
      (launched {} actions).head? = some node ∧
        (node ∈ pool.members ∨ DissolvedWith actions node)) ∧
    (.terminate ∉ actions → ∀ node, pool.master? = some node ↔
      (launched {} actions).head? = some node ∧ node ∈ pool.members) ∧
    ∀ earlier later, actions = earlier ++ later → launched {} earlier ≠ [] →
      (performAll {} earlier).value.master? = none → pool.master? = none := by
  intro pool
  have throne := throne_performAll actions
  have named : ∀ node, pool.master? = some node ↔
      (launched {} actions).head? = some node ∧
        (node ∈ pool.members ∨ DissolvedWith actions node) := by
    intro node
    rw [master?_eq_some, and_comm, ← throne.founder]
    exact and_congr_right fun founder => throne.seated node founder
  refine ⟨named, fun ongoing node => ?_, fun earlier later split begun unnamed => ?_⟩
  · refine (named node).trans (and_congr_right fun _ => or_iff_left ?_)
    rintro ⟨before, after, rfl, _⟩
    exact ongoing (List.mem_append_right _ List.mem_cons_self)
  · obtain ⟨first, head⟩ := Option.isSome_iff_exists.mp (List.isSome_head?.mpr begun)
    have founder := (throne_performAll earlier).founder.trans head
    have departed : (performAll {} earlier).value.founderDeparted = true := by
      cases flag : (performAll {} earlier).value.founderDeparted with
      | true => rfl
      | false => cases unnamed.symm.trans (master?_eq_some.mpr ⟨flag, founder⟩)
    have still : pool.founderDeparted = true := by
      have whole := founderDeparted_performAll _ departed later
      rw [show pool = _ from congrArg Traced.value (split ▸ performAll_append {} earlier later)]
      exact whole
    exact if_pos still

/-- The master is killed: its worker does not succeed it, and no other node can be launched. -/
theorem master_named_killed :
    let actions : List Action := [.launch inTurn, .launch inTurn, .kill 1, .launch inTurn]
    let pool := (performAll {} actions).value
    launched {} actions = [1, 2] ∧ pool.members = [2] ∧ pool.master? ≠ some 1 ∧
      pool.master? = none := by
  intro actions pool
  have launches : launched {} actions = [1, 2] := by decide +kernel
  have members : pool.members = [2] := by decide +kernel
  obtain ⟨_, seated, lasts⟩ := master_named actions
  refine ⟨launches, members, fun named => ?_, ?_⟩
  · have member := ((seated (by simp [actions]) 1).mp named).2
    rw [show (performAll {} actions).value.members = [2] from members] at member
    exact absurd member (by decide)
  · exact lasts [.launch inTurn, .launch inTurn, .kill 1] [.launch inTurn] rfl (by decide +kernel)
      (by decide +kernel)

/-- **The master that a pool names need not be a member.** A pool that is terminated names the one
that it had. -/
theorem master_not_member :
    ¬ ∀ (actions : List Action) (node : NodeId),
      (performAll {} actions).value.master? = some node ↔
        (launched {} actions).head? = some node ∧
          node ∈ (performAll {} actions).value.members := by
  intro named
  have member := ((named [.launch inTurn, .terminate] 1).mp rfl).2
  exact absurd member (by decide +kernel)

end JobPool.Pool
