/-
**No worker is left behind by its master.**

A pool takes new nodes only as long as its master is a member. So every worker is a member together
with the master until the worker leaves by itself, is killed, the master goes, or the pool is
terminated. In the last three cases the worker is told, and it leaves by itself only after its
engine has ended.

* `Reign`, `reign_perform` — what an action means for the master of a pool;
* `Retired`, `Dismissed` — a node has left by itself, or was told to stop;
* `Led` — every worker is with its master, has retired or was dismissed;
* `workers_dismissed` — the workers of a pool whose master is no longer a member.
-/

import JobPool.Proofs.Pool.Deliveries
import JobPool.Proofs.Pool.Succession

namespace JobPool.Pool

/-! ### The master -/

/-- **What an action means for the master of a pool.** The first node becomes the master and stays
it, and the pool takes new nodes as long as it is a member. -/
structure Reign (pool next : Pool) : Prop where
  kept : ∀ master, pool.founder = some master → next.founder = some master
  first : ∀ master, next.founder = some master → pool.founder = some master ∨
    master ∈ next.members
  lasts : next.IsOpen → pool.IsOpen ∧
    ∀ master ∈ pool.members, pool.founder = some master → master ∈ next.members
  admits : next.nodeIds ≠ pool.nodeIds → pool.IsOpen ∧ next.founder.isSome = true

section Actions

variable {pool base next : Pool}

theorem Same.reign (same : pool.Same next) : pool.Reign next := by
  refine ⟨fun master founder => same.founder.trans founder,
    fun master founder => .inl (same.founder.symm.trans founder), fun isOpen => ?_, fun other => ?_⟩
  · rw [same.members]
    exact ⟨same.isOpen isOpen, fun _ member _ => member⟩
  · exact (other same.nodeIds).elim

/-- What follows an action without a further change. -/
private theorem Reign.and (reign : pool.Reign base) (same : base.Same next) : pool.Reign next := by
  refine ⟨fun master founder => same.founder.trans (reign.kept master founder), ?_, ?_, ?_⟩
  · rw [same.founder, same.members]
    exact reign.first
  · rw [same.members]
    exact fun isOpen => reign.lasts (same.isOpen isOpen)
  · rw [same.nodeIds, same.founder]
    exact reign.admits

private theorem reign_found (isOpen : pool.IsOpen) (options : Options) (node : NodeId)
    (nodeIds : IdSource) : pool.Reign (pool.found options node nodeIds) := by
  refine ⟨fun master founder => founder_found founder options node nodeIds,
    fun master founder => ?_, fun _ => ⟨isOpen, fun _ member _ => ?_⟩, fun _ => ⟨isOpen, rfl⟩⟩
  · cases before : pool.founder with
    | some other =>
      exact .inl ((founder_found before options node nodeIds).symm.trans founder)
    | none =>
      have first := founder_found_first before options node nodeIds
      rw [Option.some.inj (founder.symm.trans first)]
      exact .inr (List.mem_append_right _ (List.mem_singleton_self node))
  · exact List.mem_append_left _ member

/-- A node that is taken out ends the reign if it is the master. -/
private theorem reign_without (pool : Pool) (node : NodeId) : pool.Reign (pool.without node) := by
  refine ⟨fun _ => id, fun _ => .inl, fun isOpen => ?_, fun other => (other rfl).elim⟩
  obtain ⟨led, lasts⟩ := Bool.or_eq_false_iff.mp isOpen.led
  refine ⟨⟨led, isOpen.running⟩, fun master member founder => ?_⟩
  have other : master ≠ node := by
    rintro rfl
    rw [founder, beq_self_eq_true] at lasts
    cases lasts
  exact (List.mem_erase_of_ne other).mpr member

private theorem reign_dissolved (pool : Pool) : pool.Reign pool.dissolved :=
  ⟨fun _ => id, fun _ => .inl, fun isOpen => (Bool.false_ne_true isOpen.running.symm).elim,
    fun other => (other rfl).elim⟩

/-- **What every action means for the master of a pool.** -/
theorem reign_perform (pool : Pool) (action : Action) : pool.Reign (pool.perform action).value := by
  cases pool.succession_perform action with
  | stays _ _ same => exact same.reign
  | joins isOpen _ same => exact (reign_found isOpen _ _ _).and same
  | parts _ _ same => exact (pool.reign_without _).and same
  | ends same => exact pool.reign_dissolved.and same

end Actions

/-! ### Every worker -/

/-- The node has left by itself: its engine had ended, its link was closed and had delivered
everything, and took it out. -/
def Retired (actions : List Action) (node : NodeId) : Prop :=
  ∃ earlier later station, actions = earlier ++ .carry node :: later ∧
    let pool := (performAll {} earlier).value
    node ∈ pool.members ∧ pool.stations.get? node = some station ∧
      station.engine.isGone = true ∧ station.closed = true ∧ station.outbound = [] ∧
      node ∉ (pool.perform (.carry node)).value.members

/-- The node was told to stop: that its master has departed, that it counts as dead itself, or that
the pool is terminated. -/
def Dismissed (master node : NodeId) (effects : List PoolEffect) : Prop :=
  .membership (.departed master) ∈ mail node effects ∨
    .membership (.departed node) ∈ mail node effects ∨
    .membership .poolTerminated ∈ mail node effects

/-- **Every worker is a member together with the master, has retired, or was dismissed.** -/
structure Led (actions : List Action) (history : List PoolEffect) (pool : Pool) : Prop where
  crowned : ∀ node, .joined node ∈ news node history → pool.founder.isSome = true
  present : pool.IsOpen → ∀ master, pool.founder = some master → master ∈ pool.members
  followed : ∀ master, pool.founder = some master → ∀ node, node ≠ master →
    .joined node ∈ news node history →
    node ∈ pool.members ∧ master ∈ pool.members ∨ Retired actions node ∨
      Dismissed master node history

theorem led_empty : Led [] [] {} := ⟨nofun, nofun, nofun⟩

theorem Retired.concat {actions : List Action} {node : NodeId} (retired : Retired actions node)
    (action : Action) : Retired (actions ++ [action]) node := by
  obtain ⟨earlier, later, station, rfl, left⟩ := retired
  exact ⟨earlier, later ++ [action], station, by simp, left⟩

/-- A node is dismissed in some effects or in those that follow. -/
theorem dismissed_append {master node : NodeId} {history effects : List PoolEffect} :
    Dismissed master node (history ++ effects) ↔
      Dismissed master node history ∨ Dismissed master node effects := by
  simp only [Dismissed, mail_append, List.mem_append]
  grind

section Turnovers

variable {pool : Pool} {action : Action} {act : PoolAct Pool}

/-- Only a node that joins now hears of it, and the other members stay. -/
private theorem joined_of_news (turnover : pool.Turnover action act) {node : NodeId}
    (joined : .joined node ∈ news node act.effects) :
    act.value.nodeIds ≠ pool.nodeIds ∧ act.value.members = pool.members ++ [node] := by
  cases turnover with
  | stays alike nodeIds quiet =>
    rw [quiet] at joined
    cases joined
  | @joins options _ new taken members nodes told =>
    obtain ⟨_, following⟩ := IdSource.take_next taken
    have moved : act.value.nodeIds ≠ pool.nodeIds := by
      intro same
      rw [same] at following
      exact Nat.succ_ne_self _ following.symm
    rw [told] at joined
    by_cases own : node = new
    · exact ⟨moved, own ▸ members⟩
    · rw [if_neg own] at joined
      split at joined
      · cases List.mem_singleton.mp joined
        exact (own rfl).elim
      · cases joined
  | parts member cause members nodes nodeIds told =>
    rw [told] at joined
    split at joined
    · rcases cause with ⟨_, _, rfl⟩ | ⟨_, rfl⟩
      · cases joined
      · cases List.mem_singleton.mp joined
    · split at joined
      · cases List.mem_singleton.mp joined
      · cases joined
  | ends members nodes nodeIds quiet =>
    rw [quiet] at joined
    cases joined

/-- Every member of a pool that is terminated is told. -/
private theorem mail_terminate (ready : pool.Ready) {node : NodeId} (member : node ∈ pool.members) :
    .membership .poolTerminated ∈ mail node pool.terminate.effects := by
  have told := (told_broadcast { pool with terminated := true } .poolTerminated).trans
    (told_pure _)
  have delivered : mail node pool.terminate.effects = _ := told.delivered node
  rw [delivered, arriving_append, arriving_map ready.distinct, if_pos member]
  exact List.mem_append_left _ (List.mem_singleton_self _)

/-- **A worker that is with its master stays so, retires or is dismissed.** -/
private theorem follows {actions : List Action} {node master : NodeId}
    (worker : node ∈ (performAll {} actions).value.members)
    (leader : master ∈ (performAll {} actions).value.members) (action : Action) :
    let next := (performAll {} actions).value.perform action
    node ∈ next.value.members ∧ master ∈ next.value.members ∨
      Retired (actions ++ [action]) node ∨ Dismissed master node next.effects := by
  intro next
  have ready := ready_performAll ready_empty actions
  have heard : ∀ {change}, change ∈ news node next.effects →
      .membership change ∈ mail node next.effects := fun told => (mem_news.mp told).1
  cases (changes_perform ready action).1 with
  | stays alike nodeIds quiet =>
    rw [alike.members]
    exact .inl ⟨worker, leader⟩
  | joins taken members nodes told =>
    rw [members]
    exact .inl ⟨List.mem_append_left _ worker, List.mem_append_left _ leader⟩
  | @parts _ _ gone own member cause members nodes nodeIds told =>
    by_cases self : node = gone
    · subst self
      have out : node ∉ next.value.members := members ▸ ready.distinct.not_mem_erase
      rcases cause with ⟨rfl, ⟨station, present, closed, empty⟩, _⟩ | ⟨_, rfl⟩
      · have ended := ((wired_performAll actions).fitted node station present).closed closed
        exact .inr (.inl ⟨actions, [], station, rfl, worker, present, ended, closed, empty, out⟩)
      · refine .inr (.inr (.inr (.inl (heard ?_))))
        rw [told, if_pos rfl]
        exact List.mem_singleton_self _
    · by_cases departing : master = gone
      · subst departing
        refine .inr (.inr (.inl (heard ?_)))
        rw [told, if_neg self, if_pos worker]
        exact List.mem_singleton_self _
      · rw [members]
        exact .inl ⟨(List.mem_erase_of_ne self).mpr worker,
          (List.mem_erase_of_ne departing).mpr leader⟩
  | ends => exact .inr (.inr (.inr (.inr (mail_terminate ready worker))))

end Turnovers

/-- **Every worker is with its master, has retired or was dismissed**, after any sequence of
actions. -/
theorem led_performAll (actions : List Action) :
    Led actions (performAll {} actions).effects (performAll {} actions).value := by
  induction actions using List.reverseRecOn with
  | nil => exact led_empty
  | append_singleton actions action led =>
    have turnover := (changes_perform (ready_performAll ready_empty actions) action).1
    have reign := reign_perform (performAll {} actions).value action
    rw [performAll_concat]
    refine ⟨fun node joined => ?_, fun isOpen master founder => ?_,
      fun master founder node other joined => ?_⟩
    · rw [news_append] at joined
      rcases List.mem_append.mp joined with before | now
      · obtain ⟨master, founder⟩ := Option.isSome_iff_exists.mp (led.crowned node before)
        exact Option.isSome_of_eq_some (reign.kept master founder)
      · exact (reign.admits (joined_of_news turnover now).1).2
    · obtain ⟨before, stays⟩ := reign.lasts isOpen
      rcases reign.first master founder with crowned | member
      · exact stays master (led.present before master crowned) crowned
      · exact member
    · rw [news_append] at joined
      rcases List.mem_append.mp joined with before | now
      · -- An older worker knew the same master.
        obtain ⟨first, crowned⟩ := Option.isSome_iff_exists.mp (led.crowned node before)
        cases founder.symm.trans (reign.kept first crowned)
        rcases led.followed master crowned node other before with ⟨worker, leader⟩ | left | told
        · exact (follows worker leader action).imp_right
            (Or.imp_right fun told => dismissed_append.mpr (.inr told))
        · exact .inr (.inl (left.concat action))
        · exact .inr (.inr (dismissed_append.mpr (.inl told)))
      · obtain ⟨moved, members⟩ := joined_of_news turnover now
        have worker : node ∈ ((performAll {} actions).value.perform action).value.members := by
          rw [members]
          exact List.mem_append_right _ (List.mem_singleton_self node)
        refine .inl ⟨worker, ?_⟩
        rcases reign.first master founder with crowned | member
        · rw [members]
          exact List.mem_append_left _ (led.present (reign.admits moved).1 master crowned)
        · exact member

/-! ### Left without a master -/

/-- **The engine of a node that has left by itself has ended for good.** -/
private theorem Retired.isGone {actions : List Action} {node : NodeId}
    (retired : Retired actions node) {engine : Engine}
    (present : (performAll {} actions).value.engine? node = some engine) :
    engine.isGone = true := by
  obtain ⟨earlier, later, station, rfl, _, there, _, closed, empty, _⟩ := retired
  have spent : (performAll {} (earlier ++ .carry node :: later)).value.Spent node := by
    generalize Action.carry node :: later = rest
    induction rest using List.reverseRecOn with
    | nil =>
      rw [List.append_nil]
      exact ⟨station, there, closed, empty⟩
    | append_singleton rest action hypothesis =>
      rw [← List.append_assoc, performAll_concat]
      exact hypothesis.perform (wired_performAll _) (ready_performAll ready_empty _) action
  obtain ⟨last, found, closed, _⟩ := spent
  have ended := ((wired_performAll _).fitted node last found).closed closed
  rw [engine?, found] at present
  cases present
  exact ended

/-- A node that is launched hears that it has joined. -/
private theorem news_launch {pool : Pool} (ready : pool.Ready) {options : Options} {node : NodeId}
    (launched : (pool.launch options).value.1 = .ok node) :
    .joined node ∈ news node (pool.perform (.launch options)).effects := by
  rcases pool.launch_cases options with ⟨fault, failed⟩ | ⟨fresh, following⟩
  · cases failed.symm.trans launched
  · cases fresh.symm.trans launched
    cases (changes_perform ready (.launch options)).1 with
    | stays alike nodeIds quiet =>
      rw [nodeIds] at following
      exact (Nat.succ_ne_self _ following.symm).elim
    | joins taken members nodes told =>
      obtain ⟨rfl, _⟩ := IdSource.take_next taken
      rw [told, if_pos rfl]
      exact List.mem_append_right _ (List.mem_singleton_self _)
    | parts member cause =>
      obtain ⟨⟨⟩, _⟩ | ⟨⟨⟩, _⟩ := cause

/-- **No worker is left behind by its master.** Whatever is launched, left, killed, terminated and
carried in a pool, and in which order: once the master is no longer a member, every other node that
was launched has left by itself, after the end of its engine, or was told that the master has
departed, that it counts as dead itself, or that the pool is terminated. An engine that still runs
was told. -/
theorem workers_dismissed (earlier : List Action) (options : Options) (later : List Action)
    {node master : NodeId}
    (launched : ((performAll {} earlier).value.launch options).value.1 = .ok node)
    (founder : (performAll {} (earlier ++ .launch options :: later)).value.founder = some master)
    (other : node ≠ master)
    (orphaned : master ∉ (performAll {} (earlier ++ .launch options :: later)).value.members) :
    let actions := earlier ++ .launch options :: later
    let act := performAll {} actions
    (Retired actions node ∨ Dismissed master node act.effects) ∧
      ∀ engine, act.value.engine? node = some engine → engine.isGone = false →
        Dismissed master node act.effects := by
  intro actions act
  have joined : .joined node ∈ news node act.effects := by
    have here := news_launch (ready_performAll ready_empty earlier) launched
    have split : act.effects = _ := congrArg Traced.effects (performAll_append {} earlier _)
    rw [split, news_append]
    refine List.mem_append_right _ ?_
    have first : (performAll (performAll {} earlier).value (.launch options :: later)).effects =
      ((performAll {} earlier).value.perform (.launch options)).effects ++ _ := rfl
    rw [first, news_append]
    exact List.mem_append_left _ here
  have accounted : Retired actions node ∨ Dismissed master node act.effects :=
    ((led_performAll actions).followed master founder node other joined).resolve_left
      fun together => orphaned together.2
  refine ⟨accounted, fun engine present alive => accounted.resolve_left fun retired => ?_⟩
  cases alive.symm.trans (retired.isGone present)

/-- One of two workers has left by itself when the master is killed: the other one is told, before
its engine takes the next step. -/
theorem workers_dismissed_killed :
    let later : List Action := [.launch inTurn, .leave 3, .advance 3, .advance 3, .carry 3,
      .carry 3, .kill 1]
    let act := performAll {} ([.launch inTurn] ++ .launch inTurn :: later)
    ((performAll {} [.launch inTurn]).value.launch inTurn).value.1 = .ok 2 ∧
      act.value.founder = some 1 ∧ act.value.members = [2] ∧
      (act.value.engine? 2).map Engine.isGone = some false ∧
      Dismissed 1 2 act.effects := by
  refine ⟨rfl, rfl, rfl, rfl, ?_⟩
  exact (workers_dismissed [.launch inTurn] inTurn
    [.launch inTurn, .leave 3, .advance 3, .advance 3, .carry 3, .carry 3, .kill 1] rfl rfl
    (by decide) (by decide +kernel)).2 _ rfl rfl

end JobPool.Pool
