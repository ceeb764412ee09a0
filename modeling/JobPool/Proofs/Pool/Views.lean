/-
**What the nodes of a pool know of each other.**

Every change of the members is told to all members, and a new member is first told of those that
were there before it. A node can leave by itself, be killed, or be out with all others once the pool
is terminated, and one can follow the other. Whoever goes through the news of a member still finds
exactly the members of the pool.

* `Consistent` — news in which every node joins once and then departs at most once;
* `Consistent.mem_observed` — observed to be members are those that joined and did not depart;
* `Informed` — the news of all nodes agree with the members; `Informed.turnover` keeps it;
* `views_agree` — the members, their identities and their views after any sequence of actions.
-/

import JobPool.Proofs.Pool.Turnover
import Mathlib.Data.List.Induction

namespace JobPool

/-- The members that a node knows of, after it was told of a change. -/
def MembershipEvent.update (known : List NodeId) : MembershipEvent → List NodeId
  | joined node => known ++ [node]
  | departed node => known.erase node
  | poolTerminated => known

/-- The members that a node knows of after some news, if it knew of none before. -/
def observed (news : List MembershipEvent) : List NodeId := news.foldl MembershipEvent.update []

theorem observed_append (first second : List MembershipEvent) :
    observed (first ++ second) = second.foldl MembershipEvent.update (observed first) :=
  List.foldl_append

theorem foldl_update_joined (nodes known : List NodeId) :
    (nodes.map MembershipEvent.joined).foldl MembershipEvent.update known = known ++ nodes := by
  induction nodes generalizing known with
  | nil => exact (List.append_nil known).symm
  | cons node rest hypothesis =>
    rw [List.map_cons, List.foldl_cons, hypothesis]
    exact List.append_assoc known [node] rest

/-! ### Consistent news -/

/-- **News in which every node joins once and then departs at most once.** -/
inductive Consistent : List MembershipEvent → Prop
  | nil : Consistent []
  | join {news : List MembershipEvent} {node : NodeId} (consistent : Consistent news)
      (fresh : .joined node ∉ news) : Consistent (news ++ [.joined node])
  | part {news : List MembershipEvent} {node : NodeId} (consistent : Consistent news)
      (joined : .joined node ∈ news) (present : .departed node ∉ news) :
      Consistent (news ++ [.departed node])

namespace Consistent

variable {news : List MembershipEvent}

/-- Nothing is told twice. -/
theorem nodup (consistent : Consistent news) : news.Nodup := by
  induction consistent with
  | nil => exact List.nodup_nil
  | join _ fresh hypothesis => exact List.nodup_append.mpr ⟨hypothesis, by simp, by grind⟩
  | part _ _ present hypothesis => exact List.nodup_append.mpr ⟨hypothesis, by simp, by grind⟩

/-- A node departs only after it has joined. -/
theorem announced (consistent : Consistent news) {early late : List MembershipEvent}
    {node : NodeId} (split : news = early ++ .departed node :: late) : .joined node ∈ early := by
  induction consistent generalizing late with
  | nil => cases early <;> cases split
  | @join news other _ _ hypothesis =>
    rcases split_append split with ⟨between, before, _⟩ | ⟨between, last, _⟩
    · exact hypothesis before
    · cases between with
      | nil => cases last
      | cons _ _ => simp at last
  | @part news other _ joined _ hypothesis =>
    rcases split_append split with ⟨between, before, _⟩ | ⟨between, last, rfl⟩
    · exact hypothesis before
    · cases between with
      | nil =>
        cases last
        rw [List.append_nil]
        exact joined
      | cons _ _ => simp at last

theorem joined_of_departed (consistent : Consistent news) {node : NodeId}
    (departed : .departed node ∈ news) : .joined node ∈ news := by
  obtain ⟨early, late, split⟩ := List.append_of_mem departed
  rw [split]
  exact List.mem_append_left _ (consistent.announced split)

/-- **Observed to be members are those that joined and did not depart**, each once. -/
theorem mem_observed (consistent : Consistent news) :
    (observed news).Nodup ∧
      ∀ node, node ∈ observed news ↔ .joined node ∈ news ∧ .departed node ∉ news := by
  induction consistent with
  | nil => exact ⟨List.nodup_nil, fun node => by simp [observed]⟩
  | @join news node consistent fresh hypothesis =>
    obtain ⟨distinct, members⟩ := hypothesis
    have unknown : node ∉ observed news := fun member => fresh ((members node).mp member).1
    have last : observed (news ++ [.joined node]) = observed news ++ [node] := observed_append ..
    rw [last]
    refine ⟨List.nodup_append.mpr ⟨distinct, by simp, by grind⟩, fun other => ?_⟩
    by_cases same : other = node
    · subst same
      have undeparted : .departed other ∉ news := fun gone =>
        fresh (consistent.joined_of_departed gone)
      simp [undeparted]
    · simp [members, same]
  | @part news node _ joined _ hypothesis =>
    obtain ⟨distinct, members⟩ := hypothesis
    have last : observed (news ++ [.departed node]) = (observed news).erase node :=
      observed_append ..
    rw [last]
    refine ⟨distinct.erase node, fun other => ?_⟩
    rw [distinct.mem_erase_iff, members]
    by_cases same : other = node
    · simp [same]
    · simp [same]

/-- Several nodes join after each other. -/
theorem joins (consistent : Consistent news) {nodes : List NodeId} (distinct : nodes.Nodup)
    (fresh : ∀ node ∈ nodes, .joined node ∉ news) :
    Consistent (news ++ nodes.map .joined) := by
  induction nodes generalizing news with
  | nil =>
    rw [List.map_nil, List.append_nil]
    exact consistent
  | cons node rest hypothesis =>
    obtain ⟨unlike, distinct⟩ := List.nodup_cons.mp distinct
    have whole := hypothesis (consistent.join (fresh node List.mem_cons_self)) distinct ?_
    · rw [List.append_assoc] at whole
      exact whole
    · intro other member
      have before := fresh other (List.mem_cons_of_mem node member)
      have unlike : other ≠ node := fun same => unlike (same ▸ member)
      simp [before, unlike]

end Consistent

namespace Pool

/-- **The news of all nodes agree with the members**, and every identity is a new one. -/
structure Informed (history : List PoolEffect) (pool : Pool) : Prop where
  ascending : pool.members.Pairwise (· < ·)
  consistent : ∀ node, Consistent (news node history)
  agreed : ∀ node ∈ pool.members, observed (news node history) = pool.members
  known : ∀ node other, .joined other ∈ news node history → other < pool.nodeIds.next
  unknown : ∀ node, pool.nodeIds.next ≤ node → news node history = []

theorem informed_empty : Informed [] {} :=
  ⟨List.Pairwise.nil, fun _ => .nil, nofun, nofun, fun _ _ => rfl⟩

section Turnovers

variable {history : List PoolEffect} {pool : Pool} {action : Action} {act : PoolAct Pool}

/-- Two members have heard of each other, and not that one of them left. -/
theorem Informed.acquainted (informed : Informed history pool) {node other : NodeId}
    (here : node ∈ pool.members) (there : other ∈ pool.members) :
    .joined other ∈ news node history ∧ .departed other ∉ news node history :=
  ((informed.consistent node).mem_observed.2 other).mp (informed.agreed node here ▸ there)

/-- Nobody is told of a change, and the members are the same or none. -/
private theorem Informed.quiet (informed : Informed history pool)
    (members : act.value.members = pool.members ∨ act.value.members = [])
    (nodeIds : act.value.nodeIds = pool.nodeIds) (quiet : ∀ node, news node act.effects = []) :
    Informed (history ++ act.effects) act.value := by
  have same : ∀ node, news node (history ++ act.effects) = news node history := by
    intro node
    rw [news_append, quiet, List.append_nil]
  refine ⟨?_, ?_, ?_, ?_, ?_⟩
  · rcases members with members | members
    · rw [members]
      exact informed.ascending
    · rw [members]
      exact List.Pairwise.nil
  · intro node
    rw [same]
    exact informed.consistent node
  · rcases members with members | members
    · rw [members]
      intro node member
      rw [same]
      exact informed.agreed node member
    · rw [members]
      nofun
  · intro node other
    rw [same, nodeIds]
    exact informed.known node other
  · intro node
    rw [same, nodeIds]
    exact informed.unknown node

/-- The news of a node that joins and of those that hear of it. -/
private theorem Informed.joins (informed : Informed history pool) (ready : pool.Ready)
    (nodeIds : act.value.nodeIds.next = pool.nodeIds.next + 1)
    (members : act.value.members = pool.members ++ [pool.nodeIds.next])
    (told : ∀ other, news other act.effects =
      if other = pool.nodeIds.next then
        pool.members.map .joined ++ [.joined pool.nodeIds.next]
      else if other ∈ pool.members then [.joined pool.nodeIds.next] else []) :
    Informed (history ++ act.effects) act.value := by
  have below : ∀ node ∈ pool.members, node < pool.nodeIds.next := fun node member =>
    ready.numbered node (ready.known node member)
  -- Whoever hears of the new node hears of the others as well, from then on or already.
  have newcomer : news pool.nodeIds.next (history ++ act.effects) =
      (pool.members ++ [pool.nodeIds.next]).map .joined := by
    rw [news_append, informed.unknown _ (Nat.le_refl _), told, if_pos rfl, List.map_append]
    rfl
  have earlier : ∀ node, node ≠ pool.nodeIds.next → news node (history ++ act.effects) =
      news node history ++ if node ∈ pool.members then [.joined pool.nodeIds.next] else [] := by
    intro node other
    rw [news_append, told, if_neg other]
  have distinct : (pool.members ++ [pool.nodeIds.next]).Nodup := by
    refine List.nodup_append.mpr ⟨ready.distinct, by simp, fun node member last single => ?_⟩
    rw [List.mem_singleton.mp single]
    exact Nat.ne_of_lt (below node member)
  refine ⟨?_, ?_, ?_, ?_, ?_⟩
  · rw [members]
    refine List.pairwise_append.mpr ⟨informed.ascending, by simp, fun node member last single => ?_⟩
    rw [List.mem_singleton.mp single]
    exact below node member
  · intro node
    by_cases new : node = pool.nodeIds.next
    · rw [new, newcomer]
      exact Consistent.nil.joins distinct nofun
    · rw [earlier node new]
      by_cases member : node ∈ pool.members
      · rw [if_pos member]
        exact (informed.consistent node).join fun told =>
          Nat.lt_irrefl _ (informed.known node _ told)
      · rw [if_neg member, List.append_nil]
        exact informed.consistent node
  · rw [members]
    intro node member
    by_cases new : node = pool.nodeIds.next
    · rw [new, newcomer]
      exact foldl_update_joined _ []
    · have old : node ∈ pool.members := (List.mem_append.mp member).resolve_right fun last =>
        new (List.mem_singleton.mp last)
      rw [earlier node new, if_pos old, observed_append, informed.agreed node old]
      rfl
  · rw [nodeIds]
    intro node other joined
    by_cases new : node = pool.nodeIds.next
    · rw [new, newcomer] at joined
      obtain ⟨_, among, ⟨⟩⟩ := List.mem_map.mp joined
      rcases List.mem_append.mp among with old | last
      · exact Nat.lt_succ_of_lt (below other old)
      · rw [List.mem_singleton.mp last]
        exact Nat.lt_succ_self _
    · rw [earlier node new] at joined
      rcases List.mem_append.mp joined with before | now
      · exact Nat.lt_succ_of_lt (informed.known node other before)
      · split at now
        · cases List.mem_singleton.mp now
          exact Nat.lt_succ_self _
        · cases now
  · rw [nodeIds]
    intro node later
    have unlisted : node ∉ pool.members := fun member =>
      Nat.lt_irrefl _ (Nat.lt_trans (below node member) later)
    rw [earlier node (Nat.ne_of_gt later), if_neg unlisted, List.append_nil]
    exact informed.unknown node (Nat.le_of_lt later)

/-- The news of a departure. -/
private theorem Informed.parts (informed : Informed history pool) (ready : pool.Ready)
    {node : NodeId} {own : List MembershipEvent} (member : node ∈ pool.members)
    (owned : own = [] ∨ own = [.departed node])
    (nodeIds : act.value.nodeIds = pool.nodeIds)
    (members : act.value.members = pool.members.erase node)
    (told : ∀ other, news other act.effects =
      if other = node then own else if other ∈ pool.members then [.departed node] else []) :
    Informed (history ++ act.effects) act.value := by
  have heard : ∀ other, news other (history ++ act.effects) = news other history ∨
      other ∈ pool.members ∧
        news other (history ++ act.effects) = news other history ++ [.departed node] := by
    intro other
    rw [news_append, told]
    grind
  refine ⟨?_, ?_, ?_, ?_, ?_⟩
  · rw [members]
    exact informed.ascending.sublist List.erase_sublist
  · intro other
    rcases heard other with same | ⟨among, more⟩
    · rw [same]
      exact informed.consistent other
    · obtain ⟨joined, present⟩ := informed.acquainted among member
      rw [more]
      exact (informed.consistent other).part joined present
  · rw [members]
    intro other remains
    obtain ⟨unlike, among⟩ := ready.distinct.mem_erase_iff.mp remains
    rw [news_append, told, if_neg unlike, if_pos among, observed_append,
      informed.agreed other among]
    rfl
  · rw [nodeIds]
    intro other third joined
    rcases heard other with same | ⟨_, more⟩
    · rw [same] at joined
      exact informed.known other third joined
    · rw [more] at joined
      exact informed.known other third (by simpa using joined)
  · rw [nodeIds]
    intro other later
    have unlisted : other ∉ pool.members := fun among =>
      Nat.not_lt.mpr later (ready.numbered other (ready.known other among))
    rcases heard other with same | ⟨among, _⟩
    · rw [same]
      exact informed.unknown other later
    · exact (unlisted among).elim

/-- **Every action keeps the news and the members in agreement.** -/
theorem Informed.turnover (informed : Informed history pool) (ready : pool.Ready)
    (turnover : pool.Turnover action act) : Informed (history ++ act.effects) act.value := by
  cases turnover with
  | stays alike nodeIds quiet => exact informed.quiet (.inl alike.members) nodeIds quiet
  | joins taken members nodes told =>
    obtain ⟨rfl, following⟩ := IdSource.take_next taken
    exact informed.joins ready following members told
  | parts member cause members nodes nodeIds told =>
    have owned := cause.imp (fun left => left.2.2) fun killed => killed.2
    exact informed.parts ready member owned nodeIds members told
  | ends members nodes nodeIds quiet => exact informed.quiet (.inr members) nodeIds quiet

end Turnovers

/-! ### Sequences of actions -/

/-- **The news and the members agree after any sequence of actions.** -/
theorem informed_performAll (actions : List Action) :
    Informed (performAll {} actions).effects (performAll {} actions).value := by
  induction actions using List.reverseRecOn with
  | nil => exact informed_empty
  | append_singleton actions action hypothesis =>
    have ready := ready_performAll ready_empty actions
    rw [performAll_concat]
    exact hypothesis.turnover ready (changes_perform ready action).1

/-- No identity is taken back. -/
private theorem nodeIds_le (pool : Pool) (ready : pool.Ready) (actions : List Action) :
    pool.nodeIds.next ≤ (pool.performAll actions).value.nodeIds.next := by
  induction actions using List.reverseRecOn with
  | nil => exact Nat.le_refl _
  | append_singleton actions action hypothesis =>
    rw [performAll_concat]
    refine Nat.le_trans hypothesis ?_
    cases (changes_perform (ready_performAll ready actions) action).1 with
    | stays _ nodeIds _ => exact Nat.le_of_eq (congrArg IdSource.next nodeIds.symm)
    | joins taken _ _ _ => exact (IdSource.take_next taken).2 ▸ Nat.le_succ _
    | parts _ _ _ _ nodeIds _ => exact Nat.le_of_eq (congrArg IdSource.next nodeIds.symm)
    | ends _ _ nodeIds _ => exact Nat.le_of_eq (congrArg IdSource.next nodeIds.symm)

/-- A launch fails, or hands out the next identity and moves on by one. -/
theorem launch_cases (pool : Pool) (options : Options) :
    (∃ fault, (pool.launch options).value.1 = .error fault) ∨
      (pool.launch options).value.1 = .ok pool.nodeIds.next ∧
        (pool.perform (.launch options)).value.nodeIds.next = pool.nodeIds.next + 1 := by
  show _ ∨ _ ∧ (pool.launch options).value.2.nodeIds.next = _
  unfold launch
  split
  next => exact .inl ⟨_, rfl⟩
  split
  next => exact .inl ⟨_, rfl⟩
  split
  next => exact .inl ⟨_, rfl⟩
  next node nodeIds taken =>
    obtain ⟨rfl, following⟩ := IdSource.take_next taken
    have introduced := told_introductions (pool.found options pool.nodeIds.next nodeIds)
      pool.nodeIds.next pool.members
    have told := introduced.trans (told_post _ pool.nodeIds.next
      (.membership (.joined pool.nodeIds.next)))
    exact .inr ⟨rfl, (congrArg IdSource.next told.nodeIds).trans following⟩

/-- **The members know of each other.** Whatever is launched, left, killed, terminated and carried
in a pool, and in which order: who goes through the joins and departures that were put into the
mailbox of a member finds the members of the pool; no mailbox gets the same join or departure twice,
or a departure without the join before; the members stand in the order of their identities, and no
two launches hand out the same identity. -/
theorem views_agree (actions : List Action) :
    let act := performAll {} actions
    (∀ node ∈ act.value.members, observed (news node act.effects) = act.value.members) ∧
    (∀ node, (news node act.effects).Nodup ∧ ∀ early other late,
      news node act.effects = early ++ .departed other :: late → .joined other ∈ early) ∧
    act.value.members.Pairwise (· < ·) ∧
    ∀ earlier first between second node other,
      ((performAll {} earlier).value.launch first).value.1 = .ok node →
      ((performAll {} (earlier ++ .launch first :: between)).value.launch second).value.1 =
        .ok other →
      node < other := by
  intro act
  have informed := informed_performAll actions
  refine ⟨informed.agreed, fun node => ⟨(informed.consistent node).nodup,
    fun early other late split => (informed.consistent node).announced split⟩, informed.ascending,
    ?_⟩
  intro earlier first between second node other one two
  have ready := ready_performAll ready_empty earlier
  have given : ∀ {pool : Pool} {options : Options} {node : NodeId},
      (pool.launch options).value.1 = .ok node → node = pool.nodeIds.next ∧
        (pool.perform (.launch options)).value.nodeIds.next = pool.nodeIds.next + 1 := by
    intro pool options node launched
    rcases pool.launch_cases options with ⟨fault, failed⟩ | ⟨fresh, following⟩
    · cases failed.symm.trans launched
    · exact ⟨(Except.ok.inj (fresh.symm.trans launched)).symm, following⟩
  obtain ⟨rfl, following⟩ := given one
  obtain ⟨rfl, _⟩ := given two
  have between := nodeIds_le _ (chain_perform ready (.launch first) fun _ => rfl).2 between
  rw [following] at between
  rw [performAll_append]
  exact between

/-- The options of a node that deals its jobs out in turn. -/
def inTurn : Options := ({ scheduler := { selector := .roundRobin } } : Settings).options

/-- The first of two workers is killed, and a third one is launched. -/
def replacement : List Action :=
  [.launch inTurn, .launch inTurn, .launch inTurn, .kill 2, .launch inTurn]

/-- The master hears of the worker that is killed and of the one that takes its place, under an
identity of its own. -/
theorem views_agree_replacement :
    observed (news 1 (performAll {} replacement).effects) = [1, 3, 4] ∧
      .joined 2 ∈ [.joined 1, .joined 2, MembershipEvent.joined 3] ∧ 3 < 4 := by
  have agree := views_agree replacement
  have members : (performAll {} replacement).value.members = [1, 3, 4] := by decide +kernel
  have heard : news 1 (performAll {} replacement).effects =
      [.joined 1, .joined 2, .joined 3] ++ .departed 2 :: [.joined 4] := by decide +kernel
  refine ⟨?_, (agree.2.1 1).2 _ 2 _ heard, ?_⟩
  · rw [← members]
    exact agree.1 1 (members ▸ List.mem_cons_self)
  · exact agree.2.2.2 [.launch inTurn, .launch inTurn] inTurn [.kill 2] inTurn 3 4 rfl rfl

end Pool

end JobPool
