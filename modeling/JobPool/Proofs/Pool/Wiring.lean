/-
**How the nodes of a pool are wired.**

Every node has a link that accepts whatever it is given, the first node is the only master, only the
master asks for jobs to be run, and a link is closed only at the end of a run. Without force a node
leaves the pool only after its run has ended and its link has delivered everything.

* `Fitted` — what holds at one node; `Fitted.move`, `Fitted.receive` and `Fitted.pop` keep it;
* `Wired` — what holds of all nodes and members; `Wired.step` keeps it.
-/

import JobPool.Proofs.Engine.Conservation
import JobPool.Proofs.Pool.Steps

namespace JobPool

/-! ### One node -/

/-- **What holds at one node**, in a pool with the given first node. -/
structure Fitted (founder : Option NodeId) (node : NodeId) (station : Station) : Prop where
  orderly : station.engine.Orderly
  conserved : ∃ history, station.engine.Conserved history
  link : station.engine.link = {}
  isMaster : station.engine.scheduler.isMaster = true ↔ founder = some node
  closed : station.closed = true → station.engine.isGone = true
  unasking : founder ≠ some node → asks station.outbound = []
  asked : ∀ ask ∈ station.engine.executes, founder = some ask.1

namespace Fitted

variable {founder : Option NodeId} {node : NodeId} {station : Station}

theorem create (options : Options) (node master : NodeId) :
    Fitted (some master) node { engine := .create options node master {} } := by
  refine ⟨Engine.orderly_create options node master {},
    ⟨[], Engine.conserved_create options node master {}⟩, rfl, ?_, nofun, fun _ => rfl, nofun⟩
  show Scheduler.isMaster (.create options.policy node master) = true ↔ _
  unfold Scheduler.isMaster Scheduler.create
  by_cases same : node = master
  · simp [same]
  · simp [same, Ne.symm same]

/-- A node stays fitted when its engine makes a move. -/
theorem move (fitted : Fitted founder node station) {act : Act Engine}
    (move : Engine.Move station.engine act) : Fitted founder node (station.absorb act) := by
  obtain ⟨orderly, settling⟩ := fitted.orderly.move move
  have traffic := move.traffic fitted.orderly
  have frame := move.frame fitted.orderly
  obtain ⟨history, conserved⟩ := fitted.conserved
  refine ⟨orderly, ⟨_, conserved.settling move.alive orderly settling⟩,
    frame.link.trans fitted.link, ?_, ?_, ?_, ?_⟩
  · show act.value.scheduler.isMaster = true ↔ _
    rw [frame.isMaster]
    exact fitted.isMaster
  · intro closed
    rcases Bool.or_eq_true_iff.mp closed with earlier | now
    · cases move.alive.symm.trans (fitted.closed earlier)
    · exact frame.closes now
  · intro other
    have worker : station.engine.scheduler.isMaster = false :=
      Bool.eq_false_iff.mpr fun master => other (fitted.isMaster.mp master)
    show asks (station.outbound ++ Effect.accepted act.effects) = []
    rw [asks_append, fitted.unasking other, traffic.unasking worker]
    rfl
  · intro ask member
    exact fitted.asked ask (traffic.executes_subset member)

/-- The mailbox is all that an event changes. -/
theorem receive (fitted : Fitted founder node station) {event : Event}
    (asked : ∀ source payload, Engine.letter? event = some (source, payload) →
      ∀ ask ∈ asks [(source, payload)], founder = some ask.1) :
    Fitted founder node (station.receive event) := by
  unfold Station.receive
  split
  · exact fitted
  · obtain ⟨orderly, ⟨history, conserved⟩, link, isMaster, closed, unasking, known⟩ := fitted
    refine ⟨orderly.same rfl rfl rfl rfl orderly.settled orderly.ledger,
      ⟨history, conserved.distinct, conserved.known, conserved.awaited, conserved.tracked,
        conserved.completed⟩, link, isMaster, closed, unasking, fun ask member => ?_⟩
    rcases List.mem_append.mp ((station.engine.executes_arrive event).subset member) with new | old
    · cases brought : Engine.letter? event with
      | none =>
        rw [brought] at new
        cases new
      | some letter =>
        rw [brought] at new
        exact asked letter.1 letter.2 brought ask new
    · exact known ask old

/-- A link that has delivered or lost its oldest message asks for nothing more. -/
theorem pop (fitted : Fitted founder node station) {letter : Letter} {rest : List Letter}
    (oldest : station.outbound = letter :: rest) :
    Fitted founder node { station with outbound := rest } := by
  refine ⟨fitted.orderly, fitted.conserved, fitted.link, fitted.isMaster, fitted.closed, ?_,
    fitted.asked⟩
  intro other
  have none := fitted.unasking other
  rw [oldest] at none
  exact (List.append_eq_nil_iff.mp ((asks_append [letter] rest).symm.trans none)).2

/-- A request that has waited on a link came from the master. -/
theorem asking (fitted : Fitted founder node station) {destination : NodeId} {payload : Payload}
    {rest : List Letter} (oldest : station.outbound = (destination, payload) :: rest) :
    ∀ ask ∈ asks [(node, payload)], founder = some ask.1 := by
  intro ask member
  cases payload with
  | execute request job input =>
    rw [List.mem_singleton.mp member]
    refine Decidable.byContradiction fun other => ?_
    have none := fitted.unasking other
    rw [oldest] at none
    cases none
  | completed _ _ _ _ | register => cases member

end Fitted

namespace Pool

/-! ### The whole pool -/

/-- **What holds of all nodes and members.** -/
structure Wired (violent : Bool) (pool : Pool) : Prop where
  numbered : ∀ node station, pool.stations.get? node = some station → node < pool.nodeIds.next
  founded : ∀ master, pool.founder = some master → (pool.stations.get? master).isSome = true
  unfounded : pool.founder = none → ∀ node, pool.stations.get? node = none
  fitted : ∀ node station, pool.stations.get? node = some station →
    Fitted pool.founder node station
  calm : violent = false → ∀ node station, pool.stations.get? node = some station →
    node ∉ pool.members → station.engine.isGone = true ∧ station.outbound = []

theorem wired_empty (violent : Bool) : Wired violent {} := by
  have absent : ∀ node station, ({} : Pool).stations.get? node ≠ some station := by
    intro node station present
    rw [get?_empty] at present
    cases present
  exact ⟨fun node station present => (absent node station present).elim, nofun,
    fun _ node => get?_empty node, fun node station present => (absent node station present).elim,
    fun _ node station present => (absent node station present).elim⟩

variable {violent : Bool} {pool : Pool}

/-- Another station at a node keeps the pool wired if it fits there. -/
private theorem Wired.enter (wired : pool.Wired violent) {node : NodeId} {old new : Station}
    (present : pool.stations.get? node = some old)
    (fitted : Fitted pool.founder node old → Fitted pool.founder node new)
    (calm : violent = false → (node ∉ pool.members → old.engine.isGone = true ∧ old.outbound = []) →
      node ∉ pool.members → new.engine.isGone = true ∧ new.outbound = []) :
    (pool.enter node new).Wired violent := by
  refine ⟨?_, ?_, ?_, ?_, ?_⟩
  · intro other station found
    rcases get?_enter_cases found with ⟨rfl, _⟩ | elsewhere
    · exact wired.numbered other old present
    · exact wired.numbered other station elsewhere
  · intro master founder
    rw [get?_enter]
    by_cases here : master = node
    · rw [if_pos here]
      rfl
    · rw [if_neg here]
      exact wired.founded master founder
  · intro founder other
    have absent := wired.unfounded founder node
    rw [present] at absent
    cases absent
  · intro other station found
    rcases get?_enter_cases found with ⟨rfl, rfl⟩ | elsewhere
    · exact fitted (wired.fitted other old present)
    · exact wired.fitted other station elsewhere
  · intro quiet other station found out
    rcases get?_enter_cases found with ⟨rfl, rfl⟩ | elsewhere
    · exact calm quiet (wired.calm quiet other old present) out
    · exact wired.calm quiet other station elsewhere out

private theorem Wired.post (wired : pool.Wired violent) (node : NodeId) {event : Event}
    (asked : ∀ source payload, Engine.letter? event = some (source, payload) →
      ∀ ask ∈ asks [(source, payload)], pool.founder = some ask.1) :
    (pool.post node event).value.Wired violent := by
  rcases pool.post_cases node event with ⟨_, same⟩ | ⟨station, present, same⟩
  · rw [same]
    exact wired
  · rw [same]
    refine wired.enter present (fun fitted => fitted.receive asked) fun _ calm out => ?_
    rw [Station.isGone_receive, Station.outbound_receive]
    exact calm out

private theorem Wired.pop (wired : pool.Wired violent) {source : NodeId} {station : Station}
    {letter : Letter} {rest : List Letter} (present : pool.stations.get? source = some station)
    (oldest : station.outbound = letter :: rest) :
    (pool.pop source station rest).Wired violent := by
  refine wired.enter present (fun fitted => fitted.pop oldest) fun _ calm out => ?_
  cases oldest.symm.trans (calm out).2

/-- Other members keep the pool wired if those that are out have come to rest. -/
private theorem Wired.withMembers (wired : pool.Wired violent) (members : List NodeId) (flag : Bool)
    (calm : violent = false → ∀ node station, pool.stations.get? node = some station →
      node ∉ members → node ∉ pool.members ∨ station.engine.isGone = true ∧ station.outbound = []) :
    Wired violent { pool with members := members, founderDeparted := flag } := by
  refine ⟨wired.numbered, wired.founded, wired.unfounded, wired.fitted,
    fun quiet node station present out => ?_⟩
  rcases calm quiet node station present out with before | rest
  · exact wired.calm quiet node station present before
  · exact rest

private theorem Wired.found (wired : pool.Wired violent) (options : Options) {node : NodeId}
    {nodeIds : IdSource} (taken : pool.nodeIds.take = some (node, nodeIds)) :
    (pool.found options node nodeIds).Wired violent := by
  obtain ⟨rfl, following⟩ := IdSource.take_next taken
  have first : ∀ master, (pool.found options pool.nodeIds.next nodeIds).founder = some master →
      master = pool.nodeIds.next ∨ pool.founder = some master := by
    intro master founder
    replace founder : some (pool.founder.getD pool.nodeIds.next) = some master := founder
    cases before : pool.founder with
    | none =>
      rw [before] at founder
      exact .inl (Option.some.inj founder).symm
    | some other =>
      rw [before] at founder
      exact .inr founder
  refine ⟨?_, ?_, nofun, ?_, ?_⟩
  · intro other station found
    show other < nodeIds.next
    rw [following]
    rcases get?_enter_cases found with ⟨rfl, _⟩ | elsewhere
    · exact Nat.lt_succ_self _
    · exact Nat.lt_succ_of_lt (wired.numbered other station elsewhere)
  · intro master founder
    rw [get?_found]
    by_cases here : master = pool.nodeIds.next
    · rw [if_pos here]
      rfl
    · rw [if_neg here]
      exact wired.founded master ((first master founder).resolve_left here)
  · intro other station found
    rcases get?_enter_cases found with ⟨rfl, rfl⟩ | elsewhere
    · exact .create options _ _
    · have fitted := wired.fitted other station elsewhere
      obtain ⟨master, before⟩ : ∃ master, pool.founder = some master := by
        refine Option.ne_none_iff_exists'.mp fun unfounded => ?_
        cases (wired.unfounded unfounded other).symm.trans elsewhere
      rw [founder_found before]
      rw [before] at fitted
      exact fitted
  · intro quiet other station found out
    have before : other ∉ pool.members := fun member => out (List.mem_append_left _ member)
    rcases get?_enter_cases found with ⟨rfl, _⟩ | elsewhere
    · exact (out (List.mem_append_right _ (List.mem_singleton_self _))).elim
    · exact wired.calm quiet other station elsewhere before

/-- **Every step keeps the pool wired.** -/
theorem Wired.step (wired : pool.Wired violent) {act : PoolAct Pool}
    (step : Step violent pool act) : act.value.Wired violent := by
  cases step with
  | move present move =>
    refine wired.enter present (fun fitted => fitted.move move) fun _ calm out => ?_
    cases move.alive.symm.trans (calm out).1
  | notify notice =>
    refine wired.post _ fun source payload brought => ?_
    cases notice.plain.symm.trans brought
  | @deliver source destination station payload rest present oldest sender receiver =>
    refine (wired.pop present oldest).post _ fun other body brought ask member => ?_
    cases brought
    exact (wired.fitted source station present).asking oldest ask member
  | lose present oldest out => exact wired.pop present oldest
  | @retire node station flag present empty closed =>
    have fitted := wired.fitted node station present
    have still : (pool.enter node { station with drained := true }).Wired violent :=
      wired.enter present (fun fitted => ⟨fitted.orderly, fitted.conserved, fitted.link,
        fitted.isMaster, fitted.closed, fitted.unasking, fitted.asked⟩) fun _ calm => calm
    refine still.withMembers _ flag fun _ other found there out => ?_
    rw [get?_enter] at there
    by_cases here : other = node
    · rw [if_pos here] at there
      cases there
      exact .inr ⟨fitted.closed closed, empty⟩
    · exact .inl fun member => out ((List.mem_erase_of_ne here).mpr member)
  | expel allowed fewer =>
    refine wired.withMembers _ _ fun quiet => ?_
    cases allowed.symm.trans quiet
  | launch taken => exact wired.found _ taken
  | adjust => exact ⟨wired.numbered, wired.founded, wired.unfounded, wired.fitted, wired.calm⟩

end Pool

end JobPool
