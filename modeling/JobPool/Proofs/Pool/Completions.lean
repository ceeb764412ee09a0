/-
**No completion that the master handles is stale.**

As long as the account of a worker is open, every request that is on its way to the worker or back
is outstanding on it, as often as it is on its way. The account is closed only once the worker is
out and every message has been handled, and a worker that is out delivers nothing more. So whatever
is launched, killed or leaves in whatever order, the master finds every completion that it handles
among the outstanding requests of its sender.

* `Accounted` — the invariant; `Accounted.shift` keeps it;
* `completions_outstanding` — every completion that the master handles is of an outstanding request.
-/

import JobPool.Proofs.Pool.Shifts

namespace JobPool.Pool

/-! ### The invariant -/

/-- **Every request on its way is accounted for**, and closed accounts stay quiet. -/
structure Accounted (master : NodeId) (pool : Pool) (engine : Engine) : Prop where
  bounded : ∀ worker request, engine.ledger.isDeparted worker = false →
    pool.upstream master worker request + pool.downstream master worker request ≤
      ((engine.ledger.requests worker).map Request.id).count request
  quiet : ∀ worker, engine.ledger.isDeparted worker = true →
    pool.Departed worker ∧ ∀ request, (worker, request) ∉ engine.completions
  announced : ∀ worker ∈ engine.departures, pool.Departed worker

/-- How often an identity is among some requests. -/
private theorem count_ids_cons (struck : Request) (before later : List Request)
    (request : RequestId) :
    ((before ++ struck :: later).map Request.id).count request =
      ((before ++ later).map Request.id).count request + if struck.id = request then 1 else 0 := by
  have moved := ((List.perm_middle : (before ++ struck :: later).Perm _).map Request.id).count_eq
    request
  rw [moved, List.map_cons, List.count_cons]
  simp only [beq_iff_eq]

section Keeping

variable {violent : Bool} {master : NodeId} {pool next : Pool} {engine after : Engine}
  {done : List (NodeId × Deal)}

/-- Nothing is on its way when the master starts. -/
theorem accounted_create (options : Options)
    (up : ∀ worker request, pool.upstream master worker request = 0)
    (down : ∀ worker request, pool.downstream master worker request = 0) :
    Accounted master pool (.create options master master {}) := by
  refine ⟨fun worker request _ => ?_, fun worker closed => (by cases closed), nofun⟩
  rw [up, down]
  exact Nat.zero_le _

/-- **A completion that waits at the master is of an outstanding request.** -/
theorem Accounted.outstanding {home : Station} (accounted : Accounted master pool home.engine)
    (there : pool.stations.get? master = some home) {worker : NodeId} {request : RequestId}
    (waiting : (worker, request) ∈ home.engine.completions) :
    request ∈ (home.engine.ledger.requests worker).map Request.id := by
  have opened : home.engine.ledger.isDeparted worker = false :=
    Bool.eq_false_iff.mpr fun closed => (accounted.quiet worker closed).2 request waiting
  have bounded := accounted.bounded worker request opened
  have listed : 0 < home.engine.completions.count (worker, request) :=
    List.count_pos_iff.mpr waiting
  have among : (pool.view master Station.returned).count (worker, request) =
      home.engine.completions.count (worker, request) := by
    rw [view_of_get? there]
    rfl
  unfold downstream at bounded
  exact List.count_pos_iff.mp (by omega)

/-- Closed accounts stay quiet as membership and news move on. -/
private theorem Accounted.still (accounted : Accounted master pool engine)
    (course : Course pool next engine after)
    (bounded : ∀ worker request, after.ledger.isDeparted worker = false →
      next.upstream master worker request + next.downstream master worker request ≤
        ((after.ledger.requests worker).map Request.id).count request)
    (closed : ∀ worker, after.ledger.isDeparted worker = true →
      engine.ledger.isDeparted worker = true ∨
        worker ∈ engine.departures ∧ engine.completions = []) :
    Accounted master next after := by
  refine ⟨bounded, ?_, ?_⟩
  · intro worker shut
    rcases closed worker shut with before | ⟨heard, unread⟩
    · obtain ⟨out, unsent⟩ := accounted.quiet worker before
      refine ⟨course.departed worker out, fun request waiting => ?_⟩
      rcases course.completions worker request waiting with earlier | member
      · exact unsent request earlier
      · exact out.1 member
    · have out := accounted.announced worker heard
      refine ⟨course.departed worker out, fun request waiting => ?_⟩
      rcases course.completions worker request waiting with earlier | member
      · rw [unread] at earlier
        cases earlier
      · exact out.1 member
  · intro worker heard
    rcases course.departures worker heard with earlier | out
    · exact course.departed worker (accounted.announced worker earlier)
    · exact course.departed worker out

/-- **Every shift keeps the requests accounted for.** -/
theorem Accounted.shift {home : Station} (accounted : Accounted master pool home.engine)
    (there : pool.stations.get? master = some home) (course : Course pool next home.engine after)
    (shift : Shift violent master pool next home.engine after done) :
    Accounted master next after := by
  cases shift with
  | waits upstream downstream requests closed ids jobs queue silent =>
    refine accounted.still course ?_ ?_
    · intro worker request opened
      rw [closed] at opened
      have bounded := accounted.bounded worker request opened
      have fewer := upstream worker request
      have less := (downstream worker request).1
      rw [requests]
      omega
    · intro worker shut
      exact .inl (closed ▸ shut)
  | issues worker submission upstream downstream requests closed registered ids jobs queue issued =>
    refine accounted.still course ?_ ?_
    · intro other request opened
      rw [closed] at opened
      have bounded := accounted.bounded other request opened
      have more := upstream other request
      have same := downstream other request
      rw [requests other]
      by_cases here : other = worker
      · have listed := count_ids_cons ⟨home.engine.ledger.requestIds.next, submission⟩
          (home.engine.ledger.requests worker) [] request
        rw [List.append_nil] at listed
        dsimp only at listed
        subst here
        simp only [if_pos, true_and] at more ⊢
        omega
      · rw [if_neg fun issued => here issued.1.symm] at more
        rw [if_neg here]
        omega
    · intro worker shut
      exact .inl (closed ▸ shut)
  | resolves worker struck before later upstream downstream listed requests closed ids jobs queue
      resolved =>
    refine accounted.still course ?_ ?_
    · intro other request opened
      rw [closed] at opened
      have bounded := accounted.bounded other request opened
      have less := downstream other request
      have same := upstream other request
      rw [requests other]
      by_cases here : other = worker
      · have struck := count_ids_cons struck before later request
        subst here
        rw [listed] at bounded
        simp only [if_pos, true_and] at less ⊢
        omega
      · rw [if_neg fun struck => here struck.1.symm] at less
        rw [if_neg here]
        omega
    · intro worker shut
      exact .inl (closed ▸ shut)
  | stale worker request waiting missing =>
    exact (missing (accounted.outstanding there waiting)).elim
  | closes worker alive heard unread upstream downstream requests closed ids jobs queue silent =>
    refine accounted.still course ?_ ?_
    · intro other request opened
      have differs : other ≠ worker := fun here => by
        rw [closed, if_pos here] at opened
        cases opened
      rw [closed, if_neg differs] at opened
      rw [requests, if_neg differs, upstream, downstream]
      exact accounted.bounded other request opened
    · intro other shut
      by_cases here : other = worker
      · exact .inr ⟨here ▸ heard, unread⟩
      · rw [closed, if_neg here] at shut
        exact .inl shut
  | runs node request alive upstream downstream requests closed ids jobs queue ran =>
    refine accounted.still course ?_ ?_
    · intro other id opened
      rw [closed] at opened
      have bounded := accounted.bounded other id opened
      have less := upstream other id
      have more := downstream other id
      rw [requests]
      omega
    · intro worker shut
      exact .inl (closed ▸ shut)

end Keeping

/-! ### The history -/

/-- The completions that a node handled, each with its sender, in order. -/
def completions (node : NodeId) (effects : List PoolEffect) : List (NodeId × RequestId) :=
  effects.filterMap fun
    | .engine other (.handled ⟨worker, .completed request ..⟩) =>
      if other = node then some (worker, request) else none
    | _ => none

/-- What a node found out about completions: whether their requests were outstanding. -/
def lookups (node : NodeId) (effects : List PoolEffect) : List ((NodeId × RequestId) × Bool) :=
  effects.filterMap fun
    | .engine other (.resolved worker request outstanding) =>
      if other = node then some ((worker, request), outstanding) else none
    | _ => none

/-- A completion that the node handled. -/
private def completed? (node : NodeId) : NodeId × Deal → Option (NodeId × RequestId)
  | (other, .handled worker request) => if other = node then some (worker, request) else none
  | _ => none

/-- What the node found out about a completion. -/
private def lookup? (node : NodeId) : NodeId × Deal → Option ((NodeId × RequestId) × Bool)
  | (other, .resolved worker request outstanding) =>
    if other = node then some ((worker, request), outstanding) else none
  | _ => none

private theorem completions_eq (node : NodeId) (effects : List PoolEffect) :
    completions node effects = (deals effects).filterMap (completed? node) := by
  refine filterMap_deals (fun effect => ?_) effects
  rcases effect with record | ⟨other, effect⟩ | ⟨other, event⟩
  · rfl
  · cases effect with
    | handled message =>
      obtain ⟨worker, payload⟩ := message
      cases payload with
      | completed request result failed seconds =>
        by_cases own : other = node <;> simp [own, deals, Effect.deals, completed?]
      | execute _ _ _ | register => rfl
    | _ => rfl
  · rfl

private theorem lookups_eq (node : NodeId) (effects : List PoolEffect) :
    lookups node effects = (deals effects).filterMap (lookup? node) := by
  refine filterMap_deals (fun effect => ?_) effects
  rcases effect with record | ⟨other, effect⟩ | ⟨other, event⟩
  · rfl
  · cases effect with
    | resolved worker request outstanding =>
      by_cases own : other = node <;> simp [own, deals, Effect.deals, lookup?]
    | handled message =>
      obtain ⟨worker, payload⟩ := message
      cases payload <;> rfl
    | _ => rfl
  · rfl

/-- **What the master handles in a shift, it finds outstanding.** -/
private theorem Accounted.found {violent : Bool} {master : NodeId} {pool next : Pool}
    {home : Station} {after : Engine} {done : List (NodeId × Deal)}
    (accounted : Accounted master pool home.engine)
    (there : pool.stations.get? master = some home)
    (shift : Shift violent master pool next home.engine after done) :
    done.filterMap (lookup? master) =
      (done.filterMap (completed? master)).map fun completion => (completion, true) := by
  cases shift with
  | waits upstream downstream requests closed ids jobs queue ignored =>
    have unseen : done.filterMap (lookup? master) = [] ∧
        done.filterMap (completed? master) = [] := by
      refine ⟨List.filterMap_eq_nil_iff.mpr ?_, List.filterMap_eq_nil_iff.mpr ?_⟩
      · intro deal member
        obtain ⟨node, worker, request, other, rfl⟩ := ignored deal member
        rfl
      · intro deal member
        obtain ⟨node, worker, request, other, rfl⟩ := ignored deal member
        exact if_neg other
    rw [unseen.1, unseen.2]
    rfl
  | issues worker submission upstream downstream requests closed registered ids jobs queue issued =>
    rw [issued]
    rfl
  | resolves worker struck before later upstream downstream listed requests closed ids jobs queue
      resolved =>
    have handled : completed? master (master, .handled worker struck.id) =
      some (worker, struck.id) := if_pos rfl
    have looked : lookup? master (master, .resolved worker struck.id true) =
      some ((worker, struck.id), true) := if_pos rfl
    rw [resolved, List.filterMap_cons_none rfl, List.filterMap_cons_some looked,
      List.filterMap_cons_some handled, List.filterMap_cons_none rfl]
    rfl
  | stale worker request waiting missing =>
    exact (missing (accounted.outstanding there waiting)).elim
  | closes worker alive heard unread upstream downstream requests closed ids jobs queue silent =>
    rw [silent]
    rfl
  | runs node request alive upstream downstream requests closed ids jobs queue ran =>
    rw [ran]
    rfl

/-- **No stale completion.** Whatever is launched, submitted, killed, terminated or leaves, and in
whatever order engines and links go on: every completion that the master handles is held against the
requests of its sender and found outstanding. -/
theorem completions_outstanding (actions : List Action) {master : NodeId}
    (founder : (performAll {} actions).value.founder = some master) :
    lookups master (performAll {} actions).effects =
      (completions master (performAll {} actions).effects).map fun completion =>
        (completion, true) := by
  have kept := @performAll_shifts true
    (fun master done pool engine => Accounted master pool engine ∧
      done.filterMap (lookup? master) =
        (done.filterMap (completed? master)).map fun completion => (completion, true))
    (fun up down => ⟨accounted_create _ up down, rfl⟩)
    (fun wired _ there ⟨accounted, earlier⟩ course shift => by
      refine ⟨accounted.shift there course shift, ?_⟩
      rw [List.filterMap_append, List.filterMap_append, List.map_append, earlier,
        accounted.found there shift])
    actions (fun _ _ _ => rfl)
  rcases kept with ⟨unfounded, _⟩ | ⟨other, station, named, _, _, found⟩
  · cases unfounded.symm.trans founder
  · cases named.symm.trans founder
    rw [lookups_eq, completions_eq, found]

/-- A worker registers, is asked to run a job, runs it and reports. -/
def errand : List Action :=
  let options := ({ scheduler := { selector := .roundRobin } } : Settings).options
  [.launch options, .launch options, .submit 1 (.sleep 0) [], .advance 2, .carry 2, .advance 1,
    .advance 1, .carry 1, .advance 2, .carry 2, .advance 1]

/-- The completion of the errand is found outstanding. -/
theorem completions_outstanding_errand :
    (performAll {} errand).value.founder = some 1 ∧
      completions 1 (performAll {} errand).effects = [(2, 1)] ∧
      lookups 1 (performAll {} errand).effects = [((2, 1), true)] := by
  have founder : (performAll {} errand).value.founder = some 1 := by rfl
  have handled : completions 1 (performAll {} errand).effects = [(2, 1)] := by decide +kernel
  have found := completions_outstanding errand founder
  rw [handled] at found
  exact ⟨founder, handled, found⟩

end JobPool.Pool
