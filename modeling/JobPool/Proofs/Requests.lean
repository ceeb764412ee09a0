/-
**The ledger through any sequence of calls.**

The ledger counts its requests instead of adding them up, and it takes numbers off this count. It is
used by whoever sends a call: calls may be repeated, name workers that have departed or were never
registered, or requests that were resolved long ago. After any sequence of calls the count is still
the number of requests in the lists, so nothing that is taken off it is missing, and every request
keeps an identity that was given to no other one.

* `Ledger.Call`, `Ledger.run` — calls, and what they return in order;
* `Ledger.refused_unchanged` — a call that cannot succeed leaves the whole ledger as it is;
* `Ledger.Regular`, `Regular.perform` — the invariant, and the calls that keep it;
* `Ledger.requests_accounted` — the ledger after any sequence of calls.
-/

import JobPool.Proofs.Chains
import JobPool.Proofs.Scheduling

namespace JobPool.Ledger

/-! ### Calls -/

/-- A call of the ledger. -/
inductive Call where
  | register (worker : NodeId)
  | issue (worker : NodeId) (submission : Submission)
  | resolve (worker : NodeId) (id : RequestId) (failed : Bool)
  /-- The account of a worker is closed and its jobs go back to a scheduler. -/
  | reclaim (worker : NodeId) (scheduler : Scheduler)

/-- What a call returns. -/
inductive Reply where
  | done
  | issued (id : RequestId)
  | rejected (rejection : Rejection)
  | resolved (submission : Option Submission)
  | reclaimed (count : Nat)

/-- The ledger after a call, with what the call returns. -/
def perform (ledger : Ledger) : Call → Traced Reply Ledger
  | .register worker => ⟨(ledger.register worker).value, [.done]⟩
  | .issue worker submission =>
    match (ledger.issue worker submission).value with
    | .ok (id, after) => ⟨after, [.issued id]⟩
    | .error rejection => ⟨ledger, [.rejected rejection]⟩
  | .resolve worker id failed =>
    let (submission, after) := (ledger.resolve worker id failed).value
    ⟨after, [.resolved submission]⟩
  | .reclaim worker scheduler =>
    let (count, _, after) := (scheduler.reclaim ledger worker).value
    ⟨after, [.reclaimed count]⟩

/-- One call has been made. -/
def Performed (ledger : Ledger) (act : Traced Reply Ledger) : Prop :=
  ∃ call, act = ledger.perform call

/-- The ledger after a sequence of calls, with what they return in order. -/
def run (ledger : Ledger) (calls : List Call) : Traced Reply Ledger := calls.foldlM perform ledger

/-- The identities that were given to requests, among some replies. -/
def issuedIds (replies : List Reply) : List RequestId :=
  replies.filterMap fun
    | .issued id => some id
    | .done | .rejected _ | .resolved _ | .reclaimed _ => none

theorem issuedIds_append (first second : List Reply) :
    issuedIds (first ++ second) = issuedIds first ++ issuedIds second :=
  List.filterMap_append

/-! ### Calls that cannot succeed -/

/-- The call cannot succeed: its worker has an account already, has none that is active, or holds no
such request. -/
def Refuses (ledger : Ledger) : Call → Prop
  | .register worker => worker ∈ ledger.accounts.keys
  | .issue worker _ => ledger.isRegistered worker = false
  | .resolve worker id _ => id ∉ (ledger.requests worker).map Request.id
  | .reclaim worker _ => ledger.isDeparted worker = true

/-- What a call returns that cannot succeed. -/
def refusal : Call → Reply
  | .register _ => .done
  | .issue worker submission => .rejected ⟨submission, .notRegistered worker⟩
  | .resolve .. => .resolved none
  | .reclaim .. => .reclaimed 0

section Refusals

variable (ledger : Ledger)

private theorem register_of_listed {worker : NodeId} (listed : worker ∈ ledger.accounts.keys) :
    (ledger.register worker).value = ledger := by
  rcases (ledger.register_cases worker).2 with same | ⟨absent, _⟩
  · exact same
  · exact ((Roster.get?_eq_none_iff _ _).mp absent listed).elim

private theorem issue_of_unregistered {worker : NodeId} (submission : Submission)
    (unregistered : ledger.isRegistered worker = false) :
    (ledger.issue worker submission).value = .error ⟨submission, .notRegistered worker⟩ := by
  unfold issue
  split
  next requests active =>
    rw [isRegistered, active] at unregistered
    cases unregistered
  next => rfl
  next => rfl

private theorem resolve_of_missing {worker : NodeId} {id : RequestId} (failed : Bool)
    (missing : id ∉ (ledger.requests worker).map Request.id) :
    (ledger.resolve worker id failed).value = (none, ledger) := by
  rcases (ledger.resolve_cases worker id failed).2 with
    ⟨ignored, _⟩ | ⟨before, request, later, active, rfl, _⟩
  · exact ignored
  · rw [requests_of_get? active] at missing
    simp [Account.requests] at missing

/-- Taking the account of a worker away closes it and returns all its requests. -/
theorem perform_reclaim (worker : NodeId) (scheduler : Scheduler) :
    ledger.perform (.reclaim worker scheduler) =
      ⟨ledger.close worker, [.reclaimed (ledger.outstandingOn worker)]⟩ := by
  obtain ⟨count, kept⟩ := scheduler.ledger_reclaim ledger worker
  rw [← count, ← kept]
  rfl

/-- **A call that cannot succeed leaves the ledger as it is**, and a rejected job is handed back. -/
theorem refused_unchanged {call : Call} (refuses : ledger.Refuses call) :
    ledger.perform call = ⟨ledger, [refusal call]⟩ := by
  cases call with
  | register worker => rw [perform, register_of_listed ledger refuses, refusal]
  | issue worker submission =>
    rw [perform, issue_of_unregistered ledger submission refuses, refusal]
  | resolve worker id failed => rw [perform, resolve_of_missing ledger failed refuses, refusal]
  | reclaim worker scheduler =>
    have nothing : ledger.outstandingOn worker = 0 := by
      rw [outstandingOn, requests_of_isDeparted refuses, List.length_nil]
    rw [perform_reclaim, close_of_isDeparted refuses, nothing, refusal]

end Refusals

/-! ### Issued and rejected jobs -/

section Issues

variable {ledger : Ledger} {worker : NodeId}

/-- A registered worker is issued the next identity, as its last request. -/
theorem issue_of_registered (submission : Submission)
    (registered : ledger.isRegistered worker = true)
    (left : ledger.requestIds.next < IdSource.limit) :
    (ledger.perform (.issue worker submission)).effects = [.issued ledger.requestIds.next] ∧
      (ledger.perform (.issue worker submission)).value.requests worker =
        ledger.requests worker ++ [⟨ledger.requestIds.next, submission⟩] := by
  rcases ledger.issue_cases worker submission with
    ⟨fault, refused, _⟩ | ⟨requests, id, source, active, taken, issued, _⟩
  · unfold isRegistered at registered
    unfold issue IdSource.take at refused
    rw [if_pos left] at refused
    split at registered
    next active =>
      rw [active] at refused
      cases refused
    next => cases registered
    next => cases registered
  · obtain ⟨rfl, _⟩ := IdSource.take_next taken
    rw [perform, issued]
    refine ⟨rfl, ?_⟩
    rw [requests_of_insert rfl, if_pos rfl, requests_of_get? active]
    rfl

/-- A rejected job is handed back, and the ledger is as it was. -/
theorem issue_of_rejected {submission : Submission} {rejection : Rejection}
    (rejected : (ledger.perform (.issue worker submission)).effects = [.rejected rejection]) :
    rejection.submission = submission ∧
      (ledger.perform (.issue worker submission)).value = ledger := by
  rcases ledger.issue_cases worker submission with
    ⟨fault, refused, _⟩ | ⟨requests, id, source, _, _, issued, _⟩
  · rw [perform, refused] at rejected ⊢
    cases rejected
    exact ⟨rfl, rfl⟩
  · rw [perform, issued] at rejected
    cases rejected

end Issues

/-! ### The invariant -/

/-- The requests of every worker are listed in the order of their issue. -/
def Ordered (ledger : Ledger) : Prop :=
  ∀ worker, ((ledger.requests worker).map Request.id).Pairwise (· < ·)

section Ordering

variable {ledger after : Ledger} {worker : NodeId}

/-- Entering an account keeps the order if its own requests are in order. -/
private theorem Ordered.enter (ordered : ledger.Ordered) {account : Account}
    (entered : after.accounts = ledger.accounts.insert worker account)
    (own : (account.requests.map Request.id).Pairwise (· < ·)) : after.Ordered := by
  intro other
  rw [requests_of_insert entered]
  split
  · exact own
  · exact ordered other

/-- A request under the next identity comes after all others. -/
private theorem Ordered.issued (ordered : ledger.Ordered) (sound : ledger.Sound)
    {requests : List Request} {submission : Submission}
    (active : ledger.accounts.get? worker = some (.active requests))
    (entered : after.accounts = ledger.accounts.insert worker
      (.active (requests ++ [⟨ledger.requestIds.next, submission⟩]))) : after.Ordered := by
  have before := ordered worker
  rw [requests_of_get? active] at before
  refine ordered.enter entered ?_
  rw [Account.requests, List.map_append, List.pairwise_append]
  refine ⟨before, List.pairwise_singleton _ _, fun id old new last => ?_⟩
  obtain ⟨request, listed, rfl⟩ := List.mem_map.mp old
  rw [List.mem_singleton.mp last]
  refine sound.known request (mem_held_iff.mpr ⟨worker, ?_⟩)
  rw [requests_of_get? active]
  exact listed

/-- Striking a request leaves the others in order. -/
private theorem Ordered.resolved (ordered : ledger.Ordered) {before later : List Request}
    {request : Request}
    (active : ledger.accounts.get? worker = some (.active (before ++ request :: later)))
    (entered : after.accounts = ledger.accounts.insert worker (.active (before ++ later))) :
    after.Ordered := by
  have own := ordered worker
  rw [requests_of_get? active] at own
  refine ordered.enter entered (own.sublist (List.Sublist.map _ ?_))
  exact (List.Sublist.refl before).append (List.sublist_cons_self request later)

end Ordering

/-- **The ledger after some replies**: it is sound and in order, and its requests were numbered from
one without a gap. -/
structure Regular (replies : List Reply) (ledger : Ledger) : Prop where
  sound : ledger.Sound
  ordered : ledger.Ordered
  numbered : issuedIds replies = List.range' 1 (ledger.requestIds.next - 1)
  positive : 0 < ledger.requestIds.next
  bounded : ledger.requestIds.next ≤ IdSource.limit
  given : ∀ request ∈ ledger.held, request.id ∈ issuedIds replies

theorem regular_empty : Regular [] {} :=
  ⟨sound_empty, fun _ => .nil, rfl, Nat.one_pos, by decide, nofun⟩

section Steps

variable {replies : List Reply} {ledger : Ledger}

/-- A call that issues nothing keeps the invariant if the requests stay sound and in order. -/
private theorem Regular.unissued (regular : Regular replies ledger) {after : Ledger}
    (sound : after.Sound) (ordered : after.Ordered) (ids : after.requestIds = ledger.requestIds)
    (fewer : after.held ⊆ ledger.held) {reply : Reply} (silent : issuedIds [reply] = []) :
    Regular (replies ++ [reply]) after := by
  have same : issuedIds (replies ++ [reply]) = issuedIds replies := by
    rw [issuedIds_append, silent, List.append_nil]
  refine ⟨sound, ordered, ?_, ?_, ?_, fun request held => ?_⟩
  · rw [same, ids]
    exact regular.numbered
  · rw [ids]
    exact regular.positive
  · rw [ids]
    exact regular.bounded
  · rw [same]
    exact regular.given request (fewer held)

/-- An issued request takes the next number. -/
private theorem Regular.issues (regular : Regular replies ledger) (worker : NodeId)
    (submission : Submission) :
    let act := ledger.perform (.issue worker submission)
    Regular (replies ++ act.effects) act.value := by
  intro act
  rcases ledger.issue_cases worker submission with
    ⟨fault, refused, _⟩ | ⟨requests, id, source, active, taken, issued, _⟩
  · have kept : act = ⟨ledger, [.rejected ⟨submission, fault⟩]⟩ := by
      show ledger.perform _ = _
      rw [perform, refused]
    rw [kept]
    exact regular.unissued regular.sound regular.ordered rfl (List.Subset.refl _) rfl
  · obtain ⟨rfl, following⟩ := IdSource.take_next taken
    have below : ledger.requestIds.next < IdSource.limit := by
      unfold IdSource.take at taken
      split at taken
      · assumption
      · cases taken
    let after : Ledger :=
      { accounts := ledger.accounts.insert worker
          (.active (requests ++ [⟨ledger.requestIds.next, submission⟩]))
        outstanding := ledger.outstanding + 1
        requestIds := source }
    have entered : act = ⟨after, [.issued ledger.requestIds.next]⟩ := by
      show ledger.perform _ = _
      rw [Ledger.perform, issued]
    rw [entered]
    have numbers : issuedIds (replies ++ [.issued ledger.requestIds.next]) =
        List.range' 1 (ledger.requestIds.next - 1) ++ [ledger.requestIds.next] := by
      rw [issuedIds_append, regular.numbered]
      rfl
    refine ⟨regular.sound.issued active taken, regular.ordered.issued regular.sound active rfl,
      ?_, ?_, ?_, fun request held => ?_⟩
    · obtain ⟨before, counted⟩ := Nat.exists_eq_succ_of_ne_zero (Nat.ne_of_gt regular.positive)
      rw [numbers, following, counted, Nat.add_sub_cancel, List.range'_1_concat,
        Nat.add_comm 1 before]
      rfl
    · rw [following]
      exact Nat.succ_pos _
    · rw [following]
      exact below
    · rw [numbers, ← regular.numbered]
      rcases List.mem_cons.mp ((held_issued active rfl).subset held) with rfl | old
      · exact List.mem_append_right _ (List.mem_singleton_self _)
      · exact List.mem_append_left _ (regular.given request old)

/-- **Every call keeps the invariant.** -/
theorem Regular.perform (regular : Regular replies ledger) (call : Call) :
    Regular (replies ++ (ledger.perform call).effects) (ledger.perform call).value := by
  cases call with
  | register worker =>
    refine regular.unissued (regular.sound.register worker) (fun other => ?_)
      (books_register ledger worker).2.2 (held_register ledger worker).symm.subset rfl
    show (((ledger.register worker).value.requests other).map _).Pairwise _
    rw [(books_register ledger worker).1]
    exact regular.ordered other
  | issue worker submission => exact regular.issues worker submission
  | resolve worker id failed =>
    rcases (ledger.resolve_cases worker id failed).2 with
      ⟨ignored, _⟩ | ⟨before, request, later, active, _, resolved⟩
    · rw [Ledger.perform, ignored]
      exact regular.unissued regular.sound regular.ordered rfl (List.Subset.refl _) rfl
    · rw [Ledger.perform, resolved]
      refine regular.unissued (regular.sound.resolved active)
        (regular.ordered.resolved active rfl) rfl ?_ rfl
      exact fun other held => (held_resolved active rfl).symm.subset (List.mem_cons_of_mem _ held)
  | reclaim worker scheduler =>
    have entered : (ledger.close worker).accounts = ledger.accounts.insert worker .closed := rfl
    rw [perform_reclaim]
    refine regular.unissued (regular.sound.close worker) (regular.ordered.enter entered .nil) rfl
      (fun request held => ?_) rfl
    exact (held_close ledger worker).symm.subset (List.mem_append_right _ held)

end Steps

/-- Every sequence of calls keeps the invariant. -/
theorem regular_run (calls : List Call) :
    Regular (({} : Ledger).run calls).effects (({} : Ledger).run calls).value := by
  have chain : Chain Performed {} (({} : Ledger).run calls) :=
    (@Traced.chain_foldlM _ _ _ Performed (fun _ => True) perform calls
      (fun ledger call _ _ => ⟨.single ⟨call, rfl⟩, trivial⟩) {} trivial).1
  refine chain.keeps ?_ regular_empty
  rintro replies ledger _ regular ⟨call, rfl⟩
  exact regular.perform call

/-! ### The count -/

section Counting

variable {ledger : Ledger}

theorem total_eq_length_held (ledger : Ledger) : ledger.total = ledger.held.length := by
  unfold total held
  induction ledger.accounts.values with
  | nil => rfl
  | cons account rest hypothesis =>
    have size : account.size = account.requests.length := by cases account <;> rfl
    rw [List.foldr_cons, List.flatMap_cons, List.length_append, hypothesis, size]

/-- A request that is struck was counted. -/
theorem Sound.outstanding_resolve (sound : ledger.Sound) {worker : NodeId} {id : RequestId}
    {failed : Bool} {submission : Submission}
    (struck : (ledger.perform (.resolve worker id failed)).effects =
      [.resolved (some submission)]) :
    (ledger.perform (.resolve worker id failed)).value.outstanding + 1 = ledger.outstanding := by
  rcases (ledger.resolve_cases worker id failed).2 with
    ⟨ignored, _⟩ | ⟨before, request, later, active, _, resolved⟩
  · rw [perform, ignored] at struck
    cases struck
  · rw [perform, resolved]
    let after : Ledger :=
      { ledger with accounts := ledger.accounts.insert worker (.active (before ++ later)) }
    have struckOut : ledger.held.Perm (request :: after.held) := held_resolved active rfl
    refine Nat.sub_add_cancel ?_
    rw [sound.counted, struckOut.length_eq]
    exact Nat.succ_pos _

/-- The requests of a worker are counted. -/
theorem Sound.outstandingOn_le (sound : ledger.Sound) (worker : NodeId) :
    ledger.outstandingOn worker ≤ ledger.outstanding := by
  obtain ⟨rest, split⟩ := ledger.exists_held_perm worker
  rw [sound.counted, split.length_eq, List.length_append]
  exact Nat.le_add_right _ _

end Counting

/-! ### The ledger after any calls -/

/-- **After any sequence of calls the ledger accounts for every request that it gave out.** The
count is the number of requests in the lists, so what a call takes off it is there. All requests
have different identities below the next one, each worker's in the order of their issue, and the
identities were given out in increasing order, so none of them twice. A call that cannot succeed
leaves the ledger as it is, and a rejected job is handed back. -/
theorem requests_accounted (calls : List Call) :
    let ledger := (({} : Ledger).run calls).value
    let given := issuedIds (({} : Ledger).run calls).effects
    ledger.outstanding = ledger.total ∧
    (∀ worker id failed submission,
      (ledger.perform (.resolve worker id failed)).effects = [.resolved (some submission)] →
      (ledger.perform (.resolve worker id failed)).value.outstanding + 1 = ledger.outstanding) ∧
    (∀ worker scheduler, ∃ count,
      (ledger.perform (.reclaim worker scheduler)).effects = [.reclaimed count] ∧
      (ledger.perform (.reclaim worker scheduler)).value.outstanding + count =
        ledger.outstanding) ∧
    (ledger.held.map Request.id).Nodup ∧
    (∀ request ∈ ledger.held, request.id < ledger.requestIds.next) ∧
    (∀ worker, ((ledger.requests worker).map Request.id).Pairwise (· < ·)) ∧
    given.Pairwise (· < ·) ∧
    (∀ id ∈ given, id < ledger.requestIds.next) ∧
    (∀ request ∈ ledger.held, request.id ∈ given) ∧
    (∀ worker submission, ledger.isRegistered worker = true →
      ledger.requestIds.next < IdSource.limit →
      (ledger.perform (.issue worker submission)).effects = [.issued ledger.requestIds.next] ∧
      (ledger.perform (.issue worker submission)).value.requests worker =
        ledger.requests worker ++ [⟨ledger.requestIds.next, submission⟩]) ∧
    (∀ call, ledger.Refuses call → ledger.perform call = ⟨ledger, [refusal call]⟩) ∧
    ∀ worker submission rejection,
      (ledger.perform (.issue worker submission)).effects = [.rejected rejection] →
      rejection.submission = submission ∧
        (ledger.perform (.issue worker submission)).value = ledger := by
  intro ledger given
  have regular : Regular (({} : Ledger).run calls).effects ledger := regular_run calls
  have numbered : given = List.range' 1 (ledger.requestIds.next - 1) := regular.numbered
  refine ⟨?_, fun _ _ _ _ => regular.sound.outstanding_resolve, fun worker scheduler => ?_,
    regular.sound.distinct, regular.sound.known, regular.ordered, ?_, fun id member => ?_,
    regular.given, fun _ => issue_of_registered, fun _ => ledger.refused_unchanged,
    fun _ _ _ => issue_of_rejected⟩
  · rw [total_eq_length_held, regular.sound.counted]
  · rw [perform_reclaim]
    exact ⟨_, rfl, Nat.sub_add_cancel (regular.sound.outstandingOn_le worker)⟩
  · rw [numbered]
    exact List.pairwise_lt_range'
  · rw [numbered, List.mem_range'_1] at member
    exact Nat.lt_of_lt_of_eq member.2 (Nat.add_sub_cancel' regular.positive)

/-- Two requests of a worker that departs, a late registration, the completion of a request that is
gone, a second departure, and another worker that goes on. -/
theorem requests_accounted_departure :
    let submission : Submission := ⟨7, .sleep 0, [], 1⟩
    let scheduler := Scheduler.create (Settings.policy {}) 1 1
    let calls : List Call := [.register 2, .issue 2 submission, .issue 2 submission,
      .reclaim 2 scheduler, .register 2, .resolve 2 1 false, .register 3, .issue 3 submission]
    let ledger := (({} : Ledger).run calls).value
    issuedIds (({} : Ledger).run calls).effects = [1, 2, 3] ∧
      ledger.outstanding = 1 ∧ ledger.total = 1 ∧
      ledger.perform (.reclaim 2 scheduler) = ⟨ledger, [.reclaimed 0]⟩ ∧
      ledger.perform (.issue 2 submission) =
        ⟨ledger, [.rejected ⟨submission, .notRegistered 2⟩]⟩ ∧
      (ledger.perform (.resolve 3 3 false)).value.outstanding + 1 = ledger.outstanding := by
  obtain ⟨counted, struck, _, _, _, _, _, _, _, _, refused, _⟩ := requests_accounted
    [.register 2, .issue 2 ⟨7, .sleep 0, [], 1⟩, .issue 2 ⟨7, .sleep 0, [], 1⟩,
      .reclaim 2 (.create (Settings.policy {}) 1 1), .register 2, .resolve 2 1 false, .register 3,
      .issue 3 ⟨7, .sleep 0, [], 1⟩]
  exact ⟨rfl, rfl, counted.symm.trans rfl, refused _ rfl, refused _ rfl,
    struck 3 3 false ⟨7, .sleep 0, [], 1⟩ rfl⟩

end JobPool.Ledger
