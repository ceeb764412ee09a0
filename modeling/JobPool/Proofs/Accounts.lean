/-
**The requests that a ledger holds.**

`Ledger.held` lists the requests of all accounts, one account after the other. Every operation of
the ledger is described by what it does to this list, up to order: registering leaves it, issuing
adds one request, resolving takes out the one that it returns, and closing an account takes out all
requests of its worker.

* `Roster.exists_values_insert` — replacing a value leaves every other value in its place;
* `Ledger.register_cases`, `issue_cases`, `resolve_cases` — all that an operation can do;
* `Ledger.Sound` — the count agrees with the lists and the requests have distinct identities below
  the next one; every operation keeps it.
-/

import JobPool.Ledger
import JobPool.Proofs.Deeds

namespace JobPool

/-! ### The values of a roster -/

namespace Roster

variable {κ α : Type} [DecidableEq κ] {roster : Roster κ α} {key : κ}

private theorem map_ne (entries : List (κ × α)) (change : α → α)
    (absent : ∀ entry ∈ entries, entry.1 ≠ key) :
    (entries.map fun entry => if entry.1 = key then change entry.2 else entry.2) =
      entries.map Prod.snd := by
  refine List.map_congr_left fun entry member => ?_
  rw [if_neg (absent entry member)]

/-- The entries around a listed key, which is listed once. -/
private theorem exists_entries {old : α} (found : roster.get? key = some old) :
    ∃ before after, roster.entries = before ++ (key, old) :: after ∧
      (∀ entry ∈ before, entry.1 ≠ key) ∧ ∀ entry ∈ after, entry.1 ≠ key := by
  obtain ⟨before, after, split, unlike⟩ := List.lookup_eq_some_iff.mp found
  refine ⟨before, after, split, ?_, ?_⟩
  · intro entry member same
    have differs := unlike entry member
    rw [same, bne_self_eq_false] at differs
    cases differs
  · intro entry member same
    have once := roster.distinct
    rw [split, List.map_append, List.map_cons, List.nodup_append] at once
    refine (List.nodup_cons.mp once.2.1).1 ?_
    exact List.mem_map.mpr ⟨entry, member, same⟩

/-- **Replacing a value leaves every other value in its place.** -/
theorem exists_values_insert {old : α} (found : roster.get? key = some old) :
    ∃ before after, roster.values = before ++ old :: after ∧
      ∀ new, (roster.insert key new).values = before ++ new :: after := by
  obtain ⟨before, after, split, left, right⟩ := exists_entries found
  refine ⟨before.map Prod.snd, after.map Prod.snd, by simp [values, split], fun new => ?_⟩
  have listed : key ∈ roster.keys := (mem_keys_iff_exists roster key).mpr
    ⟨old, by simp [split]⟩
  rw [insert, dif_pos listed]
  simp only [values, modify, mapWithKey, List.map_map]
  change (roster.entries.map fun entry => if entry.1 = key then new else entry.2) = _
  rw [split, List.map_append, List.map_cons, if_pos rfl, map_ne before (fun _ => new) left,
    map_ne after (fun _ => new) right]

/-- A new key brings its value at the end. -/
theorem values_insert_of_absent (absent : roster.get? key = none) (value : α) :
    (roster.insert key value).values = roster.values ++ [value] := by
  rw [insert, dif_neg ((get?_eq_none_iff roster key).mp absent)]
  simp [values]

/-- Striking a key takes out its value and no other. -/
theorem values_perm_erase {value : α} (found : roster.get? key = some value) :
    roster.values.Perm (value :: (roster.erase key).values) := by
  obtain ⟨before, after, split, left, right⟩ := exists_entries found
  have kept : ∀ entries : List (κ × α), (∀ entry ∈ entries, entry.1 ≠ key) →
      (entries.filter fun entry => entry.1 ≠ key) = entries := by
    intro entries unlike
    refine List.filter_eq_self.mpr fun entry member => ?_
    exact decide_eq_true (unlike entry member)
  have rest : (roster.erase key).values = before.map Prod.snd ++ after.map Prod.snd := by
    simp only [values, erase]
    rw [split, List.filter_append, List.filter_cons_of_neg (by simp), kept before left,
      kept after right, List.map_append]
  rw [rest, values, split, List.map_append, List.map_cons]
  exact List.perm_middle

/-- Striking a key that is not listed changes nothing. -/
theorem erase_of_absent (absent : roster.get? key = none) : roster.erase key = roster := by
  ext1
  show (roster.entries.filter fun entry => entry.1 ≠ key) = roster.entries
  refine List.filter_eq_self.mpr fun entry member => decide_eq_true fun same => ?_
  exact (get?_eq_none_iff roster key).mp absent
    ((mem_keys_iff_exists roster key).mpr ⟨entry.2, same ▸ member⟩)

/-- The entries are what the keys lead to. -/
theorem mem_entries_iff {value : α} :
    (key, value) ∈ roster.entries ↔ roster.get? key = some value := by
  constructor
  · intro inside
    have present : key ∈ roster.keys := (mem_keys_iff_exists roster key).mpr ⟨value, inside⟩
    cases found : roster.get? key with
    | none => exact ((get?_eq_none_iff roster key).mp found present).elim
    | some other =>
      obtain ⟨before, after, split, left, right⟩ := exists_entries found
      rw [split, List.mem_append, List.mem_cons] at inside
      rcases inside with earlier | same | later
      · exact (left _ earlier rfl).elim
      · cases same
        rfl
      · exact (right _ later rfl).elim
  · intro found
    obtain ⟨before, after, split, _⟩ := exists_entries found
    rw [split]
    exact List.mem_append_right _ List.mem_cons_self

/-- The values are what the keys lead to. -/
theorem mem_values_iff {value : α} :
    value ∈ roster.values ↔ ∃ key, roster.get? key = some value := by
  rw [values, List.mem_map]
  constructor
  · rintro ⟨⟨key, value⟩, inside, rfl⟩
    exact ⟨key, mem_entries_iff.mp inside⟩
  · rintro ⟨key, found⟩
    exact ⟨(key, value), mem_entries_iff.mpr found, rfl⟩

/-- Entering the value that is there already changes nothing. -/
theorem insert_of_get? {value : α} (found : roster.get? key = some value) :
    roster.insert key value = roster := by
  obtain ⟨before, after, split, left, right⟩ := exists_entries found
  have listed : key ∈ roster.keys := (mem_keys_iff_exists roster key).mpr
    ⟨value, by simp [split]⟩
  rw [insert, dif_pos listed]
  ext1
  show (roster.entries.map fun entry => (entry.1, if entry.1 = key then value else entry.2)) = _
  refine (List.map_congr_left fun entry member => ?_).trans (List.map_id _)
  rw [split, List.mem_append, List.mem_cons] at member
  rcases member with earlier | rfl | later
  · rw [if_neg (left entry earlier)]
    rfl
  · rw [if_pos rfl]
    rfl
  · rw [if_neg (right entry later)]
    rfl

/-- Of two values entered under one key the later one stays. -/
theorem insert_insert (old new : α) :
    (roster.insert key old).insert key new = roster.insert key new := by
  have listed : key ∈ (roster.insert key old).keys := by
    rw [← contains_iff, contains, get?_insert, if_pos rfl]
    rfl
  rw [insert, dif_pos listed]
  ext1
  by_cases present : key ∈ roster.keys
  · rw [insert, dif_pos present, insert, dif_pos present]
    simp only [modify, mapWithKey, List.map_map]
    refine List.map_congr_left fun entry _ => ?_
    by_cases same : entry.1 = key
    · simp [same]
    · simp [same]
  · rw [insert, dif_neg present, insert, dif_neg present]
    simp only [modify, mapWithKey, List.map_append, List.map_cons, List.map_nil, if_pos]
    congr 1
    refine (List.map_congr_left fun entry member => ?_).trans (List.map_id _)
    have other : entry.1 ≠ key := fun same =>
      present ((mem_keys_iff_exists roster key).mpr ⟨entry.2, same ▸ member⟩)
    rw [if_neg other]
    rfl

end Roster

/-! ### The requests of all accounts -/

/-- The requests of an account, none once it is closed. -/
def Account.requests : Account → List Request
  | .active requests => requests
  | .closed => []

/-- The account has been closed. -/
def Account.isClosed : Account → Bool
  | .active _ => false
  | .closed => true

namespace Ledger

/-- The requests of all accounts, one account after the other. -/
def held (ledger : Ledger) : List Request := ledger.accounts.values.flatMap Account.requests

variable {ledger after : Ledger} {worker : NodeId} {account : Account}

theorem requests_eq (ledger : Ledger) (worker : NodeId) :
    ledger.requests worker = ((ledger.accounts.get? worker).map Account.requests).getD [] := by
  unfold requests
  rcases ledger.accounts.get? worker with _ | (_ | _) <;> rfl

theorem isDeparted_eq (ledger : Ledger) (worker : NodeId) :
    ledger.isDeparted worker = ((ledger.accounts.get? worker).map Account.isClosed).getD false := by
  unfold isDeparted
  rcases ledger.accounts.get? worker with _ | (_ | _) <;> rfl

theorem requests_of_get? (found : ledger.accounts.get? worker = some account) :
    ledger.requests worker = account.requests := by
  rw [requests_eq, found]
  rfl

/-- What is outstanding on a worker is held by its account. -/
theorem mem_held_iff {request : Request} :
    request ∈ ledger.held ↔ ∃ worker, request ∈ ledger.requests worker := by
  rw [held, List.mem_flatMap]
  constructor
  · rintro ⟨account, listed, inside⟩
    obtain ⟨worker, found⟩ := Roster.mem_values_iff.mp listed
    exact ⟨worker, requests_of_get? found ▸ inside⟩
  · rintro ⟨worker, inside⟩
    cases found : ledger.accounts.get? worker with
    | none =>
      rw [requests_eq, found] at inside
      cases inside
    | some account =>
      exact ⟨account, Roster.mem_values_iff.mpr ⟨worker, found⟩, requests_of_get? found ▸ inside⟩

/-- Nothing is outstanding on a closed account. -/
theorem requests_of_isDeparted (departed : ledger.isDeparted worker = true) :
    ledger.requests worker = [] := by
  rw [isDeparted_eq] at departed
  rw [requests_eq]
  generalize ledger.accounts.get? worker = account at departed ⊢
  rcases account with _ | (_ | _)
  · rfl
  · cases departed
  · rfl

/-! ### Entering an account -/

theorem requests_of_insert (entered : after.accounts = ledger.accounts.insert worker account)
    (other : NodeId) :
    after.requests other = if other = worker then account.requests else ledger.requests other := by
  rw [requests_eq, entered, Roster.get?_insert]
  split
  · rfl
  · exact (requests_eq ledger other).symm

theorem isDeparted_of_insert (entered : after.accounts = ledger.accounts.insert worker account)
    (other : NodeId) :
    after.isDeparted other =
      if other = worker then account.isClosed else ledger.isDeparted other := by
  rw [isDeparted_eq, entered, Roster.get?_insert]
  split
  · rfl
  · exact (isDeparted_eq ledger other).symm

/-- Open accounts come and go without a departure. -/
theorem isDeparted_of_insert_open (entered : after.accounts = ledger.accounts.insert worker account)
    (unclosed : account.isClosed = false) (before : ledger.isDeparted worker = false) :
    after.isDeparted = ledger.isDeparted := by
  funext other
  rw [isDeparted_of_insert entered]
  by_cases same : other = worker
  · rw [if_pos same, same, before, unclosed]
  · rw [if_neg same]

/-- **Entering an account exchanges the requests of its worker and no others.** -/
theorem held_of_insert (entered : after.accounts = ledger.accounts.insert worker account) :
    ∃ rest, ledger.held.Perm (ledger.requests worker ++ rest) ∧
      after.held.Perm (account.requests ++ rest) := by
  cases found : ledger.accounts.get? worker with
  | none =>
    refine ⟨ledger.held, ?_, ?_⟩
    · rw [requests_eq, found]
      exact .refl _
    · rw [held, entered, Roster.values_insert_of_absent found, List.flatMap_append,
        List.flatMap_singleton]
      exact List.perm_append_comm
  | some old =>
    obtain ⟨before, later, split, replaced⟩ := Roster.exists_values_insert found
    have around : ∀ middle : Account, (before ++ middle :: later).flatMap Account.requests =
        before.flatMap Account.requests ++ (middle.requests ++ later.flatMap Account.requests) := by
      intro middle
      rw [List.flatMap_append, List.flatMap_cons]
    refine ⟨before.flatMap Account.requests ++ later.flatMap Account.requests, ?_, ?_⟩
    · rw [requests_of_get? found, held, split, around]
      exact List.perm_append_comm_assoc ..
    · rw [held, entered, replaced, around]
      exact List.perm_append_comm_assoc ..

/-- The requests of a worker are among all, each as often. -/
theorem exists_held_perm (ledger : Ledger) (worker : NodeId) :
    ∃ rest, ledger.held.Perm (ledger.requests worker ++ rest) := by
  have entered : (ledger.close worker).accounts = ledger.accounts.insert worker .closed := rfl
  obtain ⟨rest, split, _⟩ := held_of_insert entered
  exact ⟨rest, split⟩

/-! ### What the operations do -/

/-- **Registering opens an account without requests, or does nothing.** -/
theorem register_cases (ledger : Ledger) (worker : NodeId) :
    Effect.deeds (ledger.register worker).effects = [] ∧
      ((ledger.register worker).value = ledger ∨
        ledger.accounts.get? worker = none ∧ (ledger.register worker).value =
          { ledger with accounts := ledger.accounts.insert worker (.active []) }) := by
  unfold register
  split
  · exact ⟨rfl, .inl rfl⟩
  · exact ⟨rfl, .inl rfl⟩
  next absent => exact ⟨rfl, .inr ⟨absent, rfl⟩⟩

/-- Registering leaves the requests of every worker and the closed accounts as they are. -/
theorem books_register (ledger : Ledger) (worker : NodeId) :
    (ledger.register worker).value.requests = ledger.requests ∧
      (ledger.register worker).value.isDeparted = ledger.isDeparted ∧
      (ledger.register worker).value.requestIds = ledger.requestIds := by
  rcases (ledger.register_cases worker).2 with same | ⟨absent, opened⟩
  · rw [same]
    exact ⟨rfl, rfl, rfl⟩
  · rw [opened]
    refine ⟨?_, ?_, rfl⟩
    · funext other
      rw [requests_of_insert rfl]
      by_cases same : other = worker
      · rw [if_pos same, same, requests_eq, absent]
        rfl
      · rw [if_neg same]
    · refine isDeparted_of_insert_open rfl rfl ?_
      rw [isDeparted_eq, absent]
      rfl

/-- **Issuing appends a request under a fresh identity to an active account, or hands the job
back.** -/
theorem issue_cases (ledger : Ledger) (worker : NodeId) (submission : Submission) :
    (∃ fault, (ledger.issue worker submission).value = .error ⟨submission, fault⟩ ∧
      Effect.deeds (ledger.issue worker submission).effects = []) ∨
    ∃ requests id source, ledger.accounts.get? worker = some (.active requests) ∧
      ledger.requestIds.take = some (id, source) ∧
      (ledger.issue worker submission).value = .ok (id,
        { accounts := ledger.accounts.insert worker (.active (requests ++ [⟨id, submission⟩]))
          outstanding := ledger.outstanding + 1
          requestIds := source }) ∧
      Effect.deeds (ledger.issue worker submission).effects =
        [.issued id worker submission.id submission.attempt] := by
  unfold issue
  split
  next requests active =>
    split
    · exact .inl ⟨_, rfl, rfl⟩
    next id source taken => exact .inr ⟨requests, id, source, active, taken, rfl, rfl⟩
  all_goals exact .inl ⟨_, rfl, rfl⟩

/-- **Resolving strikes the named request from the account of its worker, or does nothing because
the request is not outstanding there.** -/
theorem resolve_cases (ledger : Ledger) (worker : NodeId) (id : RequestId) (failed : Bool) :
    Effect.deeds (ledger.resolve worker id failed).effects = [] ∧
      ((ledger.resolve worker id failed).value = (none, ledger) ∧
        id ∉ (ledger.requests worker).map Request.id ∨
      ∃ before request later,
        ledger.accounts.get? worker = some (.active (before ++ request :: later)) ∧
        request.id = id ∧
        (ledger.resolve worker id failed).value = (some request.submission,
          { ledger with
            accounts := ledger.accounts.insert worker (.active (before ++ later))
            outstanding := ledger.outstanding - 1 })) := by
  unfold resolve
  split
  next closed => exact ⟨rfl, .inl ⟨rfl, by simp [requests_of_get? closed, Account.requests]⟩⟩
  next absent => exact ⟨rfl, .inl ⟨rfl, by simp [requests_eq, absent]⟩⟩
  next requests active =>
    split
    next missing =>
      refine ⟨rfl, .inl ⟨rfl, ?_⟩⟩
      rw [requests_of_get? active]
      simpa [Account.requests, List.find?_eq_none] using missing
    next request found =>
      obtain ⟨named, before, later, split, earlier⟩ := List.find?_eq_some_iff_append.mp found
      have rest : (requests.eraseP fun request => request.id = id) = before ++ later := by
        have unlike : ∀ other ∈ before, ¬ decide (other.id = id) = true := fun other member => by
          simpa using earlier other member
        rw [split, List.eraseP_append_right _ unlike, List.eraseP_cons, named]
        rfl
      rw [rest]
      subst split
      refine ⟨?_, .inr ⟨before, request, later, active, of_decide_eq_true named, ?_⟩⟩
      · cases failed <;> rfl
      · cases failed <;> rfl

/-! ### A sound ledger -/

/-- The count agrees with the accounts, and the requests have distinct identities below the next
one. -/
structure Sound (ledger : Ledger) : Prop where
  counted : ledger.outstanding = ledger.held.length
  distinct : (ledger.held.map Request.id).Nodup
  known : ∀ request ∈ ledger.held, request.id < ledger.requestIds.next

theorem sound_empty : Sound {} := ⟨rfl, List.nodup_nil, nofun⟩

/-- The requests of one worker have distinct identities, too. -/
theorem Sound.nodup_requests (sound : ledger.Sound) (worker : NodeId) :
    ((ledger.requests worker).map Request.id).Nodup := by
  obtain ⟨rest, split⟩ := ledger.exists_held_perm worker
  have distinct := sound.distinct
  rw [(split.map Request.id).nodup_iff, List.map_append, List.nodup_append] at distinct
  exact distinct.1

/-- Soundness is a matter of the count, the next identity and the requests up to order. -/
private theorem Sound.of_perm (sound : ledger.Sound) (taken : List Request)
    (split : ledger.held.Perm (taken ++ after.held))
    (counted : after.outstanding = ledger.outstanding - taken.length)
    (ids : after.requestIds = ledger.requestIds) : after.Sound := by
  have distinct := sound.distinct
  rw [(split.map Request.id).nodup_iff, List.map_append, List.nodup_append] at distinct
  refine ⟨?_, distinct.2.1, ?_⟩
  · rw [counted, sound.counted, split.length_eq, List.length_append, Nat.add_sub_cancel_left]
  · intro request member
    rw [ids]
    exact sound.known request (split.symm.subset (List.mem_append_right taken member))

/-- Registering leaves the requests as they are. -/
theorem held_register (ledger : Ledger) (worker : NodeId) :
    ledger.held.Perm (ledger.register worker).value.held := by
  rcases (register_cases ledger worker).2 with same | ⟨absent, opened⟩
  · rw [same]
  · have entered : (ledger.register worker).value.accounts =
        ledger.accounts.insert worker (.active []) := by rw [opened]
    obtain ⟨rest, before, later⟩ := held_of_insert entered
    rw [requests_eq, absent] at before
    exact before.trans later.symm

theorem Sound.register (sound : ledger.Sound) (worker : NodeId) :
    (ledger.register worker).value.Sound := by
  have split := held_register ledger worker
  rcases (register_cases ledger worker).2 with same | ⟨_, opened⟩
  · rw [same]
    exact sound
  · rw [opened] at split ⊢
    exact sound.of_perm [] split rfl rfl

/-- An issued request is new, and the other requests stay. -/
theorem held_issued {requests : List Request} {request : Request}
    (active : ledger.accounts.get? worker = some (.active requests))
    (entered : after.accounts =
      ledger.accounts.insert worker (.active (requests ++ [request]))) :
    after.held.Perm (request :: ledger.held) := by
  obtain ⟨rest, before, later⟩ := held_of_insert entered
  rw [requests_of_get? active] at before
  refine later.trans ?_
  rw [Account.requests, List.append_assoc]
  exact (List.perm_middle).trans ((before.symm).cons request)

theorem Sound.issued (sound : ledger.Sound) {requests : List Request} {submission : Submission}
    {id : RequestId} {source : IdSource}
    (active : ledger.accounts.get? worker = some (.active requests))
    (taken : ledger.requestIds.take = some (id, source)) :
    Sound { accounts := ledger.accounts.insert worker (.active (requests ++ [⟨id, submission⟩]))
            outstanding := ledger.outstanding + 1
            requestIds := source } := by
  obtain ⟨rfl, next⟩ := IdSource.take_next taken
  let after : Ledger :=
    { accounts := ledger.accounts.insert worker
        (.active (requests ++ [⟨ledger.requestIds.next, submission⟩]))
      outstanding := ledger.outstanding + 1
      requestIds := source }
  have split : after.held.Perm (⟨ledger.requestIds.next, submission⟩ :: ledger.held) :=
    held_issued active rfl
  refine ⟨?_, ?_, ?_⟩
  · rw [split.length_eq, List.length_cons, sound.counted]
  · rw [(split.map Request.id).nodup_iff, List.map_cons, List.nodup_cons]
    refine ⟨fun member => ?_, sound.distinct⟩
    obtain ⟨request, held, same⟩ := List.mem_map.mp member
    exact (Nat.ne_of_lt (sound.known request held)) same
  · intro request member
    rw [next]
    rcases List.mem_cons.mp (split.subset member) with rfl | held
    · exact Nat.lt_succ_self _
    · exact Nat.lt_succ_of_lt (sound.known request held)

/-- A resolved request is taken out, and the other requests stay. -/
theorem held_resolved {before later : List Request} {request : Request}
    (active : ledger.accounts.get? worker = some (.active (before ++ request :: later)))
    (entered : after.accounts = ledger.accounts.insert worker (.active (before ++ later))) :
    ledger.held.Perm (request :: after.held) := by
  obtain ⟨rest, left, right⟩ := held_of_insert entered
  rw [requests_of_get? active] at left
  refine left.trans (.trans ?_ (right.symm.cons request))
  exact (List.perm_middle.append_right rest)

theorem Sound.resolved (sound : ledger.Sound) {before later : List Request} {request : Request}
    (active : ledger.accounts.get? worker = some (.active (before ++ request :: later))) :
    Sound { ledger with
      accounts := ledger.accounts.insert worker (.active (before ++ later))
      outstanding := ledger.outstanding - 1 } :=
  sound.of_perm [request] (held_resolved active rfl) rfl rfl

/-- A closed account gives up all its requests, and the other requests stay. -/
theorem held_close (ledger : Ledger) (worker : NodeId) :
    ledger.held.Perm (ledger.requests worker ++ (ledger.close worker).held) := by
  have entered : (ledger.close worker).accounts = ledger.accounts.insert worker .closed := rfl
  obtain ⟨rest, left, right⟩ := held_of_insert entered
  exact left.trans ((right.symm).append_left _)

theorem Sound.close (sound : ledger.Sound) (worker : NodeId) : (ledger.close worker).Sound :=
  sound.of_perm _ (held_close ledger worker) rfl rfl

/-- Closing a closed account again changes nothing. -/
theorem close_of_isDeparted (departed : ledger.isDeparted worker = true) :
    ledger.close worker = ledger := by
  have nothing : ledger.outstandingOn worker = 0 := by
    rw [outstandingOn, requests_of_isDeparted departed, List.length_nil]
  have closed : ledger.accounts.get? worker = some .closed := by
    unfold isDeparted at departed
    split at departed
    · assumption
    · cases departed
    · cases departed
  rw [close, nothing, Nat.sub_zero, Roster.insert_of_get? closed]

end Ledger

end JobPool
