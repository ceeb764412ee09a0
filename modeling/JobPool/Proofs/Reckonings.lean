/-
**Keeping count of requests.**

A master counts its requests in three places that do not know of one another: the records of its
workers, the accounts of outstanding requests, and the source of identities. `Figures` are what the
three say, and a `Reckoning` is what one step of the master does to them, with the effects that tell
of it. The figures are then compared with the whole history.

* `Effect.issues`, `issuesTo`, `strikesOn`, `unanswered`, `lateOn` — the requests that were issued,
  the ones that a completion struck and the ones that none did, and the completions that struck
  nothing after a departure;
* `Figures`, `Reckoning` — what a master counts, and what a step of it does to the counts;
* `Balanced`, `Balanced.reckoning` — the figures that agree with a history, and the steps that keep
  them so.
-/

import Mathlib.Algebra.BigOperators.Group.List.Basic
import Mathlib.Algebra.GroupWithZero.Nat
import JobPool.Proofs.Tallies

namespace JobPool

namespace Effect

variable {worker : NodeId} {effects first second : List Effect} {effect : Effect}

/-! ### Readings of a history -/

/-- The requests that were issued, in order. -/
def issues (effects : List Effect) : List RequestId :=
  effects.filterMap fun
    | .issued request _ _ _ => some request
    | _ => none

/-- The requests that were issued to a worker, in order. -/
def issuesTo (worker : NodeId) (effects : List Effect) : List RequestId :=
  effects.filterMap fun
    | .issued request other _ _ => if other = worker then some request else none
    | _ => none

/-- The requests that a completion of a worker struck, in order. -/
def strikesOn (worker : NodeId) (effects : List Effect) : List RequestId :=
  effects.filterMap fun
    | .resolved other request true => if other = worker then some request else none
    | _ => none

/-- The requests that a completion of a worker named without striking one, in order. -/
def missesOn (worker : NodeId) (effects : List Effect) : List RequestId :=
  effects.filterMap fun
    | .resolved other request false => if other = worker then some request else none
    | _ => none

/-- The departure of a worker is applied. -/
def isDepartureOf (worker : NodeId) : Effect → Bool
  | applied (.departed other) => other = worker
  | _ => false

/-- The departure of a worker was applied. -/
def departs (worker : NodeId) (effects : List Effect) : Bool := effects.any (isDepartureOf worker)

/-- The requests that completions of a worker named after its departure, in order. -/
def lateOn (worker : NodeId) : List Effect → List RequestId
  | [] => []
  | effect :: rest =>
    if effect.isDepartureOf worker then missesOn worker rest else lateOn worker rest

/-- The requests that were issued to a worker and that no completion struck, in order. -/
def unanswered (worker : NodeId) (effects : List Effect) : List RequestId :=
  (issuesTo worker effects).filter fun request => request ∉ strikesOn worker effects

theorem issues_append : issues (first ++ second) = issues first ++ issues second :=
  List.filterMap_append

theorem issuesTo_append :
    issuesTo worker (first ++ second) = issuesTo worker first ++ issuesTo worker second :=
  List.filterMap_append

theorem strikesOn_append :
    strikesOn worker (first ++ second) = strikesOn worker first ++ strikesOn worker second :=
  List.filterMap_append

theorem missesOn_append :
    missesOn worker (first ++ second) = missesOn worker first ++ missesOn worker second :=
  List.filterMap_append

theorem departs_append :
    departs worker (first ++ second) = (departs worker first || departs worker second) :=
  List.any_append

/-- Once a worker has departed, every completion of it that strikes nothing is late. -/
theorem lateOn_append : lateOn worker (first ++ second) = lateOn worker first ++
    if departs worker first then missesOn worker second else lateOn worker second := by
  induction first with
  | nil => rfl
  | cons effect rest hypothesis =>
    rw [List.cons_append, lateOn, lateOn, departs, List.any_cons]
    cases effect.isDepartureOf worker with
    | true => simp [missesOn_append]
    | false => simpa [departs] using hypothesis

/-- A departure is no completion. -/
theorem lateOn_singleton : lateOn worker [effect] = [] := by
  rw [lateOn]
  split <;> rfl

theorem lateOn_eq_nil (present : departs worker effects = false) : lateOn worker effects = [] := by
  induction effects with
  | nil => rfl
  | cons effect rest hypothesis =>
    rw [departs, List.any_cons, Bool.or_eq_false_iff] at present
    rw [lateOn, present.1]
    exact hypothesis present.2

/-- The requests of a worker are among all requests. -/
theorem issuesTo_sublist (worker : NodeId) (effects : List Effect) :
    (issuesTo worker effects).Sublist (issues effects) := by
  induction effects with
  | nil => exact .slnil
  | cons effect rest hypothesis =>
    have first : (issuesTo worker [effect]).Sublist (issues [effect]) := by
      cases effect with
      | issued request other job attempt =>
        by_cases own : other = worker <;> simp [issuesTo, issues, own]
      | _ => exact .slnil
    rw [← List.singleton_append, issuesTo_append, issues_append]
    exact first.append hypothesis

/-- **The requests of all workers are all requests**, counted worker by worker. -/
theorem sum_issuesTo {workers : List NodeId} (distinct : workers.Nodup)
    (known : ∀ worker, worker ∉ workers → issuesTo worker effects = []) :
    (workers.map fun worker => (issuesTo worker effects).length).sum = (issues effects).length := by
  induction effects with
  | nil => simp [issuesTo, issues]
  | cons effect rest hypothesis =>
    have split : ∀ worker, issuesTo worker (effect :: rest) =
        issuesTo worker [effect] ++ issuesTo worker rest := fun worker => by
      rw [← issuesTo_append, List.singleton_append]
    have first : (workers.map fun worker => (issuesTo worker [effect]).length).sum =
        (issues [effect]).length := by
      cases effect with
      | issued request worker job attempt =>
        have listed : worker ∈ workers := by
          by_contra unlisted
          have none := known worker unlisted
          simp [issuesTo] at none
        rw [List.sum_map_eq_nsmul_single worker, distinct.count, if_pos listed]
        · simp [issuesTo, issues]
        · intro other differs _
          simp [issuesTo, Ne.symm differs]
      | _ => simp [issuesTo, issues]
    have later := hypothesis fun worker unlisted =>
      (List.append_eq_nil_iff.mp ((split worker).symm.trans (known worker unlisted))).2
    rw [← List.singleton_append, issues_append, List.length_append, ← first, ← later,
      ← List.sum_map_add]
    refine congrArg List.sum (List.map_congr_left fun worker _ => ?_)
    rw [List.singleton_append, split, List.length_append]

/-! ### One effect -/

/-- **What one effect says about a worker.** -/
structure Reads (worker : NodeId) (effect : Effect) (issued struck missed : List RequestId)
    (leaves : Bool) : Prop where
  issues : issuesTo worker [effect] = issued
  strikes : strikesOn worker [effect] = struck
  misses : missesOn worker [effect] = missed
  departs : departs worker [effect] = leaves

/-- The worker that an effect counts for. -/
def subject? : Effect → Option NodeId
  | issued _ worker _ _ | resolved worker _ _ | applied (.departed worker) => some worker
  | log _ | handled _ | applied (.joined _) | applied .poolTerminated | admitted .. | queued ..
  | sent .. | ran .. | answered .. | linkClosed | brokeDown _ => none

/-- An effect that counts for somebody else says nothing. -/
theorem reads_apart (apart : effect.subject? ≠ some worker) :
    Reads worker effect [] [] [] false := by
  have others : ∀ other, effect.subject? = some other → ¬ other = worker :=
    fun other counts own => apart (own ▸ counts)
  cases effect with
  | issued request other job attempt =>
    constructor <;> simp [issuesTo, strikesOn, missesOn, departs, isDepartureOf, others other rfl]
  | resolved other request outstanding =>
    constructor <;> cases outstanding <;>
      simp [issuesTo, strikesOn, missesOn, departs, isDepartureOf, others other rfl]
  | applied change =>
    cases change with
    | departed other =>
      constructor <;> simp [issuesTo, strikesOn, missesOn, departs, isDepartureOf, others other rfl]
    | joined | poolTerminated => exact ⟨rfl, rfl, rfl, rfl⟩
  | _ => exact ⟨rfl, rfl, rfl, rfl⟩

theorem reads_issued {request : RequestId} {job : JobId} {attempt : Nat} :
    Reads worker (.issued request worker job attempt) [request] [] [] false := by
  constructor <;> simp [issuesTo, strikesOn, missesOn, departs, isDepartureOf]

theorem reads_struck {request : RequestId} :
    Reads worker (.resolved worker request true) [] [request] [] false := by
  constructor <;> simp [issuesTo, strikesOn, missesOn, departs, isDepartureOf]

theorem reads_missed {request : RequestId} :
    Reads worker (.resolved worker request false) [] [] [request] false := by
  constructor <;> simp [issuesTo, strikesOn, missesOn, departs, isDepartureOf]

theorem reads_departed : Reads worker (.applied (.departed worker)) [] [] [] true := by
  constructor <;> simp [issuesTo, strikesOn, missesOn, departs, isDepartureOf]

/-! ### The effects that are read -/

/-- The effect tells of a request or of a departure. -/
def isMark : Effect → Bool
  | issued .. | resolved .. | applied (.departed _) => true
  | log _ | handled _ | applied (.joined _) | applied .poolTerminated | admitted .. | queued ..
  | sent .. | ran .. | answered .. | linkClosed | brokeDown _ => false

/-- The effects that tell of requests and departures, in order. -/
def marks (effects : List Effect) : List Effect := effects.filter isMark

@[simp] theorem marks_append : marks (first ++ second) = marks first ++ marks second :=
  List.filter_append ..

theorem marks_deeds (effects : List Effect) : marks (deeds effects) = marks effects := by
  rw [marks, deeds, List.filter_filter]
  refine List.filter_congr fun effect _ => ?_
  cases effect <;> simp [isMark]

theorem marks_of_deeds {told : List Effect} (deeds : deeds effects = told) :
    marks effects = marks told := by
  rw [← marks_deeds, deeds]

theorem marks_eq_nil (unmarked : ∀ effect ∈ deeds effects, effect.isMark = false) :
    marks effects = [] := by
  rw [← marks_deeds, marks, List.filter_eq_nil_iff]
  simpa using unmarked

section Readings

variable {α : Type} {select : Effect → Option α}

/-- A selection of marks reads nothing else. -/
private theorem filterMap_marks
    (marked : ∀ effect : Effect, effect.isMark = false → select effect = none) :
    (marks effects).filterMap select = effects.filterMap select := by
  have same : (fun effect : Effect => if effect.isMark then select effect else none) = select := by
    funext effect
    split
    next => rfl
    next unmarked => exact (marked effect (Bool.eq_false_iff.mpr unmarked)).symm
  rw [marks, List.filterMap_filter, same]

end Readings

theorem issues_marks : issues (marks effects) = issues effects :=
  filterMap_marks fun effect unmarked => by cases effect <;> first | rfl | cases unmarked

theorem issuesTo_marks : issuesTo worker (marks effects) = issuesTo worker effects :=
  filterMap_marks fun effect unmarked => by cases effect <;> first | rfl | cases unmarked

theorem strikesOn_marks : strikesOn worker (marks effects) = strikesOn worker effects :=
  filterMap_marks fun effect unmarked => by cases effect <;> first | rfl | cases unmarked

theorem missesOn_marks : missesOn worker (marks effects) = missesOn worker effects :=
  filterMap_marks fun effect unmarked => by cases effect <;> first | rfl | cases unmarked

theorem unanswered_marks : unanswered worker (marks effects) = unanswered worker effects := by
  rw [unanswered, unanswered, issuesTo_marks, strikesOn_marks]

theorem lateOn_marks : lateOn worker (marks effects) = lateOn worker effects := by
  induction effects with
  | nil => rfl
  | cons effect rest hypothesis =>
    cases mark : effect.isMark with
    | true =>
      have kept : marks (effect :: rest) = effect :: marks rest := List.filter_cons_of_pos mark
      rw [kept, lateOn, lateOn, hypothesis, missesOn_marks]
    | false =>
      have passed : marks (effect :: rest) = marks rest :=
        List.filter_cons_of_neg (Bool.eq_false_iff.mp mark)
      have other : effect.isDepartureOf worker = false := by
        cases effect with
        | applied change => cases change <;> first | rfl | cases mark
        | _ => rfl
      rw [passed, hypothesis, lateOn, other]
      rfl

end Effect

/-! ### Figures -/

/-- What a master counts. -/
@[ext]
structure Figures where
  /-- The numbers in the records of the workers. -/
  tally? : NodeId → Option Tally
  /-- The requests in the accounts of the workers. -/
  outstanding : NodeId → List RequestId
  /-- The accounts that are closed. -/
  isDeparted : NodeId → Bool
  /-- The identity of the next request. -/
  next : RequestId

/-- **What a step of a master does to its figures**, with the marks among its effects. -/
inductive Reckoning (learns : Bool) (figures : Figures) : Figures → List Effect → Prop
  | rests : Reckoning learns figures figures []
  /-- A worker is given a record. -/
  | joins {worker : NodeId} (unseen : figures.tally? worker = none)
      (present : figures.isDeparted worker = false) :
      Reckoning learns figures
        { figures with
          tally? := fun other => if other = worker then some .fresh else figures.tally? other } []
  /-- A request is issued to a worker with a record. -/
  | issues {worker : NodeId} {job : JobId} {attempt : Nat}
      (known : (figures.tally? worker).isSome = true)
      (present : figures.isDeparted worker = false) :
      Reckoning learns figures
        { figures with
          tally? := fun other =>
            if other = worker then (figures.tally? worker).map .dispatch
            else figures.tally? other
          outstanding := fun other =>
            if other = worker then figures.outstanding worker ++ [figures.next]
            else figures.outstanding other
          next := figures.next + 1 }
        [.issued figures.next worker job attempt]
  /-- A completion strikes a request. -/
  | strikes {worker : NodeId} {request : RequestId} {before later : List RequestId}
      {failed : Bool} (listed : figures.outstanding worker = before ++ request :: later)
      (present : figures.isDeparted worker = false) :
      Reckoning learns figures
        { figures with
          tally? := fun other =>
            if other = worker then (figures.tally? worker).map (.complete learns failed)
            else figures.tally? other
          outstanding := fun other =>
            if other = worker then before ++ later else figures.outstanding other }
        [.resolved worker request true]
  /-- A completion of a worker that is present strikes nothing and is ignored. -/
  | ignores {worker : NodeId} {request : RequestId}
      (present : figures.isDeparted worker = false) :
      Reckoning learns figures figures [.resolved worker request false]
  /-- A completion of a worker that has departed strikes nothing and counts nevertheless. -/
  | trails {worker : NodeId} {request : RequestId} {failed : Bool}
      (departed : figures.isDeparted worker = true) :
      Reckoning learns figures
        { figures with
          tally? := fun other =>
            if other = worker then (figures.tally? worker).map (.complete learns failed)
            else figures.tally? other }
        [.resolved worker request false]
  /-- A worker departs, and its requests are taken back. -/
  | departs {worker : NodeId} :
      Reckoning learns figures
        { figures with
          tally? := fun other =>
            if other = worker then (figures.tally? worker).map .depart
            else figures.tally? other
          outstanding := fun other => if other = worker then [] else figures.outstanding other
          isDeparted := fun other => if other = worker then true else figures.isDeparted other }
        [.applied (.departed worker)]

/-! ### Figures that agree with a history -/

/-- **The figures of a worker agree with a history.** The requests that were issued to it are those
that were struck, those that are outstanding, and those that were taken back when it departed. Its
record counts every request that was issued, and every completion that struck one or was late. -/
structure Reconciled (learns : Bool) (history : List Effect) (figures : Figures)
    (worker : NodeId) : Prop where
  departed : figures.isDeparted worker = Effect.departs worker history
  shared : ∃ taken, (Effect.issuesTo worker history).Perm
      (Effect.strikesOn worker history ++ (figures.outstanding worker ++ taken)) ∧
    (figures.isDeparted worker = false → taken = [])
  unseen : figures.tally? worker = none → Effect.issuesTo worker history = []
  tallied : ∀ tally, figures.tally? worker = some tally →
    tally.departed = figures.isDeparted worker ∧
    tally.dispatched = (Effect.issuesTo worker history).length ∧
    tally.completed =
      (Effect.strikesOn worker history).length + (Effect.lateOn worker history).length ∧
    tally.Sound learns

namespace Reconciled

variable {learns : Bool} {history : List Effect} {figures next : Figures} {worker : NodeId}

/-- A worker that is present has no late completions. -/
theorem lateOn (reconciled : Reconciled learns history figures worker)
    (present : figures.isDeparted worker = false) : Effect.lateOn worker history = [] :=
  Effect.lateOn_eq_nil (reconciled.departed.symm.trans present)

/-- Requests are struck only after they were issued. -/
theorem strikesOn (reconciled : Reconciled learns history figures worker)
    (unissued : Effect.issuesTo worker history = []) : Effect.strikesOn worker history = [] := by
  obtain ⟨taken, shared, _⟩ := reconciled.shared
  rw [unissued] at shared
  exact (List.append_eq_nil_iff.mp shared.symm.eq_nil).1

/-- The figures of a worker are looked at without those of the others. -/
private theorem of_same (reconciled : Reconciled learns history figures worker)
    (tally : next.tally? worker = figures.tally? worker)
    (outstanding : next.outstanding worker = figures.outstanding worker)
    (isDeparted : next.isDeparted worker = figures.isDeparted worker) :
    Reconciled learns history next worker := by
  refine ⟨?_, ?_, ?_, ?_⟩
  · rw [isDeparted]
    exact reconciled.departed
  · rw [outstanding, isDeparted]
    exact reconciled.shared
  · rw [tally]
    exact reconciled.unseen
  · rw [tally, isDeparted]
    exact reconciled.tallied

/-- A fresh record belongs to a worker without a history. -/
private theorem joins (reconciled : Reconciled learns history figures worker)
    (unseen : figures.tally? worker = none) (present : figures.isDeparted worker = false)
    (tally : next.tally? worker = some .fresh)
    (outstanding : next.outstanding worker = figures.outstanding worker)
    (isDeparted : next.isDeparted worker = figures.isDeparted worker) :
    Reconciled learns history next worker := by
  have unissued := reconciled.unseen unseen
  refine ⟨?_, ?_, fun _ => unissued, fun counted known => ?_⟩
  · rw [isDeparted]
    exact reconciled.departed
  · rw [outstanding, isDeparted]
    exact reconciled.shared
  · cases tally.symm.trans known
    rw [unissued, reconciled.strikesOn unissued, reconciled.lateOn present, isDeparted, present]
    exact ⟨rfl, rfl, rfl, Tally.sound_fresh learns⟩

/-- **One more effect is read, and the figures of the worker follow it.** -/
private theorem follows (reconciled : Reconciled learns history figures worker) {mark : Effect}
    {count : Tally → Tally} {issued struck missed : List RequestId} {leaves : Bool}
    (reads : Effect.Reads worker mark issued struck missed leaves)
    (tally : next.tally? worker = (figures.tally? worker).map count)
    (adds : Tally.Adds learns count issued.length
      (struck.length + if figures.isDeparted worker then missed.length else 0) leaves)
    (known : figures.tally? worker = none → issued = [])
    (isDeparted : next.isDeparted worker = (figures.isDeparted worker || leaves))
    (shared : ∃ taken, (figures.outstanding worker ++ issued).Perm
        (struck ++ (next.outstanding worker ++ taken)) ∧
      (next.isDeparted worker = false → taken = [])) :
    Reconciled learns (history ++ [mark]) next worker := by
  obtain ⟨issues, strikes, misses, departs⟩ := reads
  refine ⟨?_, ?_, fun unseen => ?_, fun counted same => ?_⟩
  · rw [isDeparted, Effect.departs_append, departs, reconciled.departed]
  · obtain ⟨taken, parts, none⟩ := reconciled.shared
    obtain ⟨more, moved, still⟩ := shared
    refine ⟨more ++ taken, ?_, fun present => ?_⟩
    · rw [Effect.issuesTo_append, issues, Effect.strikesOn_append, strikes, List.perm_iff_count]
      intro request
      have before := parts.count_eq request
      have now := moved.count_eq request
      simp only [List.count_append] at before now ⊢
      omega
    · rw [still present, none (Bool.or_eq_false_iff.mp (isDeparted.symm.trans present)).1]
      rfl
  · rw [tally, Option.map_eq_none_iff] at unseen
    rw [Effect.issuesTo_append, issues, known unseen, reconciled.unseen unseen]
    rfl
  · rw [tally] at same
    obtain ⟨before, found, rfl⟩ := Option.map_eq_some_iff.mp same
    obtain ⟨gone, dispatched, completed, sound⟩ := reconciled.tallied before found
    refine ⟨?_, ?_, ?_, adds.sound before sound⟩
    · rw [adds.departed, gone, isDeparted]
    · rw [adds.dispatched, dispatched, Effect.issuesTo_append, issues, List.length_append]
    · rw [adds.completed, completed, Effect.strikesOn_append, strikes, Effect.lateOn_append,
        Effect.lateOn_singleton, misses, List.length_append, List.length_append,
        ← reconciled.departed]
      cases figures.isDeparted worker <;> simp <;> omega

/-- What counts for one worker is nothing to another one. -/
private theorem aside (reconciled : Reconciled learns history figures worker) {mark : Effect}
    (apart : mark.subject? ≠ some worker) (tally : next.tally? worker = figures.tally? worker)
    (outstanding : next.outstanding worker = figures.outstanding worker)
    (isDeparted : next.isDeparted worker = figures.isDeparted worker) :
    Reconciled learns (history ++ [mark]) next worker := by
  refine reconciled.follows (Effect.reads_apart apart) (tally.trans Option.map_id_apply.symm) ?_
    (fun _ => rfl) (isDeparted.trans (Bool.or_false _).symm) ⟨[], ?_, fun _ => rfl⟩
  · simpa using Tally.adds_id learns
  · simp [outstanding]

end Reconciled

/-- **The figures agree with a history**: the requests were numbered as they were issued, and the
figures of every worker agree. -/
structure Balanced (learns : Bool) (history : List Effect) (figures : Figures) : Prop where
  numbered : Effect.issues history = List.range' 1 (Effect.issues history).length
  following : figures.next = (Effect.issues history).length + 1
  each : ∀ worker, Reconciled learns history figures worker

namespace Balanced

variable {learns : Bool} {history marks : List Effect} {figures next : Figures} {worker : NodeId}

/-- An effect that counts for one worker. -/
private theorem concat (balanced : Balanced learns history figures) {mark : Effect}
    (subject : mark.subject? = some worker)
    (others : ∀ other, ¬ other = worker → next.tally? other = figures.tally? other ∧
      next.outstanding other = figures.outstanding other ∧
      next.isDeparted other = figures.isDeparted other)
    (own : Reconciled learns (history ++ [mark]) next worker)
    (numbered : Effect.issues [mark] = [] ∧ next.next = figures.next ∨
      Effect.issues [mark] = [figures.next] ∧ next.next = figures.next + 1) :
    Balanced learns (history ++ [mark]) next := by
  have each : ∀ other, Reconciled learns (history ++ [mark]) next other := by
    intro other
    by_cases same : other = worker
    · rw [same]
      exact own
    · obtain ⟨tally, outstanding, isDeparted⟩ := others other same
      refine (balanced.each other).aside ?_ tally outstanding isDeparted
      rw [subject]
      exact fun counts => same (Option.some.inj counts).symm
  rcases numbered with ⟨unissued, still⟩ | ⟨issued, later⟩
  · have same : Effect.issues (history ++ [mark]) = Effect.issues history := by
      rw [Effect.issues_append, unissued, List.append_nil]
    refine ⟨?_, ?_, each⟩
    · rw [same]
      exact balanced.numbered
    · rw [same, still]
      exact balanced.following
  · have more : Effect.issues (history ++ [mark]) = Effect.issues history ++ [figures.next] := by
      rw [Effect.issues_append, issued]
    refine ⟨?_, ?_, each⟩
    · rw [more, List.length_append, List.length_singleton, List.range'_concat, balanced.following,
        ← balanced.numbered, Nat.one_mul, Nat.add_comm 1]
    · rw [more, List.length_append, List.length_singleton, later, balanced.following]

/-- **Figures without requests and without workers agree with an empty history.** -/
theorem empty (learns : Bool) :
    Balanced learns [] ⟨fun _ => none, fun _ => [], fun _ => false, 1⟩ :=
  ⟨rfl, rfl, fun _ => ⟨rfl, ⟨[], .nil, fun _ => rfl⟩, fun _ => rfl, nofun⟩⟩

/-- No request is issued twice. -/
theorem nodup_issues (balanced : Balanced learns history figures) :
    (Effect.issues history).Nodup := by
  rw [balanced.numbered]
  exact List.nodup_range'

/-- **A request is struck at most once**, and only by a completion of the worker to which it was
issued. -/
theorem struck_once (balanced : Balanced learns history figures) (worker : NodeId) :
    (Effect.strikesOn worker history).Nodup ∧
      Effect.strikesOn worker history ⊆ Effect.issuesTo worker history := by
  obtain ⟨taken, shared, _⟩ := (balanced.each worker).shared
  have distinct := (Effect.issuesTo_sublist worker history).nodup balanced.nodup_issues
  exact ⟨(List.nodup_append.mp (shared.nodup_iff.mp distinct)).1,
    fun request struck => shared.mem_iff.mpr (List.mem_append_left _ struck)⟩

/-- Every request that was issued to a worker was struck, or is unanswered. -/
theorem length_issuesTo (balanced : Balanced learns history figures) (worker : NodeId) :
    (Effect.issuesTo worker history).length =
      (Effect.strikesOn worker history).length + (Effect.unanswered worker history).length := by
  obtain ⟨taken, shared, _⟩ := (balanced.each worker).shared
  have distinct := (Effect.issuesTo_sublist worker history).nodup balanced.nodup_issues
  obtain ⟨_, _, apart⟩ := List.nodup_append.mp (shared.nodup_iff.mp distinct)
  have struck : (Effect.strikesOn worker history).filter
      (fun request => request ∉ Effect.strikesOn worker history) = [] := by
    simp
  have others : (figures.outstanding worker ++ taken).filter
      (fun request => request ∉ Effect.strikesOn worker history) =
      figures.outstanding worker ++ taken := by
    refine List.filter_eq_self.mpr fun request member => ?_
    exact decide_eq_true fun struck => apart request struck request member rfl
  have left := (shared.filter fun request => request ∉ Effect.strikesOn worker history).length_eq
  rw [List.filter_append, struck, others, List.nil_append] at left
  rw [shared.length_eq, List.length_append, Effect.unanswered, left]

/-- **Every step keeps the figures in agreement with the history.** -/
theorem reckoning (balanced : Balanced learns history figures)
    (reckoning : Reckoning learns figures next marks) :
    Balanced learns (history ++ marks) next := by
  cases reckoning with
  | rests =>
    rw [List.append_nil]
    exact balanced
  | @joins worker unseen present =>
    rw [List.append_nil]
    refine ⟨balanced.numbered, balanced.following, fun other => ?_⟩
    by_cases own : other = worker
    · subst own
      exact (balanced.each other).joins unseen present (if_pos rfl) rfl rfl
    · exact (balanced.each other).of_same (if_neg own) rfl rfl
  | @issues worker job attempt known present =>
    refine balanced.concat rfl (fun other apart => ⟨if_neg apart, if_neg apart, rfl⟩) ?_
      (.inr ⟨rfl, rfl⟩)
    refine (balanced.each worker).follows Effect.reads_issued (if_pos rfl) ?_ (fun unseen => ?_)
      (Bool.or_false _).symm ⟨[], ?_, fun _ => rfl⟩
    · simpa using Tally.adds_dispatch learns
    · rw [unseen] at known
      cases known
    · simp
  | @strikes worker request before later failed listed present =>
    refine balanced.concat rfl (fun other apart => ⟨if_neg apart, if_neg apart, rfl⟩) ?_
      (.inl ⟨rfl, rfl⟩)
    refine (balanced.each worker).follows Effect.reads_struck (if_pos rfl) ?_ (fun _ => rfl)
      (Bool.or_false _).symm ⟨[], ?_, fun _ => rfl⟩
    · simpa using Tally.adds_complete learns failed
    · simp [listed]
  | @ignores worker request present =>
    refine balanced.concat rfl (fun _ _ => ⟨rfl, rfl, rfl⟩) ?_ (.inl ⟨rfl, rfl⟩)
    refine (balanced.each worker).follows Effect.reads_missed Option.map_id_apply.symm ?_
      (fun _ => rfl) (Bool.or_false _).symm ⟨[], ?_, fun _ => rfl⟩
    · simpa [present] using Tally.adds_id learns
    · simp
  | @trails worker request failed departed =>
    refine balanced.concat rfl (fun other apart => ⟨if_neg apart, rfl, rfl⟩) ?_ (.inl ⟨rfl, rfl⟩)
    refine (balanced.each worker).follows Effect.reads_missed (if_pos rfl) ?_ (fun _ => rfl)
      (Bool.or_false _).symm ⟨[], ?_, fun _ => rfl⟩
    · simpa [departed] using Tally.adds_complete learns failed
    · simp
  | @departs worker =>
    refine balanced.concat rfl (fun other apart => ⟨if_neg apart, if_neg apart, if_neg apart⟩) ?_
      (.inl ⟨rfl, rfl⟩)
    refine (balanced.each worker).follows Effect.reads_departed (if_pos rfl) ?_ (fun _ => rfl) ?_
      ⟨figures.outstanding worker, ?_, fun present => ?_⟩
    · simpa using Tally.adds_depart learns
    · simp
    · simp
    · simp at present

end Balanced

end JobPool
