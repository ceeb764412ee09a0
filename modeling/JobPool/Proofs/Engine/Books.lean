/-
**The books of a master agree with its history.**

What the ledger holds can be read off the history: a request is outstanding on a worker once it has
been issued to it, until it is resolved there or the departure of the worker is applied. Every
request is issued once, to one worker, and a submitter waits only for the job that it was admitted
with. Each entry in the books keeps this.

* `Effect.Outstanding` — a request that is outstanding after a history;
* `Effect.Touches` — one new effect on what is outstanding, and what becomes of the requests;
* `Booked` — the books and the history agree;
* `Booked.booking` — every entry keeps the agreement;
* `Session.Sound.of_passes` — it holds in every state that the run of a master passes through;
* `Session.exists_origin` — the turn that an entry comes from.
-/

import JobPool.Proofs.Engine.Entries

namespace JobPool

namespace Effect

/-- **A request is outstanding on a worker**: it was issued to it for an attempt of a job, was not
resolved there, and the departure of the worker was not applied. -/
structure Outstanding (history : List Effect) (worker : NodeId) (request : RequestId) (job : JobId)
    (attempt : Nat) : Prop where
  issued : Effect.issued request worker job attempt ∈ history
  unresolved : Effect.resolved worker request true ∉ history
  present : Effect.applied (.departed worker) ∉ history

/-- The effect leaves what is outstanding as it is. -/
def isNeutral : Effect → Bool
  | issued .. | resolved _ _ true | applied (.departed _) => false
  | log _ | handled _ | resolved _ _ false | applied (.joined _) | applied .poolTerminated
  | admitted .. | queued .. | sent .. | ran .. | answered .. | linkClosed | brokeDown _ => true

/-- What is outstanding is a matter of entries. -/
theorem isEntry_of_touching {effect : Effect} (touching : effect.isNeutral = false) :
    effect.isEntry = true := by
  cases effect with
  | issued | resolved => rfl
  | applied change => cases change with
    | departed => rfl
    | joined | poolTerminated => cases touching
  | log | handled | admitted | queued | sent | ran | answered | linkClosed | brokeDown =>
    cases touching

/-- Without an effect on what is outstanding, no such effect is new. -/
theorem mem_append_of_neutral {history effects : List Effect}
    (neutral : ∀ effect ∈ entries effects, effect.isNeutral = true) (effect : Effect)
    (touching : effect.isNeutral = false) : effect ∈ history ++ effects ↔ effect ∈ history := by
  rw [mem_append_entries (isEntry_of_touching touching), or_iff_left]
  exact fun member => by cases touching.symm.trans (neutral effect member)

/-- **Of the effects on what is outstanding, one is new.** -/
structure Touches (effects : List Effect) (single : Effect) : Prop where
  present : single ∈ entries effects
  alone : ∀ effect ∈ entries effects, effect = single ∨ effect.isNeutral = true

namespace Touches

variable {history effects : List Effect} {single : Effect}

theorem mem_append (touches : Touches effects single) {effect : Effect}
    (touching : effect.isNeutral = false) :
    effect ∈ history ++ effects ↔ effect ∈ history ∨ effect = single := by
  rw [mem_append_entries (isEntry_of_touching touching)]
  refine or_congr_right ⟨fun member => ?_, fun same => same ▸ touches.present⟩
  exact (touches.alone effect member).resolve_right fun neutral => by
    cases touching.symm.trans neutral

theorem mem_append_of_ne (touches : Touches effects single) {effect : Effect}
    (touching : effect.isNeutral = false) (unlike : effect ≠ single) :
    effect ∈ history ++ effects ↔ effect ∈ history :=
  (touches.mem_append touching).trans (or_iff_left unlike)

section Requests

variable {worker : NodeId} {request : RequestId} (other : NodeId) (id : RequestId) (job : JobId)
  (attempt : Nat)

/-- A request that is issued is outstanding besides the others, if its worker has not departed. -/
theorem outstanding_issued {issuedJob : JobId} {issuedAttempt : Nat}
    (touches : Touches effects (.issued request worker issuedJob issuedAttempt))
    (unresolved : .resolved worker request true ∉ history)
    (present : .applied (.departed worker) ∉ history) :
    Outstanding (history ++ effects) other id job attempt ↔
      Outstanding history other id job attempt ∨
        id = request ∧ other = worker ∧ job = issuedJob ∧ attempt = issuedAttempt := by
  have resolutions : ∀ other id, .resolved other id true ∈ history ++ effects ↔
      .resolved other id true ∈ history :=
    fun _ _ => touches.mem_append_of_ne rfl fun same => by cases same
  have departures : ∀ other, .applied (.departed other) ∈ history ++ effects ↔
      .applied (.departed other) ∈ history :=
    fun _ => touches.mem_append_of_ne rfl fun same => by cases same
  constructor
  · rintro ⟨issued, unresolved, present⟩
    rw [resolutions] at unresolved
    rw [departures] at present
    rcases (touches.mem_append rfl).mp issued with old | ⟨⟨⟩⟩
    · exact .inl ⟨old, unresolved, present⟩
    · exact .inr ⟨rfl, rfl, rfl, rfl⟩
  · rintro (⟨issued, unresolved, present⟩ | ⟨rfl, rfl, rfl, rfl⟩)
    · exact ⟨(touches.mem_append rfl).mpr (.inl issued), mt (resolutions ..).mp unresolved,
        mt (departures _).mp present⟩
    · exact ⟨(touches.mem_append rfl).mpr (.inr rfl), mt (resolutions ..).mp unresolved,
        mt (departures _).mp present⟩

/-- A request that is resolved is the only one that is outstanding no longer. -/
theorem outstanding_resolved (touches : Touches effects (.resolved worker request true)) :
    Outstanding (history ++ effects) other id job attempt ↔
      Outstanding history other id job attempt ∧ ¬ (other = worker ∧ id = request) := by
  have issues : .issued id other job attempt ∈ history ++ effects ↔
      .issued id other job attempt ∈ history :=
    touches.mem_append_of_ne rfl fun same => by cases same
  have departures : .applied (.departed other) ∈ history ++ effects ↔
      .applied (.departed other) ∈ history :=
    touches.mem_append_of_ne rfl fun same => by cases same
  constructor
  · rintro ⟨issued, unresolved, present⟩
    rw [touches.mem_append rfl, not_or] at unresolved
    refine ⟨⟨issues.mp issued, unresolved.1, mt departures.mpr present⟩, ?_⟩
    rintro ⟨rfl, rfl⟩
    exact unresolved.2 rfl
  · rintro ⟨⟨issued, unresolved, present⟩, unlike⟩
    refine ⟨issues.mpr issued, ?_, mt departures.mp present⟩
    rw [touches.mem_append rfl, not_or]
    refine ⟨unresolved, ?_⟩
    rintro ⟨⟩
    exact unlike ⟨rfl, rfl⟩

/-- When a departure is applied, the requests of this worker are outstanding no longer. -/
theorem outstanding_departed (touches : Touches effects (.applied (.departed worker))) :
    Outstanding (history ++ effects) other id job attempt ↔
      Outstanding history other id job attempt ∧ other ≠ worker := by
  have issues : .issued id other job attempt ∈ history ++ effects ↔
      .issued id other job attempt ∈ history :=
    touches.mem_append_of_ne rfl fun same => by cases same
  have resolutions : .resolved other id true ∈ history ++ effects ↔
      .resolved other id true ∈ history :=
    touches.mem_append_of_ne rfl fun same => by cases same
  constructor
  · rintro ⟨issued, unresolved, present⟩
    rw [touches.mem_append rfl, not_or] at present
    exact ⟨⟨issues.mp issued, mt resolutions.mpr unresolved, present.1⟩,
      fun own => present.2 (own ▸ rfl)⟩
  · rintro ⟨⟨issued, unresolved, present⟩, unlike⟩
    refine ⟨issues.mpr issued, mt resolutions.mp unresolved, ?_⟩
    rw [touches.mem_append rfl, not_or]
    refine ⟨present, ?_⟩
    rintro ⟨⟩
    exact unlike rfl

end Requests

end Touches

end Effect

namespace Engine

open Effect (Outstanding)

/-- Reported submitters wait no longer, and the others wait as before. -/
theorem get?_without {subscribers : Roster JobId Ticket} {outcomes : List Outcome} {job : JobId}
    {ticket : Ticket} (waits : (without subscribers outcomes).get? job = some ticket) :
    subscribers.get? job = some ticket := by
  rw [(told_all subscribers outcomes).kept] at waits
  split at waits
  · cases waits
  · exact waits

/-! ### The effect on what is outstanding -/

section Singles

variable {engine next : Engine} {effects : List Effect} {worker : NodeId}

theorem Issue.touches {submission : Submission}
    (issue : Issue engine next effects worker submission) : Effect.Touches effects
      (.issued engine.ledger.requestIds.next worker submission.id submission.attempt) := by
  refine ⟨?_, fun effect member => .inl (issue.entered member)⟩
  rw [issue.entries]
  exact List.mem_singleton_self _

theorem Resolution.touches {struck : Request} {before later : List Request} {result : Bytes}
    {failed : Bool} {seconds : Float}
    (resolution : Resolution engine next effects worker struck before later result failed seconds) :
    Effect.Touches effects (.resolved worker struck.id true) := by
  refine ⟨?_, fun effect member => ?_⟩
  · rw [Effect.entries_of_deeds resolution.deeds, Effect.entries_append, List.mem_append]
    exact .inl (List.mem_cons_of_mem _ List.mem_cons_self)
  · rcases resolution.entered member with rfl | same | ⟨_, _, rfl⟩
    · exact .inr rfl
    · exact .inl same
    · exact .inr rfl

theorem Departure.touches {later : List Effect}
    (departure : Departure engine next effects worker later) :
    Effect.Touches effects (.applied (.departed worker)) := by
  refine ⟨Effect.mem_entries.mpr ⟨departure.applied ▸ List.mem_cons_self, rfl⟩,
    fun effect member => (departure.entered member).imp_right fun told => ?_⟩
  rcases departure.told told with ⟨_, _, rfl⟩ | ⟨_, _, _, rfl⟩
  · rfl
  · rfl

end Singles

/-! ### Books and history -/

/-- **The books and the history agree.** -/
structure Booked (history : List Effect) (engine : Engine) : Prop where
  master : engine.scheduler.isMaster = true
  numbered : ∀ request worker job attempt, .issued request worker job attempt ∈ history →
    request < engine.ledger.requestIds.next
  once : ∀ request worker job attempt other job' attempt',
    .issued request worker job attempt ∈ history →
      .issued request other job' attempt' ∈ history → worker = other
  resolved : ∀ worker request, .resolved worker request true ∈ history →
    ∃ job attempt, .issued request worker job attempt ∈ history
  closed : ∀ worker, .applied (.departed worker) ∈ history ↔
    engine.ledger.isDeparted worker = true
  listed : ∀ worker request job attempt, Outstanding history worker request job attempt ↔
    ∃ submission, submission.id = job ∧ submission.attempt = attempt ∧
      ⟨request, submission⟩ ∈ engine.ledger.requests worker
  admitted : ∀ job ticket, engine.subscribers.get? job = some ticket →
    .admitted ticket job ∈ history

theorem booked_create (options : Options) (node : NodeId) (link : Link) :
    (Engine.create options node node link).Booked [] := by
  refine ⟨?_, ?_, ?_, ?_, fun _ => ⟨?_, ?_⟩, fun _ _ _ _ => ⟨?_, ?_⟩, ?_⟩
  · simp [create, Scheduler.create, Scheduler.isMaster]
  · exact fun _ _ _ _ issued => absurd issued List.not_mem_nil
  · exact fun _ _ _ _ _ _ _ issued => absurd issued List.not_mem_nil
  · exact fun _ _ resolved => absurd resolved List.not_mem_nil
  · exact fun applied => absurd applied List.not_mem_nil
  · exact fun departed => by cases departed
  · exact fun outstanding => absurd outstanding.issued List.not_mem_nil
  · rintro ⟨_, _, _, member⟩
    cases member
  · exact fun _ _ waits => by cases waits

/-- A request of the ledger is outstanding. -/
theorem Booked.outstanding {history : List Effect} {engine : Engine}
    (booked : engine.Booked history) {worker : NodeId} {request : Request}
    (member : request ∈ engine.ledger.requests worker) :
    Outstanding history worker request.id request.submission.id request.submission.attempt :=
  (booked.listed ..).mpr ⟨request.submission, rfl, rfl, member⟩

section Entries

variable {history effects : List Effect} {engine next : Engine}

/-- A submitter who still waits was admitted before. -/
private theorem Booked.still_admitted (booked : engine.Booked history)
    (fewer : ∀ job ticket, next.subscribers.get? job = some ticket →
      engine.subscribers.get? job = some ticket) (effects : List Effect) :
    ∀ job ticket, next.subscribers.get? job = some ticket →
      .admitted ticket job ∈ history ++ effects :=
  fun job ticket waits => List.mem_append_left effects (booked.admitted job ticket
    (fewer job ticket waits))

/-- Entries that concern no request leave the requests as they are. -/
private theorem Booked.neutral (booked : engine.Booked history)
    (master : next.scheduler.isMaster = true)
    (requests : next.ledger.requests = engine.ledger.requests)
    (closed : next.ledger.isDeparted = engine.ledger.isDeparted)
    (ids : next.ledger.requestIds = engine.ledger.requestIds)
    (added : ∀ effect : Effect, effect.isNeutral = false →
      (effect ∈ history ++ effects ↔ effect ∈ history))
    (admitted : ∀ job ticket, next.subscribers.get? job = some ticket →
      .admitted ticket job ∈ history ++ effects) : next.Booked (history ++ effects) := by
  refine ⟨master, ?_, ?_, ?_, ?_, ?_, admitted⟩
  · intro request worker job attempt issued
    rw [ids]
    exact booked.numbered request worker job attempt ((added _ rfl).mp issued)
  · intro request worker job attempt other job' attempt' first second
    exact booked.once request worker job attempt other job' attempt'
      ((added _ rfl).mp first) ((added _ rfl).mp second)
  · intro worker request resolved
    obtain ⟨job, attempt, issued⟩ := booked.resolved worker request ((added _ rfl).mp resolved)
    exact ⟨job, attempt, List.mem_append_left effects issued⟩
  · intro worker
    rw [added _ rfl, closed]
    exact booked.closed worker
  · intro worker request job attempt
    rw [requests, ← booked.listed]
    constructor
    · rintro ⟨issued, unresolved, present⟩
      rw [added _ rfl] at issued unresolved present
      exact ⟨issued, unresolved, present⟩
    · rintro ⟨issued, unresolved, present⟩
      rw [← added _ rfl] at issued unresolved present
      exact ⟨issued, unresolved, present⟩

/-- **An issued request is new and outstanding.** -/
private theorem Booked.issues (booked : engine.Booked history)
    (master : next.scheduler.isMaster = true) {worker : NodeId} {submission : Submission}
    (issue : Issue engine next effects worker submission) : next.Booked (history ++ effects) := by
  have touches := issue.touches
  have unissued : ∀ worker job attempt,
      .issued engine.ledger.requestIds.next worker job attempt ∉ history :=
    fun worker job attempt issued => Nat.lt_irrefl _ (booked.numbered _ worker job attempt issued)
  have unresolved : .resolved worker engine.ledger.requestIds.next true ∉ history := by
    intro resolved
    obtain ⟨job, attempt, issued⟩ := booked.resolved _ _ resolved
    exact unissued _ _ _ issued
  have present : .applied (.departed worker) ∉ history := by
    rw [booked.closed, issue.registered]
    exact Bool.false_ne_true
  refine ⟨master, ?_, ?_, ?_, ?_, ?_, ?_⟩
  · intro request other job attempt issued
    rw [issue.ids]
    rcases (touches.mem_append rfl).mp issued with old | ⟨⟨⟩⟩
    · exact Nat.lt_succ_of_lt (booked.numbered request other job attempt old)
    · exact Nat.lt_succ_self _
  · intro request other job attempt third job' attempt' first second
    rcases (touches.mem_append rfl).mp first with old | ⟨⟨⟩⟩
    · rcases (touches.mem_append rfl).mp second with older | ⟨⟨⟩⟩
      · exact booked.once request other job attempt third job' attempt' old older
      · exact (unissued _ _ _ old).elim
    · rcases (touches.mem_append rfl).mp second with older | ⟨⟨⟩⟩
      · exact (unissued _ _ _ older).elim
      · rfl
  · intro other request resolved
    rw [touches.mem_append_of_ne rfl fun same => by cases same] at resolved
    obtain ⟨job, attempt, issued⟩ := booked.resolved other request resolved
    exact ⟨job, attempt, List.mem_append_left effects issued⟩
  · intro other
    rw [touches.mem_append_of_ne rfl (fun same => by cases same), issue.closed]
    exact booked.closed other
  · intro other request job attempt
    rw [touches.outstanding_issued _ _ _ _ unresolved present, booked.listed, issue.requests]
    by_cases own : other = worker
    · subst own
      simp only [if_pos, List.mem_append, List.mem_singleton, Request.mk.injEq, true_and]
      constructor
      · rintro (⟨old, same, number, member⟩ | ⟨rfl, rfl, rfl⟩)
        · exact ⟨old, same, number, .inl member⟩
        · exact ⟨submission, rfl, rfl, .inr ⟨rfl, rfl⟩⟩
      · rintro ⟨found, rfl, rfl, member | ⟨rfl, rfl⟩⟩
        · exact .inl ⟨found, rfl, rfl, member⟩
        · exact .inr ⟨rfl, rfl, rfl⟩
    · simp only [if_neg own]
      exact or_iff_left fun same => own same.2.1
  · rw [issue.waiting]
    exact booked.still_admitted (fun _ _ => id) effects

/-- What remains of the requests of a worker when one of them is struck. -/
theorem mem_remaining {before later : List Request} {struck request : Request}
    (distinct : ((before ++ struck :: later).map Request.id).Nodup) :
    request ∈ before ++ later ↔
      request ∈ before ++ struck :: later ∧ request.id ≠ struck.id := by
  rw [List.map_append, List.map_cons, List.perm_middle.nodup_iff, List.nodup_cons,
    ← List.map_append] at distinct
  rw [List.perm_middle.mem_iff, List.mem_cons]
  constructor
  · exact fun member => ⟨.inr member, fun same =>
      distinct.1 (List.mem_map.mpr ⟨request, member, same⟩)⟩
  · rintro ⟨rfl | member, unlike⟩
    · exact (unlike rfl).elim
    · exact member

/-- **A resolved request is outstanding no longer.** -/
private theorem Booked.resolves (booked : engine.Booked history) (sound : engine.ledger.Sound)
    (master : next.scheduler.isMaster = true) {worker : NodeId} {struck : Request}
    {before later : List Request} {result : Bytes} {failed : Bool} {seconds : Float}
    (resolution :
      Resolution engine next effects worker struck before later result failed seconds) :
    next.Booked (history ++ effects) := by
  have touches := resolution.touches
  have issues : ∀ request other job attempt,
      .issued request other job attempt ∈ history ++ effects ↔
        .issued request other job attempt ∈ history :=
    fun _ _ _ _ => touches.mem_append_of_ne rfl fun same => by cases same
  have listed := resolution.listed
  have fewer : ∀ job ticket, next.subscribers.get? job = some ticket →
      engine.subscribers.get? job = some ticket := by
    intro job ticket waits
    rw [resolution.waiting, Roster.get?_erase] at waits
    split at waits
    · cases waits
    · exact waits
  have member : struck ∈ engine.ledger.requests worker := by
    rw [listed]
    exact List.mem_append_right before List.mem_cons_self
  have distinct := sound.nodup_requests worker
  rw [listed] at distinct
  refine ⟨master, ?_, ?_, ?_, ?_, ?_, booked.still_admitted fewer effects⟩
  · intro request other job attempt issued
    rw [issues] at issued
    rw [resolution.ids]
    exact booked.numbered request other job attempt issued
  · intro request other job attempt third job' attempt' first second
    rw [issues] at first second
    exact booked.once request other job attempt third job' attempt' first second
  · intro other request resolved
    rcases (touches.mem_append rfl).mp resolved with old | ⟨⟨⟩⟩
    · obtain ⟨job, attempt, issued⟩ := booked.resolved other request old
      exact ⟨job, attempt, List.mem_append_left effects issued⟩
    · exact ⟨_, _, List.mem_append_left effects (booked.outstanding member).issued⟩
  · intro other
    rw [touches.mem_append_of_ne rfl (fun same => by cases same), resolution.closed]
    exact booked.closed other
  · intro other request job attempt
    rw [touches.outstanding_resolved, booked.listed, resolution.requests]
    by_cases own : other = worker
    · subst own
      simp only [if_pos, true_and, listed, mem_remaining distinct]
      constructor
      · rintro ⟨⟨submission, same, number, inside⟩, unlike⟩
        exact ⟨submission, same, number, inside, unlike⟩
      · rintro ⟨submission, same, number, inside, unlike⟩
        exact ⟨⟨submission, same, number, inside⟩, unlike⟩
    · simp only [if_neg own]
      exact and_iff_left fun same => own same.1

/-- **Nothing is outstanding on a worker whose departure is applied.** -/
private theorem Booked.departs (booked : engine.Booked history)
    (master : next.scheduler.isMaster = true) {worker : NodeId} {later : List Effect}
    (departure : Departure engine next effects worker later) :
    next.Booked (history ++ effects) := by
  have touches := departure.touches
  have issues : ∀ request other job attempt,
      .issued request other job attempt ∈ history ++ effects ↔
        .issued request other job attempt ∈ history :=
    fun _ _ _ _ => touches.mem_append_of_ne rfl fun same => by cases same
  have fewer : ∀ job ticket, next.subscribers.get? job = some ticket →
      engine.subscribers.get? job = some ticket := by
    rw [departure.waiting]
    exact fun _ _ => get?_without
  refine ⟨master, ?_, ?_, ?_, ?_, ?_, booked.still_admitted fewer effects⟩
  · intro request other job attempt issued
    rw [issues] at issued
    rw [departure.ids]
    exact booked.numbered request other job attempt issued
  · intro request other job attempt third job' attempt' first second
    rw [issues] at first second
    exact booked.once request other job attempt third job' attempt' first second
  · intro other request resolved
    rw [touches.mem_append_of_ne rfl fun same => by cases same] at resolved
    obtain ⟨job, attempt, issued⟩ := booked.resolved other request resolved
    exact ⟨job, attempt, List.mem_append_left effects issued⟩
  · intro other
    rw [touches.mem_append rfl, departure.closed, booked.closed]
    by_cases own : other = worker <;> simp [own]
  · intro other request job attempt
    rw [touches.outstanding_departed, booked.listed, departure.requests]
    by_cases own : other = worker <;> simp [own]

end Entries

/-- **Every entry keeps the books in agreement with the history.** -/
theorem Booked.booking {history effects : List Effect} {engine next : Engine}
    (booked : engine.Booked history) (sound : engine.ledger.Sound)
    (booking : Booking engine next effects) : next.Booked (history ++ effects) := by
  obtain ⟨_, master, entry⟩ := booking
  cases entry with
  | idle idle =>
    exact booked.neutral master idle.requests idle.closed idle.ids
      (Effect.mem_append_of_neutral fun effect member => (idle.entered member).elim)
      (booked.still_admitted idle.waiting effects)
  | admits admission =>
    have ledger := admission.ledger
    refine booked.neutral master (by rw [ledger]) (by rw [ledger]) (by rw [ledger])
      (Effect.mem_append_of_neutral fun effect member => ?_) fun other told waits => ?_
    · rcases admission.entered member with rfl | rfl
      · rfl
      · rfl
    · rw [admission.waiting, Roster.get?_insert] at waits
      split at waits
      next same =>
        cases waits
        rw [Effect.mem_append_entries rfl, Effect.entries_of_deeds admission.deeds, same]
        exact .inr (List.mem_cons_of_mem _ List.mem_cons_self)
      next => exact List.mem_append_left effects (booked.admitted other told waits)
  | issues issue => exact booked.issues master issue
  | resolves resolution => exact booked.resolves sound master resolution
  | misses miss =>
    have ledger := miss.ledger
    refine booked.neutral master (by rw [ledger]) (by rw [ledger]) (by rw [ledger])
      (Effect.mem_append_of_neutral fun effect member => ?_)
      (booked.still_admitted (miss.waiting ▸ fun _ _ => id) effects)
    rcases miss.entered member with rfl | rfl
    · rfl
    · rfl
  | departs departure => exact booked.departs master departure

end Engine

namespace Session

/-- The books of the session of a master. -/
structure Sound (history : List Effect) (session : Session) : Prop where
  kept : session.Kept history
  booked : session.engine.Booked history

theorem Sound.turn {history : List Effect} {session : Session} {act : Act Session}
    (sound : Sound history session) (turn : Turn session act) :
    Sound (history ++ act.effects) act.value :=
  ⟨sound.kept.turn turn, sound.booked.booking sound.kept.1.ledger
    (turn.booking sound.kept.1 sound.booked.master).1⟩

theorem sound_create (options : Options) (node : NodeId) (link : Link) :
    Sound [] (create options node node link) :=
  ⟨kept_create options node node link, Engine.booked_create options node link⟩

/-- A run passes through a session after a history. -/
def Passes (start : Session) (whole : Act Session) (history : List Effect) (session : Session) :
    Prop :=
  Chain.Passes Turn start whole history session

/-- **The books agree with the history in every state that the run of a master passes through.** -/
theorem Sound.of_passes {options : Options} {node : NodeId} {link : Link} {whole : Act Session}
    {history : List Effect} {session : Session}
    (passes : Passes (create options node node link) whole history session) :
    Sound history session :=
  passes.reached.keeps Sound.turn (sound_create options node link)

/-- **The turn that an entry in the history of a master comes from**, with the history and the
session before it. -/
structure Origin (start : Session) (whole : Act Session) (before : List Effect) (effect : Effect)
    (after : List Effect) where
  history : List Effect
  session : Session
  act : Act Session
  early : List Effect
  late : List Effect
  passes : Passes start whole history session
  follows : Passes start whole (history ++ act.effects) act.value
  sound : Sound history session
  alive : session.engine.isGone = false
  entry : Engine.Entry session.engine act.value.engine act.effects
  moved : act.value = { session with engine := act.value.engine }
  own : act.effects = early ++ effect :: late
  entered : effect ∈ Effect.entries act.effects
  begins : before = history ++ early
  ends : late <+: after

/-- **Every entry in the history of a master comes from one of its turns.** -/
theorem exists_origin (options : Options) (node : NodeId) (link : Link) (stimuli : List Stimulus)
    {before after : List Effect} {effect : Effect}
    (split : ((create options node node link).run stimuli).effects = before ++ effect :: after)
    (entry : effect.isEntry = true) :
    Nonempty (Origin (create options node node link) ((create options node node link).run stimuli)
      before effect after) := by
  have chain := chain_create options node node link stimuli
  obtain ⟨history, session, act, early, late, passes, turn, follows, own, begins, ends⟩ :=
    chain.exists_step split
  have sound := Sound.of_passes passes
  obtain ⟨booking, moves⟩ := turn.booking sound.kept.1 sound.booked.master
  have entered : effect ∈ Effect.entries act.effects := by
    rw [Effect.mem_entries, own]
    exact ⟨List.mem_append_right early List.mem_cons_self, entry⟩
  obtain ⟨alive, moved⟩ := moves (List.ne_nil_of_mem entered)
  exact ⟨history, session, act, early, late, passes, follows, sound, alive, booking.entry, moved,
    own, entered, begins, ends⟩

section Origins

variable {start : Session} {whole : Act Session} {before after : List Effect} {effect : Effect}

/-- The deeds of the turn of an entry, around it. -/
theorem Origin.deeds (origin : Origin start whole before effect after)
    (entry : effect.isEntry = true) : Effect.deeds origin.act.effects =
      Effect.deeds origin.early ++ effect :: Effect.deeds origin.late := by
  rw [origin.own, Effect.deeds_append, Effect.deeds_cons, Effect.isLog_of_isEntry entry]
  rfl

/-- The entries of the turn of an entry, around it. -/
theorem Origin.entries (origin : Origin start whole before effect after)
    (entry : effect.isEntry = true) : Effect.entries origin.act.effects =
      Effect.entries origin.early ++ effect :: Effect.entries origin.late := by
  rw [origin.own, Effect.entries_append, Effect.entries, Effect.entries, Effect.entries,
    List.filter_cons_of_pos entry]

/-- The deeds before an entry are those before its turn and some of the turn. -/
theorem Origin.deeds_before (origin : Origin start whole before effect after) :
    Effect.deeds before = Effect.deeds origin.history ++ Effect.deeds origin.early := by
  refine (congrArg Effect.deeds origin.begins).trans ?_
  rw [Effect.deeds_append]

/-- The turn of an entry starts with it. -/
theorem Origin.history_eq (origin : Origin start whole before effect after)
    (first : origin.early = []) : origin.history = before := by
  have begins := origin.begins
  rw [first, List.append_nil] at begins
  exact begins.symm

/-- A turn that issues a request makes no other entry, so the entries before it are those before its
turn. -/
theorem Origin.issue {request : RequestId} {worker : NodeId} {job : JobId} {attempt : Nat}
    (origin : Origin start whole before (.issued request worker job attempt) after) :
    ∃ submission, Engine.Issue origin.session.engine origin.act.value.engine origin.act.effects
        worker submission ∧
      Effect.entries before = Effect.entries origin.history ∧
      submission.id = job ∧ submission.attempt = attempt := by
  obtain ⟨submission, issue, _, named, number⟩ := origin.entry.issued origin.entered
  refine ⟨submission, issue, ?_, named, number⟩
  have entries := origin.entries rfl
  rw [issue.entries] at entries
  refine (congrArg Effect.entries origin.begins).trans ?_
  cases early : Effect.entries origin.early with
  | nil => rw [Effect.entries_append, early, List.append_nil]
  | cons _ _ => simp [early] at entries

end Origins

end Session

end JobPool
