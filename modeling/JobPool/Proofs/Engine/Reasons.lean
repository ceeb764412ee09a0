/-
**Why an engine stops.**

The reason to stop is that of the first accepted event that asks for one. Only without such an event
does an engine find a reason by itself: nobody can send events any more, nothing is left to do, or
its owner shuts it down.

* `firstCause`, `stopReason_accept_all` — the reason among some events, and accepting all of them;
* `Engine.Heeds` — an engine has accepted some events of its mailbox in the order of their arrival,
  and has taken its reason from them or found one;
* `heeds_tick`, `heeds_advance`, `heeds_timeOut` — passes, steps of a run and waits that end;
* `Session.takes`, `Session.posts`, `heeds_handle` — the events that a handling accepts and adds;
* `posted_eq` — all events are accepted in the order of their arrival;
* `Session.StopOrigin`, `origin` — the handling that gives an engine its reason to stop.
-/

import JobPool.Proofs.Engine.Closing

namespace JobPool

namespace Engine

/-! ### Accepting events -/

/-- The reason to stop that the first of some events gives to the engine of a node. -/
def firstCause (node : NodeId) (events : List Event) : Option StopReason :=
  events.findSome? (stopCause? node)

theorem firstCause_append (node : NodeId) (first second : List Event) :
    firstCause node (first ++ second) = (firstCause node first).or (firstCause node second) :=
  List.findSome?_append

theorem firstCause_singleton (node : NodeId) (event : Event) :
    firstCause node [event] = stopCause? node event := by
  rw [firstCause, List.findSome?_singleton]

/-- **Accepting events takes the reason of the first of them that asks to stop.** -/
theorem stopReason_accept_all (engine : Engine) (events : List Event) :
    (events.foldlM accept engine).value.stopReason =
      engine.stopReason.or (firstCause engine.node events) := by
  induction events generalizing engine with
  | nil => exact (Option.or_none).symm
  | cons event rest hypothesis =>
    rw [List.foldlM_cons, Traced.value_bind, hypothesis, stopReason_accept,
      (steady_accept engine event).node, Option.or_assoc, ← firstCause_singleton,
      ← firstCause_append, List.singleton_append]

/-! ### The parts of a step -/

/-- An engine has accepted the first events of its mailbox, and may then have seen that nobody can
send more. -/
structure Took (before : Engine) (events : List Event) (cut : Bool) (after : Engine) : Prop where
  mailbox : before.mailbox = events ++ after.mailbox
  severed : cut = true → before.connected = false ∧ after.mailbox = []
  reason : after.stopReason = (before.stopReason.or (firstCause before.node events)).or
    (if cut then some .disconnected else none)

section Parts

variable {before middle after : Engine} {events : List Event} {cut : Bool}

theorem Took.none (engine : Engine) : engine.Took [] false engine :=
  ⟨rfl, nofun, by rw [firstCause, List.findSome?_nil, Option.or_none]; exact (Option.or_none).symm⟩

/-- What leaves the mailbox and the reason alone accepts nothing more. -/
theorem Took.same (took : before.Took events cut middle) (mailbox : after.mailbox = middle.mailbox)
    (reason : after.stopReason = middle.stopReason) : before.Took events cut after :=
  ⟨mailbox ▸ took.mailbox, mailbox ▸ took.severed, reason.trans took.reason⟩

theorem took_accept {engine : Engine} {event : Event} {rest : List Event}
    (arrived : engine.mailbox = event :: rest) :
    engine.Took [event] false ({ engine with mailbox := rest }.accept event).value := by
  have mailbox := (accept_arrivals { engine with mailbox := rest } event).mailbox
  refine ⟨?_, nofun, ?_⟩
  · rw [mailbox, arrived]
    rfl
  · rw [stopReason_accept, firstCause_singleton]
    exact (Option.or_none).symm

/-- The engine notices that nobody can send events any more. -/
theorem took_disconnected {engine : Engine} (empty : engine.mailbox = [])
    (disconnected : engine.connected = false) :
    engine.Took [] true (engine.requestStop .disconnected) := by
  refine ⟨rfl, fun _ => ⟨disconnected, empty⟩, ?_⟩
  rw [firstCause, List.findSome?_nil, Option.or_none]
  rfl

/-- **A pass first accepts its whole mailbox.** -/
theorem took_receive (engine : Engine) :
    engine.Took engine.mailbox (!engine.connected) engine.receive.value.1 := by
  have arrivals := accept_all_arrivals { engine with mailbox := [] } engine.mailbox
  have heard := stopReason_accept_all { engine with mailbox := [] } engine.mailbox
  rw [engine.receive_eq.1]
  generalize (engine.mailbox.foldlM accept { engine with mailbox := [] }).value = accepted
    at arrivals heard
  have connected : accepted.connected = engine.connected := arrivals.connected
  have mailbox : accepted.mailbox = [] := arrivals.mailbox
  -- The messages that are handled next leave the mailbox and the reason to stop alone.
  have handled := handle_all_same accepted.severed.measured accepted.severed.inbound
  have took : engine.Took engine.mailbox (!engine.connected) accepted.severed := by
    unfold severed
    rw [connected]
    cases joined : engine.connected with
    | true => exact ⟨by rw [if_pos rfl, mailbox, List.append_nil], nofun,
        heard.trans (Option.or_none).symm⟩
    | false =>
      refine ⟨?_, fun _ => ⟨joined, mailbox⟩, congrArg (·.or (some .disconnected)) heard⟩
      change engine.mailbox = engine.mailbox ++ accepted.mailbox
      rw [mailbox, List.append_nil]
  exact took.same handled.mailbox handled.stopReason

theorem took_beginPass (engine : Engine) :
    engine.Took engine.mailbox (!engine.connected) engine.beginPass.value.1 := by
  have received := engine.took_receive
  unfold beginPass
  rw [Traced.value_bind]
  generalize engine.receive.value = first at received
  obtain ⟨state, more⟩ := first
  dsimp only
  split
  · exact received
  · have applied := state.applyMembership_same
    have dispatched := state.applyMembership.value.1.dispatch_same
    exact received.same (dispatched.mailbox.trans applied.mailbox)
      (dispatched.stopReason.trans applied.stopReason)

/-- **A pass accepts its whole mailbox** and does not look at the reason to stop any further. -/
theorem took_tick (engine : Engine) :
    engine.Took engine.mailbox (!engine.connected) engine.tick.value.1 := by
  have begun := engine.took_beginPass
  unfold tick
  rw [Traced.value_bind]
  generalize engine.beginPass.value = first at begun
  obtain ⟨state, more⟩ := first
  dsimp only
  split
  · exact begun
  · have ran := state.runOne_same
    exact begun.same ran.mailbox ran.stopReason

/-- What follows a pass or a wait: the engine goes on as it is, or it ends; then it finds a reason
to stop if it has none. -/
structure Ends (middle after : Engine) : Prop where
  mailbox : after.isGone = false → after.mailbox = middle.mailbox
  reason : after.stopReason = middle.stopReason ∨ middle.stopReason = none ∧
    after.shouldStop = true ∧ after.stopReason = some after.naturalReason

theorem Ends.refl (engine : Engine) : engine.Ends engine := ⟨fun _ => rfl, .inl rfl⟩

/-- The end of a run leaves what there was to do as it is. -/
private theorem shouldStop_finish (engine : Engine) :
    engine.finish.value.shouldStop = engine.shouldStop ∧
      engine.finish.value.naturalReason = engine.naturalReason := by
  rw [engine.finish_cases.1]
  rcases engine.shutdown_cases with ⟨_, value, _⟩ | ⟨_, same⟩
  · rw [value]
    exact ⟨rfl, rfl⟩
  · rw [same]
    exact ⟨rfl, rfl⟩

private theorem ends_finish {engine : Engine} {reason : StopReason}
    (stated : engine.stopReason = some reason) : engine.Ends engine.finish.value :=
  ⟨nofun, .inl ((engine.course_finish.kept reason stated).trans stated.symm)⟩

theorem ends_conclude (engine : Engine) (progress : Bool) :
    engine.Ends (engine.conclude progress).value := by
  unfold conclude stopIfDone
  split
  · exact ⟨fun _ => rfl, .inl rfl⟩
  cases stated : engine.stopReason with
  | some reason =>
    have still : (if engine.shouldStop then engine.requestStop engine.naturalReason else engine) =
        engine := by
      rw [requestStop_of_stopped engine _ (by rw [stated, Option.isSome_some]), ite_self]
    simp only [still, stated, Option.isSome_some, if_true]
    exact ends_finish stated
  | none =>
    -- Only here the engine finds a reason, and it keeps the state that it has found it in.
    by_cases done : engine.shouldStop = true
    · have found : (engine.requestStop engine.naturalReason).stopReason =
          some engine.naturalReason := by
        rw [requestStop, stated, Option.none_or]
      obtain ⟨idle, natural⟩ := (engine.requestStop engine.naturalReason).shouldStop_finish
      simp only [if_pos done, found, Option.isSome_some, if_true]
      refine ⟨fun alive => (Bool.false_ne_true alive.symm).elim,
        .inr ⟨stated, idle.trans done, ?_⟩⟩
      rw [natural]
      exact (course_finish _).kept _ found
    · simp only [if_neg done, stated, Option.isSome_none, Bool.false_eq_true, if_false]
      exact ⟨fun _ => rfl, .inl stated.symm⟩

theorem ends_endWait (engine : Engine) (waited : Duration) (alive : engine.isGone = false) :
    engine.Ends (engine.endWait waited).value := by
  unfold endWait
  split
  next fault _ =>
    rw [(engine.breakDown_eq (.unmeasurable fault) alive).1]
    exact ⟨nofun, .inl rfl⟩
  next => exact engine.ends_conclude true

/-! ### Steps -/

/-- What an engine finds to stop for by itself, after it has accepted some events. -/
inductive Finds (before : Engine) (events : List Event) (after : Engine) : StopReason → Prop
  /-- Nobody can send events any more, and none is left. -/
  | disconnected (disconnected : before.connected = false) (drained : events = before.mailbox) :
      Finds before events after .disconnected
  /-- Nothing is left to do. -/
  | done (done : after.shouldStop = true) : Finds before events after after.naturalReason

/-- **An engine has accepted the first events of its mailbox.** Its reason to stop is the one that
it had, else that of the first event that gives one, else one that it has found. -/
structure Heeds (before : Engine) (events : List Event) (after : Engine) : Prop where
  arrivals : ∃ left, before.mailbox = events ++ left ∧
    (after.isGone = false → after.mailbox = left)
  reason : let heard := before.stopReason.or (firstCause before.node events)
    after.stopReason = heard ∨ heard = none ∧
      ∃ reason, after.stopReason = some reason ∧ Finds before events after reason

/-- A part that accepts events, and what follows it. -/
theorem Took.heeds (took : before.Took events cut middle) (ends : middle.Ends after) :
    before.Heeds events after := by
  refine ⟨⟨middle.mailbox, took.mailbox, ends.mailbox⟩, ?_⟩
  intro heard
  have reason := took.reason
  change middle.stopReason = heard.or _ at reason
  rcases ends.reason with same | ⟨running, done, found⟩
  · rw [same, reason]
    cases known : heard with
    | some stated => exact .inl (Option.some_or ..)
    | none =>
      rw [Option.none_or]
      cases cut with
      | false => exact .inl rfl
      | true =>
        obtain ⟨disconnected, empty⟩ := took.severed rfl
        refine .inr ⟨rfl, .disconnected, rfl, .disconnected disconnected ?_⟩
        rw [took.mailbox, empty, List.append_nil]
  · rw [running] at reason
    exact .inr ⟨(Option.or_eq_none_iff.mp reason.symm).1, _, found, .done done⟩

theorem heeds_tick (engine : Engine) : engine.Heeds engine.mailbox engine.tick.value.1 :=
  engine.took_tick.heeds (.refl _)

/-- The events that the next step of a run accepts: a pass takes all that have arrived, and a wait
the first of them. -/
def nextEvents (engine : Engine) : List Event :=
  match engine.stage with
  | .passing => if engine.stopReason.isSome then [] else engine.mailbox
  | .waiting => engine.mailbox.take 1
  | .created | .holding | .finished | .discarded => []

private theorem heeds_pass (engine : Engine) (gateOpen : Bool) :
    engine.Heeds (if engine.stopReason.isSome then [] else engine.mailbox)
      (engine.pass gateOpen).value := by
  unfold pass
  split
  · exact (Took.none engine).heeds (engine.ends_conclude false)
  have begun := engine.took_beginPass
  rw [Traced.value_bind]
  generalize engine.beginPass.value = first at begun
  obtain ⟨state, progress⟩ := first
  dsimp only at begun ⊢
  split
  · exact begun.heeds (state.ends_conclude progress)
  split
  · exact begun.heeds ⟨fun _ => rfl, .inl rfl⟩
  · have ran := state.runOne_same
    exact (begun.same ran.mailbox ran.stopReason).heeds (ends_conclude _ _)

/-- **A step of a run heeds the events that it accepts.** -/
theorem heeds_advance (engine : Engine) (gateOpen : Bool) :
    engine.Heeds engine.nextEvents (engine.advance gateOpen).value := by
  rw [advance, step?, nextEvents]
  cases stage : engine.stage with
  | created =>
    refine (Took.none engine).heeds ?_
    dsimp only
    rw [Option.getD_some, value_start]
    exact ⟨fun _ => rfl, .inl rfl⟩
  | passing => exact engine.heeds_pass gateOpen
  | holding =>
    cases gateOpen with
    | true =>
      have ran := engine.runOne_same
      exact ((Took.none engine).same ran.mailbox ran.stopReason).heeds (ends_conclude _ _)
    | false => exact (Took.none engine).heeds (.refl _)
  | waiting =>
    have alive : engine.isGone = false := by rw [isGone, stage]
    cases arrived : engine.mailbox with
    | cons event rest =>
      have accepted := took_accept arrived
      have steady := steady_accept { engine with mailbox := rest } event
      dsimp only
      rw [← stage]
      exact accepted.heeds (ends_endWait _ {} (steady.isGone.trans alive))
    | nil =>
      cases connected : engine.connected with
      | true => exact (Took.none engine).heeds (.refl _)
      | false => exact (took_disconnected arrived connected).heeds (ends_endWait _ {} alive)
  | finished | discarded => exact (Took.none engine).heeds (.refl _)

/-- A wait that ends without an event accepts none. -/
theorem heeds_timeOut (engine : Engine) : engine.Heeds [] engine.timeOut.value := by
  unfold timeOut
  split
  next waiting =>
    exact (Took.none engine).heeds (engine.ends_endWait _ (by rw [isGone, waiting]))
  next => exact (Took.none engine).heeds (.refl _)

end Parts

end Engine

namespace Session

/-! ### Handlings -/

/-- The events that the engine accepts in a handling. -/
def takes (session : Session) : Handling → List Event
  | .meet .pass =>
    if session.engine.isGone || session.engine.stage = .holding then [] else session.engine.mailbox
  | .meet (.advance _) => session.engine.nextEvents
  | _ => []

/-- The events that a handling sends to the engine. -/
def posts (session : Session) : Handling → List Event
  | .meet (.submit job input) => [.submit session.submissions job input]
  | .meet .endSubmissions => [.endSubmissions]
  | .meet (.deliver message) => [.message message]
  | .meet (.announce change) => [.membership change]
  | .meet .shutdown => [.shutdown]
  | _ => []

/-- What an engine finds to stop for in a handling, other than an event. -/
inductive Finds (before after : Session) : Handling → StopReason → Prop
  | itself {stimulus : Stimulus} {reason : StopReason}
      (found : before.engine.Finds (before.takes (.meet stimulus)) after.engine reason) :
      Finds before after (.meet stimulus) reason
  /-- Its owner shuts it down. -/
  | shutdown : Finds before after .shutdown .shutdownRequested

/-- **An engine heeds the events that it accepts in a handling.** -/
structure Heeds (before : Session) (handling : Handling) (after : Session) : Prop where
  arrivals : ∃ left, before.engine.mailbox ++ before.posts handling =
    before.takes handling ++ left ∧ (after.engine.isGone = false → after.engine.mailbox = left)
  reason :
    let causes := Engine.firstCause before.engine.node (before.takes handling)
    let heard := before.engine.stopReason.or causes
    after.engine.stopReason = heard ∨ heard = none ∧
      ∃ reason, after.engine.stopReason = some reason ∧ Finds before after handling reason

section Heeding

variable {session after : Session} {handling : Handling} {stimulus : Stimulus}

/-- A handling in which the engine accepts no event, and only the mailbox may grow. -/
private theorem heeds_quiet (posted : after.engine.isGone = false →
      after.engine.mailbox = session.engine.mailbox ++ session.posts handling)
    (untaken : session.takes handling = [])
    (same : after.engine.stopReason = session.engine.stopReason) :
    session.Heeds handling after := by
  refine ⟨⟨_, by rw [untaken]; rfl, posted⟩, .inl ?_⟩
  rw [untaken, Engine.firstCause, List.findSome?_nil, Option.or_none]
  exact same

/-- A handling in which the engine does something and no event is sent to it. -/
private theorem heeds_engine (unsent : session.posts (.meet stimulus) = [])
    (heeds : session.engine.Heeds (session.takes (.meet stimulus)) after.engine) :
    session.Heeds (.meet stimulus) after := by
  refine ⟨?_, heeds.reason.imp_right fun ⟨unheard, reason, stated, found⟩ =>
    ⟨unheard, reason, stated, .itself found⟩⟩
  rw [unsent, List.append_nil]
  exact heeds.arrivals

private theorem heeds_post (event : Event) (sent : session.posts handling = [event])
    (untaken : session.takes handling = [])
    (posted : after.engine = (session.engine.post event).value) : session.Heeds handling after := by
  rcases session.engine.post_cases event with ⟨_, posts⟩ | ⟨gone, kept, _⟩
  · rw [posts] at posted
    refine heeds_quiet (fun _ => ?_) untaken ?_
    · rw [posted, sent]
      rfl
    · rw [posted]
      rfl
  · rw [kept] at posted
    refine heeds_quiet (fun alive => ?_) untaken ?_
    · rw [posted, gone] at alive
      cases alive
    · rw [posted]

private theorem heeds_pass (session : Session) :
    session.Heeds (.meet .pass) (session.handle (.meet .pass)).value := by
  refine heeds_engine rfl ?_
  rw [handle, begun, takes]
  by_cases created : session.engine.stage = .created
  · have alive : session.engine.isGone = false := by rw [Engine.isGone, created]
    have free : ¬(session.engine.isGone || session.engine.stage = .holding) = true := by
      rw [alive, created]
      decide
    rw [if_pos created, if_neg free]
    obtain ⟨arrivals, reason⟩ := Engine.heeds_tick { session.engine with stage := .passing }
    refine ⟨arrivals, ?_⟩
    rcases reason with same | ⟨unheard, reason, stated, found⟩
    · exact .inl same
    · refine .inr ⟨unheard, reason, stated, ?_⟩
      cases found with
      | disconnected disconnected drained => exact .disconnected disconnected drained
      | done done => exact .done done
  · rw [if_neg created, perform]
    split
    · exact (Engine.Took.none _).heeds (.refl _)
    · exact session.engine.heeds_tick

private theorem heeds_shutdown (session : Session) :
    session.Heeds .shutdown (session.handle .shutdown).value := by
  rw [handle]
  split
  · exact heeds_quiet (fun _ => (List.append_nil _).symm) rfl rfl
  rcases session.engine.shutdown_cases with ⟨_, value, _⟩ | ⟨_, same⟩
  · rw [change, value]
    cases stated : session.engine.stopReason with
    | some reason =>
      refine heeds_quiet (fun _ => (List.append_nil _).symm) rfl ?_
      change session.engine.stopReason.or (some .shutdownRequested) = session.engine.stopReason
      rw [stated, Option.some_or]
    | none =>
      refine ⟨⟨_, rfl, fun _ => (List.append_nil _).symm⟩,
        .inr ⟨?_, .shutdownRequested, ?_, .shutdown⟩⟩
      · rw [stated]
        rfl
      · change session.engine.stopReason.or (some .shutdownRequested) = some .shutdownRequested
        rw [stated, Option.none_or]
  · rw [same]
    exact heeds_quiet (fun _ => (List.append_nil _).symm) rfl rfl

/-- **Every handling heeds the events that the engine accepts in it.** -/
theorem heeds_handle (session : Session) (handling : Handling) :
    session.Heeds handling (session.handle handling).value := by
  cases handling with
  | shutdown => exact session.heeds_shutdown
  | meet stimulus =>
    cases stimulus with
    | submit | endSubmissions | deliver | announce | shutdown => exact heeds_post _ rfl rfl rfl
    | relink | disconnect | abandonTicket =>
      exact heeds_quiet (fun _ => (List.append_nil _).symm) rfl rfl
    | pass => exact session.heeds_pass
    | advance gateOpen => exact heeds_engine rfl (session.engine.heeds_advance gateOpen)
    | timeOut => exact heeds_engine rfl session.engine.heeds_timeOut

end Heeding

/-! ### All handlings -/

/-- Some events of every handling, one handling after the other. -/
def along (events : Session → Handling → List Event) (session : Session) :
    List Handling → List Event
  | [] => []
  | handling :: rest =>
    events session handling ++ along events (session.handle handling).value rest

/-- The events that the engine accepts, in their order. -/
def accepted (session : Session) (handlings : List Handling) : List Event :=
  session.along takes handlings

/-- The events that are sent to the engine, in their order. -/
def posted (session : Session) (handlings : List Handling) : List Event :=
  session.along posts handlings

section Along

variable {session : Session}

theorem along_append (events : Session → Handling → List Event) (session : Session)
    (earlier later : List Handling) :
    session.along events (earlier ++ later) =
      session.along events earlier ++ (session.handleAll earlier).value.along events later := by
  induction earlier generalizing session with
  | nil => rfl
  | cons handling rest hypothesis =>
    rw [List.cons_append, along, along, hypothesis, List.append_assoc]
    rfl

private theorem takes_of_gone (gone : session.engine.isGone = true) (handling : Handling) :
    session.takes handling = [] := by
  cases handling with
  | shutdown => rfl
  | meet stimulus =>
    cases stimulus with
    | submit | endSubmissions | deliver | announce | shutdown | relink | disconnect | abandonTicket
    | timeOut => rfl
    | pass => rw [takes, gone, Bool.true_or, if_pos rfl]
    | advance gateOpen =>
      rw [takes, Engine.nextEvents]
      rw [Engine.isGone] at gone
      cases stage : session.engine.stage with
      | passing | waiting =>
        rw [stage] at gone
        cases gone
      | created | holding | finished | discarded => rfl

private theorem handy_of_gone (gone : session.engine.isGone = true) : session.Handy := by
  refine ⟨fun holding => ?_, fun created => ?_⟩
  · rw [Engine.isGone, holding] at gone
    cases gone
  · rw [Engine.isGone, created] at gone
    cases gone

/-- An engine that is gone accepts nothing more. -/
theorem accepted_of_gone (gone : session.engine.isGone = true) (handlings : List Handling) :
    session.accepted handlings = [] := by
  induction handlings generalizing session with
  | nil => rfl
  | cons handling rest hypothesis =>
    have still := isGone_chain (session.chain_handle handling (handy_of_gone gone)).1 gone
    rw [accepted, along, takes_of_gone gone]
    exact hypothesis still

/-- **The events are accepted in the order in which they were sent.** Only an engine that is gone
leaves some of them out. -/
theorem posted_eq (handy : session.Handy) (handlings : List Handling) :
    ∃ left, session.engine.mailbox ++ session.posted handlings =
        session.accepted handlings ++ left ∧
      ((session.handleAll handlings).value.engine.isGone = false →
        (session.handleAll handlings).value.engine.mailbox = left) := by
  induction handlings generalizing session with
  | nil => exact ⟨_, List.append_nil _, fun _ => rfl⟩
  | cons handling rest hypothesis =>
    obtain ⟨left, split, kept⟩ := (session.heeds_handle handling).arrivals
    have next := (session.chain_handle handling handy).2
    rw [posted, accepted, along, along, ← List.append_assoc, split]
    cases gone : (session.handle handling).value.engine.isGone with
    | false =>
      obtain ⟨later, whole, still⟩ := hypothesis next
      refine ⟨later, ?_, still⟩
      rw [kept gone] at whole
      rw [List.append_assoc, List.append_assoc]
      exact congrArg _ whole
    | true =>
      have unheard := accepted_of_gone gone rest
      refine ⟨left ++ (session.handle handling).value.posted rest, ?_, fun alive => ?_⟩
      · rw [accepted] at unheard
        rw [unheard, List.append_nil, List.append_assoc]
        rfl
      · have still := isGone_chain (chain_handled _ next rest).1 gone
        cases still.symm.trans alive

/-! ### The reason to stop -/

/-- Without a reason to stop no accepted event has asked for one. -/
theorem firstCause_accepted (handy : session.Handy) (handlings : List Handling)
    (running : (session.handleAll handlings).value.engine.stopReason = none) :
    Engine.firstCause session.engine.node (session.accepted handlings) = none := by
  induction handlings generalizing session with
  | nil => rfl
  | cons handling rest hypothesis =>
    obtain ⟨chain, next⟩ := session.chain_handle handling handy
    have before : (session.handle handling).value.engine.stopReason = none := by
      cases stated : (session.handle handling).value.engine.stopReason with
      | none => rfl
      | some reason =>
        have still := (chain_settled (chain_handled _ next rest).1 stated).1
        cases still.symm.trans running
    have later := hypothesis next running
    rw [node_chain chain] at later
    rw [accepted, along, Engine.firstCause_append]
    refine Option.or_eq_none_iff.mpr ⟨?_, later⟩
    rcases (session.heeds_handle handling).reason with same | ⟨unheard, _⟩
    · exact (Option.or_eq_none_iff.mp (same.symm.trans before)).2
    · exact (Option.or_eq_none_iff.mp unheard).2

/-- **The handling that gives an engine its reason to stop.** Before it there is none. The reason is
that of the first event accepted until then that asks the engine to stop; only if there is no such
event the engine has found it. -/
structure StopOrigin (session : Session) (earlier : List Handling) (handling : Handling)
    (reason : StopReason) : Prop where
  before : (session.handleAll earlier).value.engine.stopReason = none
  after : (session.handleAll (earlier ++ [handling])).value.engine.stopReason = some reason
  cause :
    let heard := Engine.firstCause session.engine.node (session.accepted (earlier ++ [handling]))
    heard = some reason ∨ heard = none ∧
      Finds (session.handleAll earlier).value
        (session.handleAll (earlier ++ [handling])).value handling reason

/-- A reason to stop is given by one of the handlings. -/
private theorem exists_turning (handy : session.Handy) {handlings : List Handling}
    {reason : StopReason} (running : session.engine.stopReason = none)
    (stated : (session.handleAll handlings).value.engine.stopReason = some reason) :
    ∃ earlier handling later, handlings = earlier ++ handling :: later ∧
      (session.handleAll earlier).value.engine.stopReason = none ∧
      (session.handleAll (earlier ++ [handling])).value.engine.stopReason = some reason := by
  induction handlings generalizing session with
  | nil => cases running.symm.trans stated
  | cons handling rest hypothesis =>
    have next := (session.chain_handle handling handy).2
    cases found : (session.handle handling).value.engine.stopReason with
    | none =>
      obtain ⟨earlier, turning, later, rfl, before, after⟩ := hypothesis next found stated
      exact ⟨handling :: earlier, turning, later, rfl, before, after⟩
    | some first =>
      have still := (chain_settled (chain_handled _ next rest).1 found).1
      cases still.symm.trans stated
      exact ⟨[], handling, rest, rfl, running, found⟩

/-- **A reason to stop has an origin.** -/
theorem origin (handy : session.Handy) {handlings : List Handling} {reason : StopReason}
    (running : session.engine.stopReason = none)
    (stated : (session.handleAll handlings).value.engine.stopReason = some reason) :
    ∃ earlier handling later, handlings = earlier ++ handling :: later ∧
      session.StopOrigin earlier handling reason := by
  obtain ⟨earlier, handling, later, rfl, before, after⟩ := exists_turning handy running stated
  refine ⟨earlier, handling, later, rfl, before, after, ?_⟩
  have unheard := firstCause_accepted handy earlier before
  have same := node_chain (chain_handled session handy earlier).1
  obtain ⟨_, heeds⟩ := (session.handleAll earlier).value.heeds_handle handling
  have last : (session.handleAll (earlier ++ [handling])).value =
      ((session.handleAll earlier).value.handle handling).value := by
    rw [handleAll_append]
    rfl
  rw [last] at after ⊢
  rw [accepted, along_append, Engine.firstCause_append, ← accepted, unheard, Option.none_or, along,
    along, List.append_nil, ← same]
  dsimp only at heeds
  rw [before, Option.none_or, after] at heeds
  refine heeds.imp Eq.symm fun ⟨unheard, _, found, finds⟩ => ⟨unheard, ?_⟩
  cases found
  exact finds

end Along

end Session

end JobPool
