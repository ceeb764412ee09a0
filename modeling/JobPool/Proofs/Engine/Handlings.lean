/-
**An engine in the hands of its owner.**

Besides everything that can reach it, the owner of an engine can shut it down directly, before its
run or in place of one, and as often as he likes. An owner can also drive an engine by hand, pass by
pass; such an engine has begun and does not start any more.

* `Session.Handling`, `handle`, `handleAll` — everything that can be done with an engine;
* `Session.Stride` — the turns of a session, and the steps that only its owner makes;
* `chain_handle`, `chain_owned` — a handling and all handlings of a new engine are chains of
  strides;
* `passes_handled` — the states between two handlings.
-/

import JobPool.Proofs.Engine.Outward
import JobPool.Proofs.Engine.Sessions

namespace JobPool.Session

/-! ### Handlings -/

/-- What can be done with an engine. -/
inductive Handling where
  | meet (stimulus : Stimulus)
  /-- The engine is shut down directly. -/
  | shutdown

/-- The session of an engine that is driven by hand. -/
def begun (session : Session) : Session :=
  if session.engine.stage = .created then
    { session with engine := { session.engine with stage := .passing } }
  else session

/-- The session after a handling. Nobody can shut down an engine in the middle of a pass. -/
def handle (session : Session) : Handling → Act Session
  | .meet .pass => session.begun.perform .pass
  | .meet stimulus => session.perform stimulus
  | .shutdown =>
    if session.engine.isGone || session.engine.stage = .holding then pure session
    else session.change session.engine.shutdown

/-- The session after a sequence of handlings. -/
def handleAll (session : Session) (handlings : List Handling) : Act Session :=
  handlings.foldlM handle session

/-! ### Strides -/

/-- A new engine has no reason to stop as long as it has its link. -/
def Fresh (session : Session) : Prop :=
  session.engine.stage = .created →
    session.engine.stopReason = none ∨ session.engine.linked = false

/-- **One stride of a session**: a turn, or a step of its owner. -/
inductive Stride : Session → Act Session → Prop
  | turn {session : Session} {act : Act Session} (fresh : session.Fresh)
      (turn : Turn session act) : Stride session act
  | begin {session : Session} (created : session.engine.stage = .created) :
      Stride session (pure { session with engine := { session.engine with stage := .passing } })
  | shutdown {session : Session} (alive : session.engine.isGone = false) :
      Stride session (session.change session.engine.shutdown)

/-- A new engine and one that holds a pass have nothing to stop for. -/
structure Handy (session : Session) : Prop where
  poised : session.engine.Poised
  fresh : session.Fresh

/-- An engine that has begun stays so. -/
private theorem stage_move {engine : Engine} {act : Act Engine} (move : Engine.Move engine act)
    (begun : engine.stage ≠ .created) : act.value.stage ≠ .created := by
  cases move with
  | start created => exact (begun created).elim
  | @accept event rest alive arrived => rwa [(Engine.steady_accept _ event).stage]
  | cutOff alive => exact begun
  | measure alive => exact begun
  | @handle message rest alive => rwa [(Engine.steady_handle _ message).stage]
  | @depart node rest alive => rwa [(Engine.steady_depart _ node).stage]
  | @arrive node rest alive => rwa [(Engine.steady_arrive _ node).stage]
  | dispatch alive => rwa [(Engine.steady_dispatch engine).stage]
  | @run request rest alive => rwa [(Engine.steady_execute _ request).stage]
  | @turn stage effects alive ongoing silent =>
    rcases ongoing with rfl | rfl | ⟨rfl, _⟩
    all_goals nofun
  | finish alive => nofun
  | conclude alive => nofun
  | @breakDown cause alive =>
    rw [(engine.breakDown_eq cause alive).1]
    nofun

private theorem stage_turn {session : Session} {act : Act Session} (turn : Turn session act)
    (begun : session.engine.stage ≠ .created) : act.value.engine.stage ≠ .created := by
  cases turn with
  | move move => exact stage_move move begun
  | surround | post | submit | drop | dismiss => exact begun

/-- The turns of an engine that has begun are strides. -/
private theorem chain_begun {session : Session} {act : Act Session}
    (chain : Chain Turn session act) (begun : session.engine.stage ≠ .created) :
    Chain Stride session act ∧ act.value.engine.stage ≠ .created :=
  @Chain.guarded _ _ _ _ _ (fun session => session.engine.stage ≠ .created) Stride
    (fun begun turn => stage_turn turn begun)
    (fun begun turn => .turn (fun created => (begun created).elim) turn) chain begun

/-- A stimulus that meets an engine that has begun. -/
private theorem chain_perform_begun (session : Session) (stimulus : Stimulus)
    (poised : session.engine.Poised) (begun : session.engine.stage ≠ .created) :
    Chain Stride session (session.perform stimulus) ∧
      (session.perform stimulus).value.Handy := by
  obtain ⟨chain, still⟩ := session.chain_perform stimulus poised
  obtain ⟨strides, later⟩ := chain_begun chain begun
  exact ⟨strides, still, fun created => (later created).elim⟩

/-- A stimulus that meets a new engine, other than a pass. -/
private theorem chain_perform_created (session : Session) (stimulus : Stimulus)
    (handy : session.Handy) (created : session.engine.stage = .created)
    (other : stimulus ≠ .pass) :
    Chain Stride session (session.perform stimulus) ∧
      (session.perform stimulus).value.Handy := by
  have alive : session.engine.isGone = false := by rw [Engine.isGone, created]
  have still := (session.chain_perform stimulus handy.poised).2
  have posted : ∀ event, (session.engine.post event) =
      pure { session.engine with mailbox := session.engine.mailbox ++ [event] } := by
    intro event
    rcases session.engine.post_cases event with ⟨_, posted⟩ | ⟨gone, _⟩
    · exact posted
    · cases alive.symm.trans gone
  cases stimulus with
  | submit job input =>
    refine ⟨.single (.turn handy.fresh (session.turn_submit job input)), still, ?_⟩
    rw [perform, posted]
    exact handy.fresh
  | endSubmissions | deliver | announce | shutdown =>
    refine ⟨.single (.turn handy.fresh (session.turn_post _ rfl)), still, ?_⟩
    rw [perform, posted]
    exact handy.fresh
  | relink | disconnect | abandonTicket =>
    exact ⟨.single (.turn handy.fresh .surround), still, handy.fresh⟩
  | pass => exact (other rfl).elim
  | advance gateOpen =>
    have starts : session.perform (.advance gateOpen) = session.change session.engine.start := by
      rw [perform, Engine.advance, Engine.step?, created]
      rfl
    rw [starts] at still ⊢
    refine ⟨.single (.turn handy.fresh (.move (.start created))), still, fun new => ?_⟩
    cases session.engine.stage_start.symm.trans new
  | timeOut =>
    have idle : session.perform .timeOut = pure session := by
      rw [perform, Engine.timeOut, created]
      rfl
    rw [idle]
    exact ⟨.refl session, handy⟩

/-- **A handling is a chain of strides.** -/
theorem chain_handle (session : Session) (handling : Handling) (handy : session.Handy) :
    Chain Stride session (session.handle handling) ∧ (session.handle handling).value.Handy := by
  cases handling with
  | shutdown =>
    rw [handle]
    split
    · exact ⟨.refl session, handy⟩
    next free =>
      rw [Bool.or_eq_true, not_or, Bool.not_eq_true, decide_eq_true_eq] at free
      refine ⟨.single (.shutdown free.1), ?_, ?_⟩
      · rcases session.engine.shutdown_cases with ⟨_, value, _⟩ | ⟨_, same⟩
        · rw [change, value]
          exact fun holding => (free.2 holding).elim
        · rw [same]
          exact handy.poised
      · rcases session.engine.shutdown_cases with ⟨_, value, _⟩ | ⟨_, same⟩
        · rw [change, value]
          exact fun _ => .inr rfl
        · rw [same]
          exact handy.fresh
  | meet stimulus =>
    by_cases driven : stimulus = .pass
    · subst driven
      rw [handle, begun]
      split
      next created =>
        obtain ⟨chain, still⟩ := chain_perform_begun
          { session with engine := { session.engine with stage := .passing } } .pass
          (fun holding => by cases holding) (fun new => by cases new)
        have begins := Stride.begin created
        exact ⟨(Chain.single begins).trans chain, still⟩
      next begun => exact session.chain_perform_begun .pass handy.poised begun
    have plain : session.handle (.meet stimulus) = session.perform stimulus := by
      cases stimulus with
      | pass => exact (driven rfl).elim
      | _ => rfl
    rw [plain]
    by_cases created : session.engine.stage = .created
    · exact session.chain_perform_created stimulus handy created driven
    · exact session.chain_perform_begun stimulus handy.poised created

/-! ### All handlings of a new engine -/

theorem handy_create (options : Options) (node master : NodeId) (link : Link) :
    (create options node master link).Handy :=
  ⟨nofun, fun _ => .inl rfl⟩

theorem chain_handled (session : Session) (handy : session.Handy)
    (handlings : List Handling) :
    Chain Stride session (session.handleAll handlings) ∧
      (session.handleAll handlings).value.Handy :=
  Traced.chain_foldlM handle handlings
    (fun state handling _ handy => state.chain_handle handling handy) session handy

section Owned

variable (options : Options) (node master : NodeId) (link : Link)

/-- **All handlings of a new engine are a chain of strides.** -/
theorem chain_owned (handlings : List Handling) :
    Chain Stride (create options node master link)
      ((create options node master link).handleAll handlings) :=
  (chain_handled _ (handy_create options node master link) handlings).1

/-- Handlings after one another. -/
theorem handleAll_append (session : Session) (earlier later : List Handling) :
    session.handleAll (earlier ++ later) =
      ⟨((session.handleAll earlier).value.handleAll later).value,
        (session.handleAll earlier).effects ++
          ((session.handleAll earlier).value.handleAll later).effects⟩ := by
  rw [handleAll, List.foldlM_append]
  rfl

/-- **The handlings of a new engine pass through the state after each of them.** -/
theorem passes_handled (earlier later : List Handling) :
    Chain.Passes Stride (create options node master link)
      ((create options node master link).handleAll (earlier ++ later))
      ((create options node master link).handleAll earlier).effects
      ((create options node master link).handleAll earlier).value := by
  obtain ⟨reached, handy⟩ := chain_handled _ (handy_create options node master link) earlier
  exact ⟨reached, _, (chain_handled _ handy later).1, handleAll_append _ earlier later⟩

end Owned

end JobPool.Session
