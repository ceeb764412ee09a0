/-
**How messages are delivered in a pool.**

What the link of a node accepts waits there in order, and is delivered or lost one message at a
time: lost is a message between two nodes of which one is not a member. So a mailbox gets some of
the messages that were accepted for it, in order. A node that leaves by itself leaves after its last
message, so nothing of what it sent to a member is lost, and the departure comes last.

* `Carriage.flow` — what an action does to the messages from one node to another;
* `Bracketed` — messages come after the join of their sender and before its departure;
* `Complete` — nothing was lost, and the sender left with an empty link;
* `messages_delivered` — the messages in the mailboxes after any sequence of actions.
-/

import JobPool.Proofs.Pool.Views

namespace JobPool.Pool

/-- The messages to or from a node, among some with their other ends. -/
def payloads (node : NodeId) (letters : List Letter) : List Payload :=
  letters.filterMap fun letter => if letter.1 = node then some letter.2 else none

/-- The messages from a node, among some events. -/
def received (source : NodeId) (events : List Event) : List Payload :=
  payloads source (events.filterMap Engine.letter?)

/-- The messages that the link of one node accepted for another. -/
def sent (source destination : NodeId) (effects : List PoolEffect) : List Payload :=
  payloads destination (accepted source effects)

/-- The messages that wait on the link of one node for another. -/
def waiting (pool : Pool) (source destination : NodeId) : List Payload :=
  payloads destination (pool.view source Station.outbound)

@[simp] theorem payloads_append (node : NodeId) (first second : List Letter) :
    payloads node (first ++ second) = payloads node first ++ payloads node second :=
  List.filterMap_append

@[simp] theorem received_append (source : NodeId) (first second : List Event) :
    received source (first ++ second) = received source first ++ received source second := by
  rw [received, List.filterMap_append, payloads_append]
  rfl

@[simp] theorem sent_append (source destination : NodeId) (first second : List PoolEffect) :
    sent source destination (first ++ second) =
      sent source destination first ++ sent source destination second := by
  rw [sent, accepted_append, payloads_append]
  rfl

/-- A message from a node is received at some place. -/
theorem split_of_mem_received {source : NodeId} {payload : Payload} {events : List Event}
    (member : payload ∈ received source events) :
    ∃ early late, events = early ++ .message ⟨source, payload⟩ :: late := by
  obtain ⟨⟨other, body⟩, letter, own⟩ := List.mem_filterMap.mp member
  obtain ⟨event, inside, brings⟩ := List.mem_filterMap.mp letter
  by_cases here : other = source
  · rw [if_pos here] at own
    cases event with
    | message message =>
      cases brings
      cases own
      subst here
      exact List.append_of_mem inside
    | membership _ | submit _ _ _ | endSubmissions | shutdown => cases brings
  · rw [if_neg here] at own
    cases own

/-- The news of a node are the joins and departures in its mail. -/
theorem mem_news {node : NodeId} {effects : List PoolEffect} {change : MembershipEvent} :
    change ∈ news node effects ↔
      .membership change ∈ mail node effects ∧ change ≠ .poolTerminated := by
  rw [news, List.mem_filterMap]
  constructor
  · rintro ⟨event, inside, tells⟩
    cases event with
    | membership told => cases told <;> cases tells <;> exact ⟨inside, fun same => by cases same⟩
    | message _ | submit _ _ _ | endSubmissions | shutdown => cases tells
  · rintro ⟨inside, plain⟩
    refine ⟨_, inside, ?_⟩
    cases change with
    | joined _ | departed _ => rfl
    | poolTerminated => exact (plain rfl).elim

/-! ### One action -/

section Carriages

variable {pool : Pool} {act : PoolAct Pool}

/-- **What an action does to the messages from one node to another**: those that waited and those
that are sent are lost, received or wait. Only between two nodes that are not both members a message
is lost. -/
theorem Carriage.flow (carriage : pool.Carriage act) (source destination : NodeId) :
    ∃ lost, pool.waiting source destination ++ sent source destination act.effects =
        lost ++ (received source (mail destination act.effects) ++
          act.value.waiting source destination) ∧
      (lost ≠ [] → (source ∉ pool.members ∨ destination ∉ pool.members) ∧
        pool.waiting source destination ≠ []) := by
  cases carriage with
  | waits waiting unread silent =>
    refine ⟨[], ?_, fun some => (some rfl).elim⟩
    rw [received, show (mail destination act.effects).filterMap Engine.letter? = [] from
      unread destination, Pool.waiting, Pool.waiting, waiting, payloads_append]
    rfl
  | @delivers sender receiver payload _ _ waiting delivered unsent =>
    refine ⟨[], ?_, fun some => (some rfl).elim⟩
    rw [sent, unsent, delivered, Pool.waiting, Pool.waiting, waiting source, payloads_append]
    by_cases own : source = sender
    · by_cases meant : destination = receiver
      · simp [own, meant, payloads, received, Engine.letter?]
      · simp [own, meant, payloads, received, Ne.symm meant]
    · by_cases meant : destination = receiver
      · simp [own, meant, payloads, received, Engine.letter?, Ne.symm own]
      · simp [own, meant, payloads, received]
  | @loses sender receiver payload out waiting undelivered unsent =>
    rw [sent, unsent, undelivered, Pool.waiting, Pool.waiting, waiting source, payloads_append]
    refine ⟨payloads destination (if source = sender then [(receiver, payload)] else []), ?_, ?_⟩
    · simp [payloads, received]
    · intro some
      by_cases own : source = sender
      · by_cases meant : destination = receiver
        · subst own meant
          exact ⟨out, by simp [payloads]⟩
        · simp [own, payloads, Ne.symm meant] at some
      · simp [own, payloads] at some

/-- A message is delivered alone, between two members. -/
private theorem Carriage.message (carriage : pool.Carriage act) {node source : NodeId}
    {payload : Payload} {early late : List Event}
    (split : mail node act.effects = early ++ .message ⟨source, payload⟩ :: late) :
    early = [] ∧ source ∈ pool.members ∧ node ∈ pool.members := by
  cases carriage with
  | waits _ unread _ =>
    have none := unread node
    rw [letters, split, List.filterMap_append] at none
    cases (List.append_eq_nil_iff.mp none).2
  | @delivers sender receiver payload here there _ delivered _ =>
    rw [delivered] at split
    by_cases own : node = receiver
    · rw [if_pos own] at split
      cases early with
      | nil =>
        cases split
        exact ⟨rfl, here, own ▸ there⟩
      | cons _ _ => simp at split
    · rw [if_neg own] at split
      simp at split
  | loses _ _ undelivered _ =>
    rw [undelivered] at split
    simp at split

/-- A node with a spent link sends nothing. -/
private theorem Carriage.sent_of_spent (carriage : pool.Carriage act) (wired : pool.Wired true)
    {source : NodeId} (spent : pool.Spent source) (destination : NodeId) :
    sent source destination act.effects = [] := by
  obtain ⟨station, present, closed, _⟩ := spent
  have unsent : accepted source act.effects = [] := by
    cases carriage with
    | waits _ _ silent =>
      exact silent source station present ((wired.fitted source station present).closed closed)
    | delivers _ _ _ _ unsent => exact unsent source
    | loses _ _ _ unsent => exact unsent source
  rw [sent, unsent]
  rfl

end Carriages

/-! ### Between the join and the departure of the sender -/

/-- **Every message stands after the join of its sender and before any departure of it.** -/
def Bracketed (history : List PoolEffect) : Prop :=
  ∀ node source payload early late,
    mail node history = early ++ .message ⟨source, payload⟩ :: late →
    .membership (.joined source) ∈ early ∧ .membership (.departed source) ∉ early

theorem Bracketed.carriage {history : List PoolEffect} {pool : Pool} {act : PoolAct Pool}
    (bracketed : Bracketed history) (informed : Informed history pool)
    (carriage : pool.Carriage act) : Bracketed (history ++ act.effects) := by
  intro node source payload early late split
  rw [mail_append] at split
  rcases split_append split with ⟨between, before, _⟩ | ⟨between, now, rfl⟩
  · exact bracketed node source payload early between before
  · obtain ⟨rfl, sender, receiver⟩ := carriage.message now
    obtain ⟨joined, undeparted⟩ := informed.acquainted receiver sender
    rw [List.append_nil]
    exact ⟨(mem_news.mp joined).1, fun gone => undeparted (mem_news.mpr ⟨gone, nofun⟩)⟩

/-! ### In order and without repetition -/

/-- What was received and what waits, of what was sent. -/
theorem sublist_carriage {history : List PoolEffect} {pool : Pool} {act : PoolAct Pool}
    {source destination : NodeId}
    (before : (received source (mail destination history) ++
      pool.waiting source destination).Sublist (sent source destination history))
    (carriage : pool.Carriage act) :
    (received source (mail destination (history ++ act.effects)) ++
      act.value.waiting source destination).Sublist
        (sent source destination (history ++ act.effects)) := by
  obtain ⟨lost, flow, _⟩ := carriage.flow source destination
  have later : (received source (mail destination act.effects) ++
      act.value.waiting source destination).Sublist
      (pool.waiting source destination ++ sent source destination act.effects) := by
    rw [flow]
    exact List.sublist_append_right ..
  rw [mail_append, received_append, sent_append, List.append_assoc]
  refine (later.append_left _).trans ?_
  rw [← List.append_assoc]
  exact before.append_right _

/-! ### Without loss -/

/-- A node leaves only by itself: as long as it is a member it is not killed, and the pool is not
terminated. -/
def Unforced (actions : List Action) (node : NodeId) : Prop :=
  ∀ earlier action later, actions = earlier ++ action :: later →
    node ∈ (performAll {} earlier).value.members → action ≠ .kill node ∧ action ≠ .terminate

/-- The receiver is a member from the first message that the sender has for it until the sender has
left. -/
def Attended (actions : List Action) (source destination : NodeId) : Prop :=
  ∀ earlier, earlier <+: actions → source ∈ (performAll {} earlier).value.members →
    sent source destination (performAll {} earlier).effects ≠ [] →
    destination ∈ (performAll {} earlier).value.members

/-- **Nothing was lost on the way from one node to another**, and once the sender has left, its link
is empty for good and the receiver has heard of the departure. -/
structure Complete (source destination : NodeId) (history : List PoolEffect) (pool : Pool) :
    Prop where
  whole : received source (mail destination history) ++ pool.waiting source destination =
    sent source destination history
  left : pool.Departed source → pool.Spent source ∧
    (destination ≠ source → sent source destination history ≠ [] →
      .departed source ∈ news destination history)

section Completeness

variable {source destination : NodeId} {history : List PoolEffect} {pool : Pool}

theorem complete_empty (source destination : NodeId) : Complete source destination [] {} :=
  ⟨rfl, fun ⟨_, there⟩ => by cases there⟩

/-- No message is lost from a member to a member, and there is none of a node that has left. -/
private theorem Complete.unlost (complete : Complete source destination history pool)
    {act : PoolAct Pool} (carriage : pool.Carriage act)
    (attended : source ∈ pool.members → sent source destination history ≠ [] →
      destination ∈ pool.members) :
    pool.waiting source destination ++ sent source destination act.effects =
      received source (mail destination act.effects) ++ act.value.waiting source destination := by
  obtain ⟨lost, flow, out⟩ := carriage.flow source destination
  by_cases none : lost = []
  · rw [none] at flow
    exact flow
  · obtain ⟨out, some⟩ := out none
    by_cases member : source ∈ pool.members
    · have sending : sent source destination history ≠ [] := by
        rw [← complete.whole]
        exact fun empty => some (List.append_eq_nil_iff.mp empty).2
      rcases out with out | out
      · exact (out member).elim
      · exact (out (attended member sending)).elim
    · cases present : pool.stations.get? source with
      | none =>
        rw [waiting, view_of_absent present] at some
        exact (some rfl).elim
      | some station =>
        obtain ⟨_, there, _, empty⟩ :=
          (complete.left ⟨member, Option.isSome_of_eq_some present⟩).1
        rw [waiting, view_of_get? there, empty] at some
        exact (some rfl).elim

/-- A member that nobody forces out leaves with a spent link, and the other members hear of it. -/
private theorem Turnover.left {action : Action} {act : PoolAct Pool}
    (turnover : pool.Turnover action act) (member : source ∈ pool.members)
    (out : source ∉ act.value.members) (unforced : action ≠ .kill source ∧ action ≠ .terminate) :
    pool.Spent source ∧ ∀ other ∈ pool.members, other ≠ source →
      .departed source ∈ news other act.effects := by
  cases turnover with
  | stays alike _ _ => exact (out (alike.members ▸ member)).elim
  | joins _ members _ _ => exact (out (members ▸ List.mem_append_left _ member)).elim
  | @parts _ _ node _ _ cause members _ _ told =>
    by_cases own : node = source
    · subst own
      rcases cause with ⟨_, spent, _⟩ | ⟨killed, _⟩
      · refine ⟨spent, fun other stays unlike => ?_⟩
        rw [told, if_neg unlike, if_pos stays]
        exact List.mem_singleton_self _
      · exact (unforced.1 killed).elim
    · exact (out (members ▸ (List.mem_erase_of_ne (Ne.symm own)).mpr member)).elim
  | ends _ _ _ _ => exact (unforced.2 rfl).elim

/-- A node that has left and was no member before had left before. -/
private theorem Turnover.departed_before {action : Action} {act : PoolAct Pool}
    (turnover : pool.Turnover action act) (out : source ∉ pool.members)
    (departed : act.value.Departed source) : pool.Departed source := by
  refine ⟨out, ?_⟩
  have there := departed.2
  cases turnover with
  | stays alike _ _ => exact alike.nodes source ▸ there
  | joins _ members nodes _ =>
    rcases nodes source there with rfl | known
    · exact (departed.1 (members ▸ List.mem_append_right _ List.mem_cons_self)).elim
    · exact known
  | parts _ _ _ nodes _ _ => exact nodes source ▸ there
  | ends _ nodes _ _ => exact nodes source ▸ there

/-- **Every action keeps everything that a node sent on its way**, as long as nobody forces the node
out and the receiver stays. -/
theorem Complete.perform (complete : Complete source destination history pool) (ready : pool.Ready)
    (wired : pool.Wired true) (action : Action)
    (unforced : source ∈ pool.members → action ≠ .kill source ∧ action ≠ .terminate)
    (attended : source ∈ pool.members → sent source destination history ≠ [] →
      destination ∈ pool.members) :
    Complete source destination (history ++ (pool.perform action).effects)
      (pool.perform action).value := by
  obtain ⟨turnover, carriage⟩ := changes_perform ready action
  refine ⟨?_, fun departed => ?_⟩
  · rw [mail_append, received_append, sent_append, List.append_assoc,
      ← complete.unlost carriage attended, ← List.append_assoc, complete.whole]
  · -- The node has left just now, and by itself, or it had left before.
    obtain ⟨spent, told⟩ : pool.Spent source ∧ (destination ≠ source →
        sent source destination history ≠ [] →
        .departed source ∈ news destination (history ++ (pool.perform action).effects)) := by
      rw [news_append]
      by_cases member : source ∈ pool.members
      · obtain ⟨spent, told⟩ := turnover.left member departed.1 (unforced member)
        exact ⟨spent, fun other sending =>
          List.mem_append_right _ (told destination (attended member sending) other)⟩
      · obtain ⟨spent, told⟩ := complete.left (turnover.departed_before member departed)
        exact ⟨spent, fun other sending => List.mem_append_left _ (told other sending)⟩
    refine ⟨spent.perform wired ready action, fun other sending => ?_⟩
    rw [sent_append, carriage.sent_of_spent wired spent, List.append_nil] at sending
    exact told other sending

end Completeness

/-! ### Sequences of actions -/

/-- A node that leaves only by itself has lost nothing, whatever the others do. -/
theorem complete_performAll {source destination : NodeId} (actions : List Action)
    (unforced : Unforced actions source) (attended : Attended actions source destination) :
    Complete source destination (performAll {} actions).effects (performAll {} actions).value := by
  induction actions using List.reverseRecOn with
  | nil => exact complete_empty source destination
  | append_singleton actions action hypothesis =>
    have before := hypothesis
      (fun earlier other later split => unforced earlier other (later ++ [action])
        (by rw [split, List.append_assoc, List.cons_append]))
      fun earlier first => attended earlier (first.trans (List.prefix_append ..))
    rw [performAll_concat]
    exact before.perform (ready_performAll ready_empty actions) (wired_performAll actions) action
      (unforced actions action [] rfl) (attended actions (List.prefix_append ..))

theorem bracketed_performAll (actions : List Action) :
    Bracketed (performAll {} actions).effects := by
  induction actions using List.reverseRecOn with
  | nil =>
    intro node source payload early late split
    cases early <;> cases split
  | append_singleton actions action hypothesis =>
    rw [performAll_concat]
    exact hypothesis.carriage (informed_performAll actions)
      (changes_perform (ready_performAll ready_empty actions) action).2

theorem sublist_performAll (source destination : NodeId) (actions : List Action) :
    (received source (mail destination (performAll {} actions).effects) ++
      (performAll {} actions).value.waiting source destination).Sublist
        (sent source destination (performAll {} actions).effects) := by
  induction actions using List.reverseRecOn with
  | nil => exact List.Sublist.refl []
  | append_singleton actions action hypothesis =>
    rw [performAll_concat]
    exact sublist_carriage hypothesis
      (changes_perform (ready_performAll ready_empty actions) action).2

/-- **Messages are delivered in order, and between the join and the departure of their sender.**
Whatever is launched, left, killed, terminated, sent and carried in a pool, and in which order:
every message in a mailbox stands after the join of its sender and before any departure of it, and
the messages from one node are some of those that its link accepted for the receiver, in the order
of sending and each once. A sender that has left by itself, while the receiver was a member from its
first message on, has lost nothing: the mailbox holds all messages that the link accepted, and all
of them stand before the departure. -/
theorem messages_delivered (actions : List Action) :
    let act := performAll {} actions
    (∀ node source payload early late,
      mail node act.effects = early ++ .message ⟨source, payload⟩ :: late →
      .membership (.joined source) ∈ early ∧ .membership (.departed source) ∉ early) ∧
    ∀ source destination,
      (received source (mail destination act.effects)).Sublist
        (sent source destination act.effects) ∧
      (Unforced actions source → Attended actions source destination →
        act.value.Departed source →
        received source (mail destination act.effects) = sent source destination act.effects ∧
        (destination ≠ source → sent source destination act.effects ≠ [] →
          ∃ early late, mail destination act.effects =
              early ++ .membership (.departed source) :: late ∧
            received source early = sent source destination act.effects)) := by
  intro act
  have bracketed := bracketed_performAll actions
  refine ⟨bracketed, fun source destination => ⟨?_, ?_⟩⟩
  · exact (List.sublist_append_left ..).trans (sublist_performAll source destination actions)
  · intro unforced attended departed
    have complete := complete_performAll actions unforced attended
    obtain ⟨⟨station, present, _, empty⟩, told⟩ := complete.left departed
    have whole := complete.whole
    rw [waiting, view_of_get? present, empty] at whole
    replace whole := (List.append_nil _).symm.trans whole
    refine ⟨whole, fun other sending => ?_⟩
    obtain ⟨early, late, split⟩ :=
      List.append_of_mem (mem_news.mp (told other sending)).1
    refine ⟨early, late, split, ?_⟩
    -- A message after the departure would stand after it as well.
    have none : received source (.membership (.departed source) :: late) = [] := by
      refine List.eq_nil_iff_forall_not_mem.mpr fun payload after => ?_
      obtain ⟨between, rest, around⟩ := split_of_mem_received after
      cases between with
      | nil => cases around
      | cons first between =>
        obtain ⟨rfl, _⟩ := List.cons.inj around
        rw [around, ← List.append_assoc] at split
        exact (bracketed destination source payload _ rest split).2
          (List.mem_append_right early List.mem_cons_self)
    rw [split, received_append, none, List.append_nil] at whole
    exact whole

/-- A worker registers with the master and is asked to leave before the message is delivered. -/
def farewell : List Action :=
  [.launch inTurn, .launch inTurn, .advance 2, .leave 2, .advance 2, .advance 2, .carry 2, .carry 2]

/-- The master hears of the worker, gets its message, and hears of its departure. -/
theorem messages_delivered_farewell :
    (∃ early late, mail 1 (performAll {} farewell).effects =
        early ++ .message ⟨2, .register⟩ :: late ∧ .membership (.joined 2) ∈ early) ∧
      ∃ early late, mail 1 (performAll {} farewell).effects =
          early ++ .membership (.departed 2) :: late ∧ received 2 early = [.register] := by
  have delivered := messages_delivered farewell
  have sending : sent 2 1 (performAll {} farewell).effects = [.register] := by rfl
  have calm : ∀ action ∈ farewell, action ≠ .kill 2 ∧ action ≠ .terminate := by simp [farewell]
  have unforced : Unforced farewell 2 := fun earlier action later split _ =>
    calm action (split ▸ List.mem_append_right _ List.mem_cons_self)
  have present : ∀ count < 9, 1 ∈ (performAll {} (farewell.take count)).value.members ∨
      2 ∉ (performAll {} (farewell.take count)).value.members := by decide +kernel
  have attended : Attended farewell 2 1 := by
    intro earlier first member _
    have short : earlier.length < 9 := Nat.lt_succ_of_le first.length_le
    have same := present _ short
    rw [← List.prefix_iff_eq_take.mp first] at same
    exact same.resolve_right fun out => out member
  have departed : (performAll {} farewell).value.Departed 2 :=
    ⟨by decide +kernel, by decide +kernel⟩
  obtain ⟨whole, last⟩ := (delivered.2 2 1).2 unforced attended departed
  rw [sending] at whole last
  refine ⟨?_, last (by decide) nofun⟩
  have member : .register ∈ received 2 (mail 1 (performAll {} farewell).effects) :=
    whole ▸ List.mem_cons_self
  obtain ⟨early, late, split⟩ := split_of_mem_received member
  exact ⟨early, late, split, (delivered.1 1 2 .register early late split).1⟩

end JobPool.Pool
