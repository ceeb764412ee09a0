/-
**Chains of steps with their effects.**

A part of a pool — an engine, an engine with its submitters, a whole pool — makes steps, each with
its effects. A chain of steps ends in the last state and brings the effects of all steps in order.
What every step keeps, together with the history up to then, a chain keeps.

* `split_append` — the place of an effect in a history of two parts;
* `Chain.keeps`, `Chain.preserves` — invariants over states, with their history or alone;
* `Chain.exists_step` — the step that an effect comes from, with the states before and after it;
* `Chain.guarded` — what the steps of a chain keep holds before each of them;
* `Chain.map` — a chain seen in a larger state;
* `Traced.foldlM_commutes` — a change of the state that commutes with an operation commutes with a
  fold of it;
* `Traced.foldlM_grows` — a bound on what every operation adds bounds what a fold adds;
* `Traced.exists_of_mem_foldlM` — an effect of a fold comes from one of its operations.
-/

import JobPool.Trace

namespace JobPool

variable {ε δ α β : Type}

/-! ### Places in a history -/

/-- A history around the effect at one of its places. -/
theorem split_of_getElem? {history : List ε} {place : Nat} {effect : ε}
    (found : history[place]? = some effect) :
    history = history.take place ++ effect :: history.drop (place + 1) := by
  obtain ⟨inside, rfl⟩ := List.getElem?_eq_some_iff.mp found
  rw [← List.drop_eq_getElem_cons inside, List.take_append_drop]

/-- The place of an effect in two histories after each other is in the first or in the second. -/
theorem split_append {first second before after : List ε} {effect : ε}
    (split : first ++ second = before ++ effect :: after) :
    (∃ between, first = before ++ effect :: between ∧ after = between ++ second) ∨
      ∃ between, second = between ++ effect :: after ∧ before = first ++ between := by
  rcases List.append_eq_append_iff.mp split with
    ⟨shared, extended, remaining⟩ | ⟨_ | ⟨own, between⟩, extended, remaining⟩
  · exact .inr ⟨shared, remaining, extended⟩
  · rw [List.append_nil] at extended
    exact .inr ⟨[], remaining.symm, by rw [extended, List.append_nil]⟩
  · obtain ⟨rfl, ends⟩ := List.cons.inj remaining
    exact .inl ⟨between, extended, ends⟩

/-! ### Chains -/

/-- **A sequence of steps**, with the last state and all effects in order. -/
inductive Chain (step : α → Traced ε α → Prop) : α → Traced ε α → Prop
  | refl (start : α) : Chain step start (pure start)
  | step {start : α} {first rest : Traced ε α} (taken : step start first)
      (chain : Chain step first.value rest) :
      Chain step start ⟨rest.value, first.effects ++ rest.effects⟩

namespace Chain

variable {step : α → Traced ε α → Prop} {start : α} {first second : Traced ε α}

theorem single (taken : step start first) : Chain step start first := by
  have whole := Chain.step taken (.refl first.value)
  rw [Traced.effects_pure, List.append_nil] at whole
  exact whole

theorem trans (left : Chain step start first) (right : Chain step first.value second) :
    Chain step start ⟨second.value, first.effects ++ second.effects⟩ := by
  induction left with
  | refl start => exact right
  | step taken chain hypothesis =>
    rw [List.append_assoc]
    exact .step taken (hypothesis right)

/-- Two operations after each other are a chain if both are. -/
theorem bind {γ : Type} {first : Traced ε γ} {next : γ → Traced ε α} {state : α}
    (left : Chain step start ⟨state, first.effects⟩)
    (right : Chain step state (next first.value)) : Chain step start (first >>= next) :=
  left.trans right

/-- **What every step keeps, together with the history, a chain keeps.** -/
theorem keeps {holds : List ε → α → Prop}
    (kept : ∀ {history start act}, holds history start → step start act →
      holds (history ++ act.effects) act.value)
    {history : List ε} (chain : Chain step start first) (initial : holds history start) :
    holds (history ++ first.effects) first.value := by
  induction chain generalizing history with
  | refl start =>
    rw [Traced.effects_pure, List.append_nil]
    exact initial
  | step taken chain hypothesis =>
    rw [← List.append_assoc]
    exact hypothesis (kept initial taken)

/-- What every step keeps of a state, a chain keeps. -/
theorem preserves {motive : α → Prop}
    (kept : ∀ {start act}, motive start → step start act → motive act.value)
    (chain : Chain step start first) (initial : motive start) : motive first.value :=
  @keeps _ _ _ _ _ (fun _ state => motive state) kept [] chain initial

/-- What every step of a chain keeps holds wherever it makes a step. -/
theorem guarded {holds : α → Prop} {guarded : α → Traced ε α → Prop}
    (kept : ∀ {start act}, holds start → step start act → holds act.value)
    (steps : ∀ {start act}, holds start → step start act → guarded start act)
    (chain : Chain step start first) (initial : holds start) :
    Chain guarded start first ∧ holds first.value := by
  induction chain with
  | refl start => exact ⟨.refl start, initial⟩
  | step taken chain hypothesis =>
    obtain ⟨rest, still⟩ := hypothesis (kept initial taken)
    exact ⟨.step (steps initial taken) rest, still⟩

/-- **A chain seen in a larger state**, where each of its steps is one of the larger steps. -/
theorem map {larger : β → Traced δ β → Prop} (state : α → β) (view : ε → δ)
    (steps : ∀ {start act}, step start act →
      larger (state start) ⟨state act.value, act.effects.map view⟩)
    (chain : Chain step start first) :
    Chain larger (state start) ⟨state first.value, first.effects.map view⟩ := by
  induction chain with
  | refl start => exact .refl (state start)
  | step taken chain hypothesis =>
    rw [List.map_append]
    have whole := Chain.step (steps taken) hypothesis
    exact whole

/-- **A chain passes through a state after a history.** -/
structure Passes (step : α → Traced ε α → Prop) (start : α) (whole : Traced ε α)
    (history : List ε) (state : α) : Prop where
  reached : Chain step start ⟨state, history⟩
  onward : ∃ rest, Chain step state rest ∧ whole = ⟨rest.value, history ++ rest.effects⟩

/-- A chain passes through its last state. -/
theorem passes_last {whole : Traced ε α} (chain : Chain step start whole) :
    Passes step start whole whole.effects whole.value :=
  ⟨chain, pure whole.value, .refl _, by rw [Traced.effects_pure, List.append_nil]; rfl⟩

/-- After a first step a chain passes through what the rest of it passes through. -/
theorem Passes.after {rest : Traced ε α} {history : List ε} {state : α}
    (passes : Passes step first.value rest history state) (taken : step start first) :
    Passes step start ⟨rest.value, first.effects ++ rest.effects⟩ (first.effects ++ history)
      state := by
  obtain ⟨reached, last, chained, whole⟩ := passes
  refine ⟨.step taken reached, last, chained, ?_⟩
  rw [whole, List.append_assoc]

/-- **An effect of a chain comes from one of its steps.** The chain passes through the states before
and after it. -/
theorem exists_step {whole : Traced ε α} (chain : Chain step start whole) {before after : List ε}
    {effect : ε} (split : whole.effects = before ++ effect :: after) :
    ∃ history state act early late, Passes step start whole history state ∧ step state act ∧
      Passes step start whole (history ++ act.effects) act.value ∧
      act.effects = early ++ effect :: late ∧ before = history ++ early ∧ late <+: after := by
  induction chain generalizing before with
  | refl start => cases before <;> cases split
  | @step start first rest taken chain hypothesis =>
    -- The effect comes from the first step or from the rest of the chain.
    rcases split_append split with ⟨late, own, rfl⟩ | ⟨shared, remaining, rfl⟩
    · exact ⟨[], start, first, before, late, ⟨.refl start, _, .step taken chain, rfl⟩, taken,
        ⟨.single taken, rest, chain, rfl⟩, own, rfl, List.prefix_append ..⟩
    · obtain ⟨history, state, act, early, late, passes, moved, further, own, rfl, ends⟩ :=
        hypothesis remaining
      refine ⟨first.effects ++ history, state, act, early, late, passes.after taken, moved, ?_, own,
        ?_, ends⟩
      · rw [List.append_assoc]
        exact further.after taken
      · rw [List.append_assoc]

end Chain

/-! ### Folds -/

namespace Traced

/-- **A change of the state that commutes with every operation commutes with the fold.** -/
theorem foldlM_commutes (step : β → α → Traced ε β) (change : β → β)
    (commutes : ∀ state item,
      step (change state) item = ⟨change (step state item).value, (step state item).effects⟩)
    (items : List α) (start : β) :
    items.foldlM step (change start) =
      ⟨change (items.foldlM step start).value, (items.foldlM step start).effects⟩ := by
  induction items generalizing start with
  | nil => rfl
  | cons item rest hypothesis =>
    rw [List.foldlM_cons, List.foldlM_cons, commutes]
    have later := hypothesis (step start item).value
    change Traced.mk (rest.foldlM step (change (step start item).value)).value
      ((step start item).effects ++
        (rest.foldlM step (change (step start item).value)).effects) = _
    rw [later]
    rfl

/-- A fold is a chain if each of its operations is, from the states that the fold goes through. -/
theorem chain_foldlM {taken : β → Traced ε β → Prop} {holds : β → Prop}
    (step : β → α → Traced ε β) (items : List α)
    (chains : ∀ state, ∀ item ∈ items, holds state →
      Chain taken state (step state item) ∧ holds (step state item).value)
    (start : β) (initial : holds start) :
    Chain taken start (items.foldlM step start) ∧ holds (items.foldlM step start).value := by
  induction items generalizing start with
  | nil => exact ⟨.refl start, initial⟩
  | cons item rest hypothesis =>
    obtain ⟨first, kept⟩ := chains start item List.mem_cons_self initial
    obtain ⟨later, still⟩ := hypothesis
      (fun state other member => chains state other (List.mem_cons_of_mem item member)) _ kept
    rw [List.foldlM_cons]
    exact ⟨first.trans later, still⟩

/-- What grows by a bounded amount with every step of a traced fold grows so with the fold. -/
theorem foldlM_grows {step : β → α → Traced ε β} (weight : β → Nat)
    {cost : Nat} (grows : ∀ state item, weight (step state item).value ≤ weight state + cost)
    (items : List α) (start : β) :
    weight (items.foldlM step start).value ≤ weight start + cost * items.length := by
  induction items generalizing start with
  | nil => exact Nat.le_add_right _ _
  | cons item rest hypothesis =>
    rw [List.foldlM_cons, value_bind, List.length_cons, Nat.mul_succ]
    have first := grows start item
    have later := hypothesis (step start item).value
    omega

/-- An effect of a fold comes from one of its operations. -/
theorem exists_of_mem_foldlM {step : β → α → Traced ε β} {items : List α} {start : β} {effect : ε}
    (member : effect ∈ (items.foldlM step start).effects) :
    ∃ state, ∃ item ∈ items, effect ∈ (step state item).effects := by
  induction items generalizing start with
  | nil => cases member
  | cons item rest hypothesis =>
    rw [List.foldlM_cons, effects_bind] at member
    rcases List.mem_append.mp member with first | later
    · exact ⟨start, item, List.mem_cons_self, first⟩
    · obtain ⟨state, other, listed, inside⟩ := hypothesis later
      exact ⟨state, other, List.mem_cons_of_mem item listed, inside⟩

end Traced

end JobPool
