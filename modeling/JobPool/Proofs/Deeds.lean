/-
**What an engine did, without its log.**

The effects of an operation are the lines it wrote to the log and its deeds. Every question that is
asked about a history — who was answered, what was sent, which job ran — is about the deeds, so the
operations are described by their new state together with their deeds.

* `filterMap_deeds` — a selection of effects that takes no log line reads the deeds only;
* `mem_deeds` — membership of an effect that is no log line.
-/

import JobPool.Trace

namespace JobPool

namespace Effect

/-- The effect is a line of the log. -/
@[simp] def isLog : Effect → Bool
  | log _ => true
  | handled _ | resolved .. | applied _ | admitted .. | queued .. | issued .. | sent .. | ran ..
  | answered .. | linkClosed | brokeDown _ => false

/-- The effects that are no lines of the log, in order. -/
def deeds (effects : List Effect) : List Effect := effects.filter fun effect => !effect.isLog

@[simp] theorem deeds_nil : deeds [] = [] := rfl

@[simp] theorem deeds_append (first second : List Effect) :
    deeds (first ++ second) = deeds first ++ deeds second :=
  List.filter_append ..

@[simp] theorem deeds_cons (effect : Effect) (rest : List Effect) :
    deeds (effect :: rest) = if effect.isLog then deeds rest else effect :: deeds rest := by
  unfold deeds
  rw [List.filter_cons]
  cases effect.isLog <;> rfl

theorem mem_deeds {effects : List Effect} {effect : Effect} :
    effect ∈ deeds effects ↔ effect ∈ effects ∧ effect.isLog = false := by
  rw [deeds, List.mem_filter, Bool.not_eq_true']

/-- **A selection that takes no line of the log reads the deeds only.** -/
theorem filterMap_deeds {α : Type} (select : Effect → Option α)
    (silent : ∀ record, select (.log record) = none) (effects : List Effect) :
    (deeds effects).filterMap select = effects.filterMap select := by
  induction effects with
  | nil => rfl
  | cons effect rest hypothesis =>
    rw [deeds_cons]
    cases effect with
    | log record => rw [isLog, if_pos rfl, hypothesis, List.filterMap_cons_none (silent record)]
    | handled _ | resolved _ _ _ | applied _ | admitted _ _ | queued _ _ | issued _ _ _ _
    | sent _ _ _ | ran _ _ | answered _ _ | linkClosed | brokeDown _ =>
      rw [isLog, if_neg Bool.false_ne_true, List.filterMap_cons, List.filterMap_cons, hypothesis]

end Effect

namespace Act

@[simp] theorem deeds_error (text : String) : Effect.deeds (error text).effects = [] := rfl

@[simp] theorem deeds_warn (text : String) : Effect.deeds (warn text).effects = [] := rfl

@[simp] theorem deeds_info (text : String) : Effect.deeds (info text).effects = [] := rfl

@[simp] theorem deeds_debug (text : String) : Effect.deeds (debug text).effects = [] := rfl

end Act

end JobPool
