/-
This file says in which errors a step may end. A step that is put together from others ends in no
error that none of them ends in, so what may go wrong in a trigger is what may go wrong when its
instances are made, when a condition of one of its blocks is evaluated, and when an action of one of
its blocks is run. Which instances the conditions and actions meet is not forgotten on the way: they
are ones that the providers may give.
-/
import Rulebook.Proofs.Evaluation

namespace Rulebook

namespace Effect

variable {World Error First Second Item : Type}

/-- From whatever world, the step ends well or in an error that is allowed. -/
def FailsOnly (step : Effect World Error First) (allowed : Error → Prop) : Prop :=
  ∀ before error after, step.perform before = (.error error, after) → allowed error

/-- From some world, the step ends well with this result. -/
def MayGive (step : Effect World Error First) (result : First) : Prop :=
  ∃ before after, step.perform before = (.ok result, after)

namespace FailsOnly

variable {allowed : Error → Prop}

theorem pure (result : First) :
    FailsOnly (Pure.pure result : Effect World Error First) allowed := nofun

/-- The second step is asked only for the results that the first may give. -/
theorem bind {step : Effect World Error First} {next : First → Effect World Error Second}
    (first : step.FailsOnly allowed)
    (rest : ∀ result, step.MayGive result → (next result).FailsOnly allowed) :
    FailsOnly (step >>= next) allowed := by
  intro before error after failed
  rcases perform_bind_eq_error_iff.mp failed with failed | ⟨result, reached, went, failed⟩
  · exact first before error after failed
  · exact rest result ⟨before, reached, went⟩ reached error after failed

theorem keptInSequence : KeptInSequence fun Result (step : Effect World Error Result) =>
    step.FailsOnly allowed where
  pure := pure
  bind first rest := bind first fun result _ => rest result

theorem forM {items : List Item} {act : Item → Effect World Error Unit}
    (each : ∀ item ∈ items, (act item).FailsOnly allowed) :
    FailsOnly (ForM.forM items act) allowed := keptInSequence.forM each

theorem of_silent {step : Effect World Error First} (quiet : step.silent.FailsOnly allowed) :
    step.FailsOnly allowed := fun before error after failed =>
  quiet before error after (perform_silent_eq_error_iff.mpr failed)

theorem silent {step : Effect World Error First} (fails : step.FailsOnly allowed) :
    step.silent.FailsOnly allowed := fun before error after failed =>
  fails before error after (perform_silent_eq_error_iff.mp failed)

theorem located {step : Effect World Error First} {fault : Error → RuleFault} {location : Location}
    {allowed : RuleError → Prop}
    (fails : step.FailsOnly fun cause => allowed (.located (fault cause) location)) :
    FailsOnly (Effect.located fault location step) allowed := by
  intro before error after failed
  obtain ⟨cause, stepFailed, rfl⟩ := perform_located_eq_error_iff.mp failed
  exact fails before cause after stepFailed

end FailsOnly

/-- What is made of the result of a step is made of a result that it may give. -/
theorem exists_of_mayGive_bind_pure {step : Effect World Error First} {make : First → Second}
    {result : Second}
    (given : MayGive (step >>= fun first => Pure.pure (make first)) result) :
    ∃ first, step.MayGive first ∧ result = make first := by
  obtain ⟨before, after, made⟩ := given
  obtain ⟨first, reached, went, last⟩ := perform_bind_eq_ok_iff.mp made
  exact ⟨first, ⟨before, reached, went⟩, (Except.ok.inj (Prod.mk.inj last).1).symm⟩

theorem mayGive_located_iff {step : Effect World Error First} {fault : Error → RuleFault}
    {location : Location} {result : First} :
    (Effect.located fault location step).MayGive result ↔ step.MayGive result := by
  unfold MayGive
  simp only [perform_located_eq_ok_iff]

end Effect

variable {World : Type} {allowed : RuleError → Prop}

/-! ### Conditions and blocks -/

/-- A condition fails because its property cannot be read or because its operator does not take what
was read. -/
theorem CompiledCondition.evaluate_failsOnly_of_given {condition : CompiledCondition}
    {vars : VariablesInstance World} {location : Location}
    (reads : (vars.get condition.property condition.kwargs).FailsOnly fun cause =>
      allowed (.located (.ofProperty condition.property cause)
        { location with condition := some condition.id }))
    (compares : ∀ left, (vars.get condition.property condition.kwargs).MayGive left →
      ∀ mismatch, condition.operator.holds left condition.value = .error mismatch →
        allowed (.located (.ofMismatch condition.operator.id mismatch)
          { location with condition := some condition.id })) :
    (condition.evaluate vars location).FailsOnly allowed := by
  refine .bind (.located reads) fun left given => ?_
  split
  · exact .pure _
  · next mismatch refused =>
    intro before error after failed
    obtain rfl := Except.error.inj (Prod.mk.inj failed).1
    exact compares left (Effect.mayGive_located_iff.mp given) mismatch refused

theorem CompiledCondition.evaluate_failsOnly {condition : CompiledCondition}
    {vars : VariablesInstance World} {location : Location}
    (reads : (vars.get condition.property condition.kwargs).FailsOnly fun cause =>
      allowed (.located (.ofProperty condition.property cause)
        { location with condition := some condition.id }))
    (compares : ∀ left mismatch, condition.operator.holds left condition.value = .error mismatch →
      allowed (.located (.ofMismatch condition.operator.id mismatch)
        { location with condition := some condition.id })) :
    (condition.evaluate vars location).FailsOnly allowed :=
  evaluate_failsOnly_of_given reads fun left _ => compares left

namespace CompiledBlock

variable {block : CompiledBlock} {vars : VariablesInstance World} {actions : ActionsInstance World}
  {location : Location}

theorem allConditionsTrue_failsOnly
    (conditions : ∀ set ∈ block.sets, ∀ condition ∈ set.conditions,
      (evaluateIn vars location (set, condition)).FailsOnly allowed) :
    (block.allConditionsTrue vars location).FailsOnly allowed := by
  refine .of_silent ?_
  rw [silent_allConditionsTrue]
  refine .forM fun entry member => .silent ?_
  obtain ⟨inBlock, inSet⟩ := @mem_listing block entry.1 entry.2 member
  exact conditions entry.1 inBlock entry.2 inSet

theorem run_failsOnly
    (conditions : ∀ set ∈ block.sets, ∀ condition ∈ set.conditions,
      (evaluateIn vars location (set, condition)).FailsOnly allowed)
    (acts : ∀ action ∈ block.actions,
      (action.run vars actions { location with action := some action.id }).FailsOnly allowed) :
    (block.run vars actions location).FailsOnly allowed := by
  refine .bind (allConditionsTrue_failsOnly conditions) fun holds _ => ?_
  split
  · exact .bind (.forM acts) fun _ _ => .pure _
  · exact .pure _

end CompiledBlock

theorem runBlocks_failsOnly {vars : VariablesInstance World} {actions : ActionsInstance World}
    {location : Location} {blocks : List CompiledBlock} (stop : Bool)
    (each : ∀ block ∈ blocks,
      (block.run vars actions { location with block := some block.id }).FailsOnly allowed) :
    (runBlocks stop vars actions location blocks).FailsOnly allowed := by
  induction blocks with
  | nil => exact .pure _
  | cons block rest inductionHypothesis =>
    refine .bind (each block List.mem_cons_self) fun outcome _ => ?_
    split
    · exact .pure _
    · refine .bind (inductionHypothesis fun other member => ?_) fun _ _ => .pure _
      exact each other (List.mem_cons_of_mem block member)

/-! ### Triggers -/

/-- A trigger fails because an instance cannot be made, or with an error of a condition or an action
on instances that the providers may give. -/
theorem CompiledRuleSet.trigger_failsOnly {ruleSet : CompiledRuleSet World} {args : EventArgs}
    (varsMade : ∀ reason, allowed
      (.located (.providerConstruction ruleSet.variablesProvider reason) ruleSet.location))
    (actionsMade : ∀ reason, allowed
      (.located (.providerConstruction ruleSet.actionsProvider reason) ruleSet.location))
    (blocks : ∀ vars, (ruleSet.variablesSource.construct args).MayGive vars →
      ∀ actions, (ruleSet.actionsSource.construct args).MayGive actions →
        ∀ block ∈ ruleSet.blocks, (block.run vars actions
          { ruleSet.location with block := some block.id }).FailsOnly allowed) :
    (ruleSet.trigger args).FailsOnly allowed := by
  unfold trigger
  split
  · refine .bind (.located fun _ cause _ _ => varsMade cause.message) fun vars varsGiven => ?_
    refine .bind (.located fun _ cause _ _ => actionsMade cause.message)
      fun actions actionsGiven => ?_
    refine .bind (runBlocks_failsOnly _ ?_) fun _ _ => .pure _
    exact blocks vars (Effect.mayGive_located_iff.mp varsGiven) actions
      (Effect.mayGive_located_iff.mp actionsGiven)
  · exact .pure _

end Rulebook
