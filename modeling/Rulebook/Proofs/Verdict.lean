/-
This file says what a block decides on given answers, if errors are not told apart. A condition that
cannot be read or compared has no verdict; a set has one if all its conditions and all the sets
inside it do, since an evaluation never stops early; and a block has one if its sets on top do. So a
verdict is missing exactly where the evaluation fails, and where it is there the evaluation ends
well with it.

Verdicts are read off the definition of a block, in which sets name their parents by identifiers. No
position occurs in them, and no error with its place, which is what lets two blocks be compared that
are laid out in different ways.
-/
import Rulebook.Proofs.Meaning

namespace Rulebook

/-! ### Verdicts -/

/-- What the operator of a condition, bound to its text, says of the answer, if it says anything. -/
def Condition.verdict? (condition : Condition) (operators : OperatorRegistry) (answers : Answers) :
    Option Bool := do
  let operator ← operators.find? condition.comparisonOperator
  let bound ← (operator.bind condition.literal {}).toOption
  let left ← (answers condition.propertyMethod condition.propertyKwargs).toOption
  (bound.holds left condition.literal).toOption

/-- The combined verdicts of the conditions of a set and of the sets that name it as their parent.
There is none if sets nest deeper than the given number of levels. -/
def ConditionSet.verdict? (sets : List ConditionSet) (operators : OperatorRegistry)
    (answers : Answers) : Nat → ConditionSet → Option Bool
  | 0, _ => none
  | levels + 1, set => do
    let rule ← Combination.ofText? set.combinationRule
    let own ← set.conditions.mapM (·.verdict? operators answers)
    let inner ← (sets.filter (·.parent == some set.id)).mapM
      (ConditionSet.verdict? sets operators answers levels)
    return rule.combine (own ++ inner)

/-- Whether all sets of a block without a parent hold. -/
def RuleBlock.verdict? (block : RuleBlock) (operators : OperatorRegistry) (answers : Answers) :
    Option Bool := do
  let results ← (block.conditionSets.filter (·.parent.isNone)).mapM
    (ConditionSet.verdict? block.conditionSets operators answers block.conditionSets.length)
  return results.all fun result => result

variable {World : Type}

/-! ### Steps that are decided -/

/-- From every world a step ends well with the result that is decided, or fails if none is. -/
def Effect.Decides {Error Result : Type} (step : Effect World Error Result)
    (decided : Option Result) : Prop :=
  ∀ world, (step.perform world).1.toOption = decided

namespace Effect.Decides

variable {Error First Second Item Other : Type}

theorem pure (result : First) :
    Effect.Decides (Pure.pure result : Effect World Error First) (some result) := fun _ => rfl

theorem bind {step : Effect World Error First} {next : First → Effect World Error Second}
    {decided : Option First} {continuation : First → Option Second}
    (first : step.Decides decided) (rest : ∀ result, (next result).Decides (continuation result)) :
    Effect.Decides (step >>= next) (decided >>= continuation) := by
  intro world
  have firstDecided := first world
  rw [Effect.perform_bind, ← firstDecided]
  rcases step.perform world with ⟨error | result, reached⟩
  · rfl
  · exact rest result reached

theorem located {step : Effect World Error First} {decided : Option First}
    (decides : step.Decides decided) (fault : Error → RuleFault) (location : Location) :
    Effect.Decides (Effect.located fault location step) decided := by
  intro world
  have stepDecided := decides world
  rw [Effect.perform_located, ← stepDecided]
  rcases step.perform world with ⟨error | result, reached⟩ <;> rfl

theorem alikeInSequence :
    AlikeInSequence fun Result (step : Effect World Error Result) decided =>
      step.Decides decided where
  pure := pure
  bind := bind

theorem mapM {act : Item → Effect World Error First} {decided : Other → Option First}
    {items : List Item} {others : List Other}
    (alike : List.Forall₂ (fun item other => (act item).Decides (decided other)) items others) :
    Effect.Decides (items.mapM act) (others.mapM decided) :=
  alikeInSequence.mapM act decided alike

/-- Steps that are told where their item comes from are decided as the related items are. -/
theorem mapM_attach {items : List Item} {others : List Other} {related : Item → Other → Prop}
    {act : { item // item ∈ items } → Effect World Error First} {decided : Other → Option First}
    (pairs : List.Forall₂ related items others)
    (alike : ∀ item other, related item.1 other → (act item).Decides (decided other)) :
    Effect.Decides (items.attach.mapM act) (others.mapM decided) :=
  alikeInSequence.mapM_attach act decided pairs alike

end Effect.Decides

/-! ### Evaluations are decided by verdicts -/

variable {operators : OperatorRegistry} {catalog : Catalog} {location : Location}
  {vars : VariablesInstance World} {answers : Answers}

/-- What the operator of a compiled condition says of the answer, if it says anything. -/
def CompiledCondition.verdict? (condition : CompiledCondition) (answers : Answers) :
    Option Bool := do
  let left ← (answers condition.property condition.kwargs).toOption
  (condition.operator.holds left condition.value).toOption

theorem CompiledCondition.decides (alike : vars.AnswersBy answers) (condition : CompiledCondition)
    (place : Location) : (condition.evaluate vars place).Decides (condition.verdict? answers) := by
  have reads : (vars.get condition.property condition.kwargs).Decides
      (answers condition.property condition.kwargs).toOption :=
    fun world => congrArg Except.toOption (alike _ _ world)
  refine .bind (reads.located _ _) fun left world => ?_
  cases condition.operator.holds left condition.value <;> rfl

theorem CompiledCondition.evaluate_decides (alike : vars.AnswersBy answers)
    {condition : Condition} {compiled : CompiledCondition}
    (accepted : condition.compile operators catalog location = .ok compiled) (place : Location) :
    (compiled.evaluate vars place).Decides (condition.verdict? operators answers) := by
  obtain ⟨property, operator, bound, -, found, -, boundTo, rfl⟩ :=
    Condition.compile_eq_ok_iff.mp accepted
  -- What an operator is bound to does not depend on the place, which only errors tell.
  have boundAnywhere : operator.bind condition.literal {} = .ok bound :=
    Operator.bind_eq_ok_iff.mpr (Operator.bind_eq_ok_iff.mp boundTo)
  have same : condition.verdict? operators answers = CompiledCondition.verdict?
      ⟨condition.id, condition.propertyMethod, condition.propertyKwargs, bound,
        condition.literal⟩ answers := by
    rw [Condition.verdict?, found, Option.bind_eq_bind, Option.bind_some, boundAnywhere]
    rfl
  rw [same]
  exact CompiledCondition.decides alike _ place

/-- A set of an accepted block, with the sets inside it, is decided by its verdict. -/
theorem CompiledBlock.evaluateWithin_decides {block : RuleBlock} {linked : LinkedSets}
    {compiled : CompiledBlock} (alike : vars.AnswersBy answers)
    (links : block.Links operators catalog location linked) (distinct : block.setIds.Nodup)
    (arranged : compiled.sets = linked.arranged) {levels index : Nat} {set : ConditionSet}
    (found : block.conditionSets[index]? = some set)
    (fits : Nesting.fits (compiled.sets.map (·.children)) levels index = true)
    (place : Location) :
    (compiled.evaluateWithin vars levels index fits place).Decides
      (ConditionSet.verdict? block.conditionSets operators answers levels set) := by
  induction levels generalizing index set place with
  | zero => exact absurd fits (by simp [Nesting.fits])
  | succ levels inductionHypothesis =>
    obtain ⟨bound, inside, unfolded⟩ :=
      compiled.evaluateWithin_succ vars levels index fits place
    obtain ⟨compiledSet, position, linkedFound, accepted, -⟩ := links.entry found
    obtain ⟨rule, conditions, parsed, conditionsAccepted, rfl⟩ :=
      ConditionSet.compile_eq_ok_iff.mp accepted
    have here := LinkedSets.getElem?_arranged linkedFound
    rw [← arranged] at here
    obtain ⟨_, here⟩ := List.getElem?_eq_some_iff.mp here
    have sameRule : compiled.sets[index].rule = rule := by rw [here]
    have own : compiled.sets[index].conditions = conditions := by rw [here]
    have inner : compiled.sets[index].children = linked.nesting.children index := by rw [here]
    have children : List.Forall₂ (fun child inner => block.conditionSets[child]? = some inner)
        compiled.sets[index].children (block.conditionSets.filter (·.parent == some set.id)) := by
      rw [inner]
      exact links.children_forall₂ distinct found
    rw [unfolded, ConditionSet.verdict?, parsed]
    simp only [sameRule, own]
    refine .bind (.mapM ?_) fun results => .bind (.mapM_attach children ?_) fun others => .pure _
    · exact conditionsAccepted.flip.imp fun _ _ conditionAccepted =>
        CompiledCondition.evaluate_decides alike conditionAccepted _
    · exact fun child _ childFound => inductionHypothesis childFound (inside child.1 child.2) _

/-- A block that was compiled is decided by its verdict. -/
theorem CompiledBlock.allConditionsTrue_decides {block : RuleBlock} {compiled : CompiledBlock}
    (accepted : block.compile operators catalog location = .ok compiled)
    (alike : vars.AnswersBy answers) (place : Location) :
    (compiled.allConditionsTrue vars place).Decides (block.verdict? operators answers) := by
  obtain ⟨distinct, linked, actions, links, -, -, -, -, roots, sets, -⟩ :=
    RuleBlock.compile_eq_ok_iff.mp accepted
  have onTop : List.Forall₂ (fun index set => block.conditionSets[index]? = some set)
      compiled.roots (block.conditionSets.filter (·.parent.isNone)) := by
    rw [roots]
    exact links.roots_forall₂
  have size : compiled.sets.length = block.conditionSets.length := by
    rw [sets, linked.length_arranged, links.length_eq]
  unfold allConditionsTrue RuleBlock.verdict?
  rw [← size]
  refine .bind (.mapM_attach onTop fun root set found => ?_) fun results => .pure _
  exact evaluateWithin_decides alike links distinct sets found _ place

end Rulebook
