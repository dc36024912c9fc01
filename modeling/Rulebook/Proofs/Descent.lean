/-
This file proves that evaluating a compiled block comes to an end. An evaluation follows positions
from sets to the sets inside them. Nothing in a list of sets keeps a position from pointing beyond
its end, or back to a set that is being evaluated, so a descent that knows nothing of how sets nest
can break off in two ways besides an error of a rule: there is no set at a position, or it gets
deeper than it is allowed to.

In a block that was compiled neither happens, from any position of the block and not only from the
sets on top: as many levels as the block has sets are enough, and with these or more the descent is
the evaluation, step for step. The reason is the depth of sets: parents lead from every set to one
on top, so going down, which goes through a parent to its children, cannot come around.
-/
import Rulebook.Proofs.Evaluation

namespace Rulebook

variable {World : Type}

/-! ### A descent that knows nothing of how sets nest -/

/-- Why a descent into sets inside sets breaks off. -/
inductive Stop where
  /-- A condition failed. -/
  | rule (error : RuleError)
  /-- There is no set at a position. -/
  | outOfRange (index : Nat)
  /-- The descent got deeper than it may. -/
  | tooDeep
  deriving DecidableEq

/-- Evaluates the set at a position with the sets inside it, at most `levels` deep. -/
def descend (sets : List CompiledConditionSet) (vars : VariablesInstance World) :
    (levels index : Nat) → Location → Effect World Stop Bool
  | 0, _, _ => throw .tooDeep
  | levels + 1, index, location =>
    match sets[index]? with
    | none => throw (.outOfRange index)
    | some set => do
      let place := { location with conditionSet := some set.id }
      let own ← set.conditions.mapM fun condition =>
        ExceptT.adapt .rule (condition.evaluate vars place)
      let nested ← set.children.mapM fun child => descend sets vars levels child place
      return set.rule.combine (own ++ nested)

/-- Evaluates the sets on top, each at most `levels` deep. -/
def CompiledBlock.descend (block : CompiledBlock) (vars : VariablesInstance World) (levels : Nat)
    (location : Location) : Effect World Stop Bool := do
  let results ← block.roots.mapM fun root => Rulebook.descend block.sets vars levels root location
  return results.all fun result => result

/-! ### Steps whose errors stop a descent -/

namespace Effect

variable {First Second Item : Type}

/-- The step, as one of a descent: its errors stop the descent. -/
def stopping (step : Effect World RuleError First) : Effect World Stop First :=
  ExceptT.adapt .rule step

theorem perform_stopping (step : Effect World RuleError First) (world : World) :
    step.stopping.perform world =
      ((step.perform world).1.mapError .rule, (step.perform world).2) := rfl

theorem stopping_pure (result : First) :
    stopping (pure result : Effect World RuleError First) = pure result := rfl

theorem stopping_bind (step : Effect World RuleError First)
    (next : First → Effect World RuleError Second) :
    stopping (step >>= next) = step.stopping >>= fun result => (next result).stopping := by
  refine funext fun world => ?_
  show (stopping (step >>= next)).perform world = Effect.perform _ world
  rw [perform_stopping, perform_bind, perform_bind, perform_stopping]
  rcases step.perform world with ⟨error | result, reached⟩ <;> rfl

theorem stopping_alikeInSequence :
    AlikeInSequence fun Result (step : Effect World RuleError Result) stopped =>
      step.stopping = stopped where
  pure := stopping_pure
  bind first rest := by
    rw [stopping_bind, first]
    exact bind_congr rest

theorem stopping_mapM (items : List Item) (act : Item → Effect World RuleError First) :
    stopping (items.mapM act) = items.mapM fun item => (act item).stopping :=
  stopping_alikeInSequence.mapM act _ (List.forall₂_same.mpr fun _ _ => rfl)

/-- Steps on items that are told where they come from are steps on the items. -/
theorem mapM_attach_eq {items : List Item}
    {act : { item // item ∈ items } → Effect World Stop First}
    (alone : Item → Effect World Stop First) (same : ∀ item, act item = alone item.1) :
    items.attach.mapM act = items.mapM alone := by
  rw [funext same]
  conv => rhs; rw [← List.attach_map_subtype_val items]
  exact List.mapM_map.symm

end Effect

/-! ### A descent into a block that was compiled -/

namespace CompiledBlock

/-- With enough levels, or more, a descent is an evaluation. -/
theorem descend_eq_evaluateWithin (block : CompiledBlock) (vars : VariablesInstance World)
    {levels depth index : Nat}
    (fits : Nesting.fits (block.sets.map (·.children)) levels index = true)
    (enough : levels ≤ depth) (location : Location) :
    Rulebook.descend block.sets vars depth index location =
      (block.evaluateWithin vars levels index fits location).stopping := by
  induction levels generalizing index depth location with
  | zero => exact absurd fits (by simp [Nesting.fits])
  | succ levels inductionHypothesis =>
    obtain ⟨depth, rfl⟩ := Nat.exists_eq_add_of_le' (Nat.le_trans (Nat.le_add_left 1 levels) enough)
    obtain ⟨bound, inside, unfolded⟩ := block.evaluateWithin_succ vars levels index fits location
    rw [unfolded, Rulebook.descend, List.getElem?_eq_getElem bound]
    simp only [Effect.stopping_bind, Effect.stopping_mapM, Effect.stopping_pure]
    refine bind_congr fun own => ?_
    rw [Effect.mapM_attach_eq (Rulebook.descend block.sets vars depth · _) fun child =>
      (inductionHypothesis (inside child.1 child.2) (Nat.le_of_succ_le_succ enough) _).symm]

/-- In a block that was compiled no way down is longer than the number of its sets. -/
theorem fits_of_compile {source : RuleBlock} {operators : OperatorRegistry} {catalog : Catalog}
    {location : Location} {block : CompiledBlock}
    (accepted : source.compile operators catalog location = .ok block) {index : Nat}
    (bound : index < block.sets.length) :
    Nesting.fits (block.sets.map (·.children)) block.sets.length index = true := by
  obtain ⟨-, linked, -, -, acyclic, -, -, -, -, sets, -⟩ := RuleBlock.compile_eq_ok_iff.mp accepted
  rw [sets] at bound ⊢
  exact linked.nests acyclic index bound

end CompiledBlock

/-- In a rule set that was compiled, a descent from any position of a block neither leaves the block
nor gets deeper than the number of its sets: with that many levels or more it is the evaluation of
the set at that position, which ends with a result or with an error of a rule. So is a descent from
the sets on top the evaluation of the block. -/
theorem CompiledRuleSet.descent_completes {compiler : Compiler World} {source : RuleSet}
    {ruleSet : CompiledRuleSet World} (accepted : (compiler.compile source).1 = .ok ruleSet)
    {block : CompiledBlock} (member : block ∈ ruleSet.blocks) (Other : Type)
    (vars : VariablesInstance Other) (location : Location) {levels : Nat}
    (enough : block.sets.length ≤ levels) :
    (∀ index (bound : index < block.sets.length),
      descend block.sets vars levels index location =
        ExceptT.adapt .rule (block.evaluateSet index bound vars location)) ∧
    block.descend vars levels location =
      ExceptT.adapt .rule (block.allConditionsTrue vars location) := by
  obtain ⟨_, _, _, blockAccepted⟩ := Compiler.exists_compile_of_mem accepted member
  have sets : ∀ index (bound : index < block.sets.length),
      descend block.sets vars levels index location =
        (block.evaluateSet index bound vars location).stopping := fun index bound =>
    block.descend_eq_evaluateWithin vars (CompiledBlock.fits_of_compile blockAccepted bound)
      enough location
  refine ⟨sets, ?_⟩
  show _ = (block.allConditionsTrue vars location).stopping
  unfold CompiledBlock.descend CompiledBlock.allConditionsTrue
  simp only [Effect.stopping_bind, Effect.stopping_mapM, Effect.stopping_pure]
  rw [Effect.mapM_attach_eq (descend block.sets vars levels · location) fun root =>
    (sets root.1 (block.roots_lt root.1 root.2)).symm]

theorem CompiledRuleSet.descent_completes_innerFirst :
    ∃ compiled block, (Compiler.ofSales.compile .innerFirst).1 = .ok compiled ∧
      compiled.blocks = [block] ∧
      ∀ (vars : VariablesInstance Unit) (location : Location),
        (∀ index (bound : index < block.sets.length),
          descend block.sets vars 2 index location =
            ExceptT.adapt .rule (block.evaluateSet index bound vars location)) ∧
        block.descend vars 2 location =
          ExceptT.adapt .rule (block.allConditionsTrue vars location) := by
  obtain ⟨compiled, block, accepted, single, two⟩ := Compiler.ofSales_accepts_innerFirst
  refine ⟨compiled, block, accepted, single, fun vars location => ?_⟩
  exact descent_completes accepted (single ▸ List.mem_singleton_self block) Unit vars location
    (Nat.le_of_eq two)

end Rulebook
