/-
This file runs compiled rule sets. A trigger makes one instance of the variables and one of the
actions from the same event, then goes through the blocks in order: it evaluates all conditions of
a block, and if the block holds it runs the actions of the block. Evaluation does not stop early,
so every condition of a block is evaluated whatever the others give, unless one fails. A failure
ends the trigger, and its error names the place: inside nested condition sets, the innermost one.
-/
import Rulebook.Compiled

namespace Rulebook

/-- What a block did: whether it held, and how many actions ran. -/
structure BlockOutcome where
  blockId : String
  triggered : Bool
  actionsRun : Nat
  deriving DecidableEq

/-- What a trigger did. -/
structure TriggerOutcome where
  ruleSetId : String
  /-- The rule set is not enabled, so nothing ran. -/
  skipped : Bool := false
  /-- A block held and the rule set stops on the first one that does. -/
  stoppedEarly : Bool := false
  blocks : List BlockOutcome := []
  deriving DecidableEq

namespace TriggerOutcome

/-- Whether a block held. -/
def anyTriggered (outcome : TriggerOutcome) : Bool := outcome.blocks.any (·.triggered)

/-- The identifiers of the blocks that held, in order. -/
def triggeredBlocks (outcome : TriggerOutcome) : List String :=
  (outcome.blocks.filter (·.triggered)).map (·.blockId)

end TriggerOutcome

/-! ### Faults of providers -/

/-- The fault of a property that could not be read. -/
def RuleFault.ofProperty (property : String) : ProviderError → RuleFault
  | .unknownMethod name => .unknownProperty name
  | error => .providerFailed property error.message

/-- The fault of an action that failed. -/
def RuleFault.ofAction (method : String) : ProviderError → RuleFault
  | .unknownMethod name => .unknownAction name
  | error => .providerFailed method error.message

/-- The fault of a comparison. -/
def RuleFault.ofMismatch (operator : String) (mismatch : Mismatch) : RuleFault :=
  .typeMismatch operator mismatch.expected mismatch.actual

variable {World : Type}

/-- A step whose errors become faults at a place. -/
def Effect.located {Error Result : Type} (fault : Error → RuleFault) (location : Location)
    (step : Effect World Error Result) : Effect World RuleError Result :=
  ExceptT.adapt (fun error => .located (fault error) location) step

/-! ### Conditions and condition sets -/

/-- Evaluates a condition: reads the property and compares. -/
def CompiledCondition.evaluate (condition : CompiledCondition)
    (vars : VariablesInstance World) (location : Location) : Effect World RuleError Bool := do
  let location := { location with condition := some condition.id }
  let left ← Effect.located (RuleFault.ofProperty condition.property) location
    (vars.get condition.property condition.kwargs)
  match condition.operator.holds left condition.value with
  | .ok result => return result
  | .error mismatch =>
    throw (.located (RuleFault.ofMismatch condition.operator.id mismatch) location)

namespace CompiledBlock

/-- Evaluates the set at a position with the sets inside it, which nest at most `levels` deep. The
conditions of the set come first, then the sets inside it, each in order. -/
def evaluateWithin (block : CompiledBlock) (vars : VariablesInstance World) :
    (levels index : Nat) → Nesting.fits (block.sets.map (·.children)) levels index = true →
      Location → Effect World RuleError Bool
  | 0, _, fits, _ => absurd fits (by simp [Nesting.fits])
  | levels + 1, index, fits, location => do
    have bound : index < block.sets.length := by
      unfold Nesting.fits at fits
      split at fits
      · exact absurd fits Bool.false_ne_true
      · next found => simpa using (List.getElem?_eq_some_iff.mp found).1
    have inside : ∀ child ∈ block.sets[index].children,
        Nesting.fits (block.sets.map (·.children)) levels child = true := by
      unfold Nesting.fits at fits
      simpa [List.getElem?_eq_getElem bound] using fits
    let set := block.sets[index]
    let location := { location with conditionSet := some set.id }
    let own ← set.conditions.mapM fun condition => condition.evaluate vars location
    let nested ← set.children.attach.mapM fun ⟨child, member⟩ =>
      block.evaluateWithin vars levels child (inside child member) location
    return set.rule.combine (own ++ nested)

/-- Evaluates the set at a position. -/
def evaluateSet (block : CompiledBlock) (index : Nat) (bound : index < block.sets.length)
    (vars : VariablesInstance World) (location : Location) : Effect World RuleError Bool :=
  block.evaluateWithin vars block.sets.length index (block.nests index bound) location

/-- Whether all sets on top hold; a block without condition sets holds. -/
def allConditionsTrue (block : CompiledBlock) (vars : VariablesInstance World)
    (location : Location) : Effect World RuleError Bool := do
  let results ← block.roots.attach.mapM fun ⟨root, member⟩ =>
    block.evaluateSet root (block.roots_lt root member) vars location
  return results.all fun result => result

end CompiledBlock

/-! ### Actions, blocks and rule sets -/

/-- Runs an action; it may read the variables. -/
def CompiledAction.run (action : CompiledAction) (vars : VariablesInstance World)
    (actions : ActionsInstance World) (location : Location) : Effect World RuleError Unit :=
  Effect.located (RuleFault.ofAction action.method) location
    (actions.run action.method vars action.kwargs)

/-- Evaluates a block and, if it holds, runs its actions in order. -/
def CompiledBlock.run (block : CompiledBlock) (vars : VariablesInstance World)
    (actions : ActionsInstance World) (location : Location) :
    Effect World RuleError BlockOutcome := do
  if ← block.allConditionsTrue vars location then
    block.actions.forM fun action =>
      action.run vars actions { location with action := some action.id }
    return ⟨block.id, true, block.actions.length⟩
  else return ⟨block.id, false, 0⟩

/-- Runs blocks in order, up to the first one that holds if `stop` is set. Tells what the blocks
did, and whether the run stopped at one. -/
def runBlocks (stop : Bool) (vars : VariablesInstance World) (actions : ActionsInstance World)
    (location : Location) :
    List CompiledBlock → Effect World RuleError (List BlockOutcome × Bool)
  | [] => return ([], false)
  | block :: rest => do
    let outcome ← block.run vars actions { location with block := some block.id }
    if outcome.triggered && stop then return ([outcome], true)
    else
      let (outcomes, stopped) ← runBlocks stop vars actions location rest
      return (outcome :: outcomes, stopped)

namespace CompiledRuleSet

/-- The place of a rule set. -/
def location (ruleSet : CompiledRuleSet World) : Location := { ruleSet := some ruleSet.id }

/-- Makes the instance of the variables for an event. -/
def constructVariables (ruleSet : CompiledRuleSet World) (args : EventArgs) :
    Effect World RuleError (VariablesInstance World) :=
  Effect.located (fun error => .providerConstruction ruleSet.variablesProvider error.message)
    ruleSet.location (ruleSet.variablesSource.construct args)

/-- Makes the instance of the actions for an event. -/
def constructActions (ruleSet : CompiledRuleSet World) (args : EventArgs) :
    Effect World RuleError (ActionsInstance World) :=
  Effect.located (fun error => .providerConstruction ruleSet.actionsProvider error.message)
    ruleSet.location (ruleSet.actionsSource.construct args)

/-- Triggers a rule set with the arguments of an event. Nothing happens if it is not enabled. -/
def trigger (ruleSet : CompiledRuleSet World) (args : EventArgs) :
    Effect World RuleError TriggerOutcome := do
  if ruleSet.enabled then
    let vars ← ruleSet.constructVariables args
    let actions ← ruleSet.constructActions args
    let (blocks, stoppedEarly) ←
      runBlocks ruleSet.stopOnFirstTrigger vars actions ruleSet.location ruleSet.blocks
    return { ruleSetId := ruleSet.id, stoppedEarly, blocks }
  else return { ruleSetId := ruleSet.id, skipped := true }

end CompiledRuleSet

end Rulebook
