/-
This file makes rule sets piece by piece, for programs that write their rules themselves. A block
and a rule set made here are enabled, while those that are read from JSON are not unless they say
so.
-/
import Rulebook.RuleSet

namespace Rulebook

/-- Keyword arguments with one more; an earlier one of that name is replaced. -/
def Kwargs.with (kwargs : Kwargs) (name : String) (value : Value) : Kwargs :=
  Fields.insert kwargs name value

/-- A condition that compares a property with a text. -/
def Condition.comparing (id property operator value : String) : Condition where
  id
  propertyMethod := property
  comparisonOperator := operator
  value := some value

/-- The condition with a keyword argument for its property. -/
def Condition.withKwarg (condition : Condition) (name : String) (value : Value) : Condition :=
  { condition with propertyKwargs := condition.propertyKwargs.with name value }

/-- The condition without a text to compare with. -/
def Condition.withoutValue (condition : Condition) : Condition := { condition with value := none }

/-- An action that runs a method. -/
def Action.running (id method : String) : Action where
  id
  actionMethod := method

/-- The action with a keyword argument. -/
def Action.withKwarg (action : Action) (name : String) (value : Value) : Action :=
  { action with actionKwargs := action.actionKwargs.with name value }

/-- A condition set without conditions. -/
def ConditionSet.combining (id name : String) (rule : Combination) : ConditionSet where
  id
  name
  combinationRule := rule.display

/-- The set inside another one. -/
def ConditionSet.inside (set : ConditionSet) (parent : String) : ConditionSet :=
  { set with parent := some parent }

/-- The set with one more condition, at the end. -/
def ConditionSet.withCondition (set : ConditionSet) (condition : Condition) : ConditionSet :=
  { set with conditions := set.conditions ++ [condition] }

/-- An enabled block without sets and actions. -/
def RuleBlock.named (id name : String) : RuleBlock where
  id
  name
  enabled := true

/-- The block with one more condition set, at the end. -/
def RuleBlock.withConditionSet (block : RuleBlock) (set : ConditionSet) : RuleBlock :=
  { block with conditionSets := block.conditionSets ++ [set] }

/-- The block with one more action, at the end. -/
def RuleBlock.withAction (block : RuleBlock) (action : Action) : RuleBlock :=
  { block with actions := block.actions ++ [action] }

/-- An enabled rule set without blocks, made at a point in time. -/
def RuleSet.named (id name variablesProvider actionsProvider : String) (now : Timestamp) :
    RuleSet where
  id
  name
  enabled := true
  variablesProvider
  actionsProvider
  createdAt := now
  updatedAt := now

/-- The rule set with a demand on the arguments of events. -/
def RuleSet.withSignalKwarg (ruleSet : RuleSet) (path : String) (value : Value) : RuleSet :=
  { ruleSet with signalKwargs := ruleSet.signalKwargs.with path value }

/-- The rule set with one more block, at the end. -/
def RuleSet.withBlock (ruleSet : RuleSet) (block : RuleBlock) : RuleSet :=
  { ruleSet with ruleBlocks := ruleSet.ruleBlocks ++ [block] }

end Rulebook
