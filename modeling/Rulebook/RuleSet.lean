/-
This file holds rule sets as they are defined: a rule set has blocks, a block has condition sets
and actions, and the condition sets of a block form trees by naming their parents. Names of
properties, operators, actions and providers are kept as texts; whether they exist is checked when
a rule set is compiled.
-/
import Rulebook.Value
import Rulebook.Timestamp

namespace Rulebook

/-- How the results of conditions and nested sets are combined. -/
inductive Combination where
  /-- All must hold. -/
  | all
  /-- At least one must hold. -/
  | any
  deriving DecidableEq, Inhabited

namespace Combination

/-- The text of a combination rule. -/
def display : Combination → String
  | .all => "all"
  | .any => "any"

/-- The combination rule that a text names, whatever its case and the blanks around it. -/
def ofText? (text : String) : Option Combination :=
  match Text.lower (Text.trim text) with
  | "all" => some .all
  | "any" => some .any
  | _ => none

/-- The combined result; nothing combines to true under `all` and to false under `any`. -/
def combine (rule : Combination) (results : List Bool) : Bool :=
  match rule with
  | .all => results.all id
  | .any => results.any id

end Combination

/-- A condition: a property, an operator, and the text to compare with. -/
structure Condition where
  id : String
  propertyMethod : String
  propertyKwargs : Kwargs := []
  comparisonOperator : String
  value : Option String := none
  deriving Inhabited

/-- An action to run when a block holds. -/
structure Action where
  id : String
  actionMethod : String
  actionKwargs : Kwargs := []
  deriving Inhabited

/-- Conditions that are combined. The rule is kept as a text, and a set without a parent stands on
its own in the block. -/
structure ConditionSet where
  id : String
  name : String
  combinationRule : String := "all"
  parent : Option String := none
  conditions : List Condition := []
  deriving Inhabited

/-- Conditions and the actions that run when they hold. -/
structure RuleBlock where
  id : String
  name : String
  enabled : Bool := false
  conditionSets : List ConditionSet := []
  actions : List Action := []
  deriving Inhabited

/-- A rule set, with the signal it listens to and the event arguments it insists on. -/
structure RuleSet where
  id : String
  name : String
  enabled : Bool := false
  notes : Option String := none
  signal : String := ""
  signalKwargs : Kwargs := []
  stopOnFirstTrigger : Bool := false
  variablesProvider : String
  actionsProvider : String
  ruleBlocks : List RuleBlock := []
  createdAt : Timestamp
  updatedAt : Timestamp
  deriving Inhabited

/-- The text of a condition: its property, or a hyphen if that is empty. -/
def Condition.display (condition : Condition) : String :=
  if condition.propertyMethod.isEmpty then "-" else condition.propertyMethod

/-- The text of a rule set: its name. -/
def RuleSet.display (ruleSet : RuleSet) : String := ruleSet.name

end Rulebook
