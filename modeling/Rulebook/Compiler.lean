/-
This file compiles rule sets. A rule set is accepted if all the names it uses are known and the
condition sets of its enabled blocks form trees; it is refused for the first fault in a fixed
order. Providers come first, the one for variables before the one for actions, then the enabled
blocks in order. In a block, repeated identifiers of sets come before what is wrong inside a set;
inside a set, its rule comes before its conditions; then come parents that do not exist, then
cycles, then actions. Blocks that are not enabled are not looked at.
-/
import Rulebook.Compiled
import Rulebook.Provider.Registry
import Rulebook.RuleSet.Definition

namespace Rulebook

/-- What the providers of a rule set offer. -/
structure Catalog where
  properties : Fields PropertyDescriptor
  actions : List String

/-- The properties and actions that two providers offer; of two properties with one name the later
counts. -/
def Catalog.of {World : Type} (vars : VariablesProvider World)
    (actions : ActionsProvider World) : Catalog where
  properties := Fields.ofList (vars.properties.map fun property => (property.name, property))
  actions := actions.actions

/-- Refuses a rule set for a fault at a place. -/
def refuse {α : Type} (fault : RuleFault) (location : Location) : Except RuleError α :=
  .error (.located fault location)

/-- A name that must be known. -/
def known {α : Type} (found : Option α) (fault : RuleFault) (location : Location) :
    Except RuleError α :=
  match found with
  | some entry => .ok entry
  | none => refuse fault location

/-! ### Conditions and actions -/

/-- The value a condition compares with: its text, or null if it has none. -/
def Condition.literal (condition : Condition) : Value :=
  match condition.value with
  | some characters => .text characters
  | none => .null

/-- The operator of a condition. The operator on patterns is bound to the pattern that the
condition compares with, which is read once and for all. -/
def Operator.bind (operator : Operator) (literal : Value) (location : Location) :
    Except RuleError Operator :=
  if Operator.isPatternId operator.id then
    match Operator.ofPattern literal.toText with
    | .ok bound => .ok bound
    | .error fault => refuse (.invalidPattern literal.toText fault.message) location
  else .ok operator

/-- Compiles a condition. Whether its property allows its operator is a matter of the canonical
identifier of the operator. -/
def Condition.compile (condition : Condition) (operators : OperatorRegistry) (catalog : Catalog)
    (location : Location) : Except RuleError CompiledCondition := do
  let property ← known (catalog.properties.find? condition.propertyMethod)
    (.unknownProperty condition.propertyMethod) location
  let operator ← known (operators.find? condition.comparisonOperator)
    (.unknownOperator condition.comparisonOperator) location
  if property.allows operator.id then
    let bound ← operator.bind condition.literal location
    return ⟨condition.id, condition.propertyMethod, condition.propertyKwargs, bound,
      condition.literal⟩
  else
    refuse (.operatorNotAllowed property.name condition.comparisonOperator
      (property.operators.getD [])) location

/-- Compiles an action. -/
def Action.compile (action : Action) (catalog : Catalog) (location : Location) :
    Except RuleError CompiledAction :=
  if catalog.actions.contains action.actionMethod then
    .ok ⟨action.id, action.actionMethod, action.actionKwargs⟩
  else refuse (.unknownAction action.actionMethod) location

/-! ### Condition sets -/

/-- Compiles a condition set. Its place among the others is not known yet. -/
def ConditionSet.compile (set : ConditionSet) (operators : OperatorRegistry) (catalog : Catalog)
    (location : Location) : Except RuleError CompiledConditionSet := do
  let rule ← known (Combination.ofText? set.combinationRule)
    (.invalidCombinationRule set.combinationRule) location
  let conditions ← set.conditions.mapM fun condition =>
    condition.compile operators catalog { location with condition := some condition.id }
  return { id := set.id, name := set.name, rule, conditions }

/-- The first identifier that occurred before. -/
def firstRepeated? (seen : List String) : List String → Option String
  | [] => none
  | id :: rest => if seen.contains id then some id else firstRepeated? (id :: seen) rest

/-- The position of the parent of a set. -/
def ConditionSet.parentPosition? (set : ConditionSet) (ids : List String) (location : Location) :
    Except RuleError (Option Nat) :=
  match set.parent with
  | none => .ok none
  | some parent => some <$> known (ids.idxOf? parent) (.unknownParentConditionSet parent) location

/-! ### Blocks and rule sets -/

/-- Compiles a block. -/
def RuleBlock.compile (block : RuleBlock) (operators : OperatorRegistry) (catalog : Catalog)
    (location : Location) : Except RuleError CompiledBlock := do
  let ids := block.conditionSets.map (·.id)
  let place (id : String) : Location := { location with conditionSet := some id }
  if let some id := firstRepeated? [] ids then
    refuse (.duplicateConditionSet id) (place id)
  let checked ← block.conditionSets.mapM fun set =>
    return (set, ← set.compile operators catalog (place set.id))
  let linked : LinkedSets ← checked.mapM fun (set, compiled) =>
    return (compiled, ← set.parentPosition? ids (place set.id))
  match acyclic : linked.nesting.cyclic? with
  | some index =>
    refuse .cyclicConditionSet { location with conditionSet := linked[index]?.map (·.1.id) }
  | none =>
    let actions ← block.actions.mapM fun action =>
      action.compile catalog { location with action := some action.id }
    return {
      id := block.id
      name := block.name
      roots := linked.nesting.roots
      sets := linked.arranged
      actions
      roots_lt := linked.roots_lt
      nests := linked.nests acyclic }

/-- A compiler: the names it knows, and how many rule sets it has accepted. -/
structure Compiler (World : Type) where
  operators : OperatorRegistry
  providers : ProviderRegistry World
  /-- The count has no bound here. A counter of 64 bits agrees with it up to the first `2 ^ 64`
  accepted rule sets. -/
  version : Nat := 0

namespace Compiler

variable {World : Type}

/-- The compiled form of a rule set, or the first thing that is wrong with it. -/
def check (compiler : Compiler World) (ruleSet : RuleSet) :
    Except RuleError (CompiledRuleSet World) := do
  let location : Location := { ruleSet := some ruleSet.id }
  let variablesSource ← known (compiler.providers.variablesByName.find? ruleSet.variablesProvider)
    (.providerConstruction ruleSet.variablesProvider "变量提供者未注册") location
  let actionsSource ← known (compiler.providers.actionsByName.find? ruleSet.actionsProvider)
    (.providerConstruction ruleSet.actionsProvider "动作提供者未注册") location
  let blocks ← (ruleSet.ruleBlocks.filter (·.enabled)).mapM fun block =>
    block.compile compiler.operators (Catalog.of variablesSource actionsSource)
      { location with block := some block.id }
  return {
    id := ruleSet.id
    name := ruleSet.name
    enabled := ruleSet.enabled
    signal := ruleSet.signal
    signalKwargs := ruleSet.signalKwargs
    stopOnFirstTrigger := ruleSet.stopOnFirstTrigger
    variablesProvider := ruleSet.variablesProvider
    actionsProvider := ruleSet.actionsProvider
    variablesSource
    actionsSource
    blocks
    version := compiler.version + 1 }

/-- Compiles a rule set. The compiler counts the ones it accepts. -/
def compile (compiler : Compiler World) (ruleSet : RuleSet) :
    Except RuleError (CompiledRuleSet World) × Compiler World :=
  match compiler.check ruleSet with
  | .ok compiled => (.ok compiled, { compiler with version := compiler.version + 1 })
  | .error error => (.error error, compiler)

/-- Compiles the rule set that a text defines. -/
def compileText (compiler : Compiler World) (absent : Absent) (text : String) :
    Except RuleError (CompiledRuleSet World) × Compiler World :=
  match RuleSet.ofText? absent text with
  | some ruleSet => compiler.compile ruleSet
  | none => (.error (.unreadable "not a rule set"), compiler)

end Compiler

end Rulebook
