/-
This file compares what is offered to those who write rules with what the compiler accepts. Both go
by the providers that are registered, but not by the same entry where a provider has several of one
name: the choices go by the first, the compiler by the last. In a table every name is entered once,
since a name that is entered again replaces the earlier entry. So for providers made from tables the
two agree, whatever was entered or registered again.

The operators of a property are a list that its table declares, and the identifiers offered by
default if there is none. The compiler looks for the canonical identifier of an operator in the
list. For the default operators under their own identifiers this is the identifier that is chosen.
Nothing keeps a table from declaring an operator that nobody registered, and a chosen operator on
patterns may be given what is no pattern; these rule sets are refused, though all their names were
chosen.
-/
import Mathlib.Data.List.Infix
import Rulebook.Proofs.Rejection
import Rulebook.Proofs.Tables

namespace Rulebook

variable {World : Type}

/-! ### Names that are entered once -/

namespace VariablesProvider

/-- No two properties have one name. -/
def Distinct (vars : VariablesProvider World) : Prop :=
  vars.properties.Pairwise fun first second => first.name ≠ second.name

variable {vars : VariablesProvider World} {name : String}

/-- Where names are different, the last property of a name is the first. -/
theorem Distinct.property?_eq (distinct : vars.Distinct) (name : String) :
    vars.property? name = vars.properties.find? (·.name == name) := by
  unfold Distinct at distinct
  unfold property?
  generalize vars.properties = properties at distinct ⊢
  induction properties with
  | nil => rfl
  | cons first rest inductionHypothesis =>
    obtain ⟨apart, restDistinct⟩ := List.pairwise_cons.mp distinct
    rw [List.reverse_cons, List.find?_append, inductionHypothesis restDistinct, List.find?_cons]
    cases same : first.name == name with
    | false => simp [same]
    | true =>
      have absent : rest.find? (·.name == name) = none := by
        refine List.find?_eq_none.mpr fun other member otherSame => apart other member ?_
        exact (beq_iff_eq.mp same).trans (beq_iff_eq.mp otherSame).symm
      simp [same, absent]

/-- A property is found exactly if its name is offered. -/
theorem exists_property?_iff :
    (∃ property, vars.property? name = some property) ↔ name ∈ vars.properties.map (·.name) := by
  unfold property?
  rw [← Option.isSome_iff_exists, List.find?_isSome, List.mem_map]
  simp

end VariablesProvider

/-! ### Tables that are registered -/

/-- Tables of properties are made by entering one after another, restricted to some operators or
not. -/
inductive VariablesTable.Entered {State : Type} : VariablesTable World State → Prop where
  | start (build : EventArgs → Effect World ProviderError State) : Entered { build }
  | accessor {table : VariablesTable World State} (entered : Entered table) (name : String)
      (read : State → Kwargs → Effect World ProviderError Value) :
      Entered (table.accessor name read)
  | restrictedAccessor {table : VariablesTable World State} (entered : Entered table)
      (name : String) (operators : List String)
      (read : State → Kwargs → Effect World ProviderError Value) :
      Entered (table.restrictedAccessor name operators read)

/-- Registries are made by registering tables under names. -/
inductive ProviderRegistry.OfTables : ProviderRegistry World → Prop where
  | start : OfTables {}
  | registerVariables {registry : ProviderRegistry World} (ofTables : OfTables registry)
      (name : String) {State : Type} {table : VariablesTable World State}
      (entered : table.Entered) : OfTables (registry.registerVariables name table.toProvider)
  | registerActions {registry : ProviderRegistry World} (ofTables : OfTables registry)
      (name : String) {State : Type} (table : ActionsTable World State) :
      OfTables (registry.registerActions name table.toProvider)

namespace VariablesTable.Entered

variable {State : Type} {table : VariablesTable World State}

theorem sorted (entered : table.Entered) : Fields.Sorted table.accessors := by
  induction entered with
  | start build => exact Fields.sorted_nil
  | accessor entered name read inductionHypothesis => exact inductionHypothesis.insert name _
  | restrictedAccessor entered name operators read inductionHypothesis =>
    exact inductionHypothesis.insert name _

theorem distinct (entered : table.Entered) : table.toProvider.Distinct :=
  List.pairwise_map.mpr (entered.sorted.imp String.ne_of_lt)

end VariablesTable.Entered

namespace ProviderRegistry

variable {registry : ProviderRegistry World} {provider : String} {vars : VariablesProvider World}
  {actions : ActionsProvider World}

/-- Whatever is registered, also in place of something else, has one property of each name. -/
theorem OfTables.distinct (ofTables : registry.OfTables)
    (found : registry.variablesByName.find? provider = some vars) : vars.Distinct := by
  induction ofTables generalizing provider vars with
  | start => exact nomatch found
  | registerVariables ofTables name entered inductionHypothesis =>
    exact Fields.forall_find?_insert (fun _ _ => inductionHypothesis) entered.distinct _ _ found
  | registerActions ofTables name table inductionHypothesis => exact inductionHypothesis found

/-! ### What may be chosen -/

theorem mem_propertyChoices_iff (found : registry.variablesByName.find? provider = some vars)
    {name : String} :
    name ∈ registry.propertyChoices provider ↔ ∃ property, vars.property? name = some property := by
  unfold propertyChoices
  rw [found, VariablesProvider.exists_property?_iff]

/-- The operators of a property that the compiler finds. -/
theorem operatorChoices_eq (found : registry.variablesByName.find? provider = some vars)
    (distinct : vars.Distinct) {name : String} {property : PropertyDescriptor}
    (offered : vars.property? name = some property) :
    registry.operatorChoices provider name = property.operators.getD Operator.offered := by
  rw [distinct.property?_eq] at offered
  unfold operatorChoices declaredOperators?
  rw [found, Option.bind_eq_bind, Option.bind_some, offered]
  rfl

theorem mem_actionChoices_iff (found : registry.actionsByName.find? provider = some actions)
    {name : String} : name ∈ registry.actionChoices provider ↔ name ∈ actions.actions := by
  unfold actionChoices
  rw [found]

end ProviderRegistry

/-! ### Default operators under their own identifiers -/

/-- The identifiers of the default operators. -/
def Operator.defaultIds : List String := Operator.defaults.map (·.id)

theorem Operator.offered_subset_defaultIds : Operator.offered ⊆ Operator.defaultIds := by
  decide +kernel

theorem OperatorRegistry.exists_find?_of_mem_defaultIds {id : String}
    (default : id ∈ Operator.defaultIds) :
    ∃ operator, OperatorRegistry.defaults.find? id = some operator ∧ operator.id = id := by
  have all : ∀ id ∈ Operator.defaultIds,
      (OperatorRegistry.defaults.find? id).map (·.id) = some id := by decide +kernel
  exact Option.map_eq_some_iff.mp (all id default)

/-! ### Rule sets that are refused -/

namespace Compiler

/-- The compiler comes to some checks of a rule set: all that are made before them hold. -/
def ComesTo (compiler : Compiler World) (ruleSet : RuleSet) (checks : List Check) : Prop :=
  ∃ earlier later, ruleSet.checks = earlier ++ (checks ++ later) ∧
    ∀ other ∈ earlier, other.Holds compiler ruleSet

variable {compiler : Compiler World} {ruleSet : RuleSet} {check : Check} {checks more : List Check}

/-- After checks that hold the compiler comes to the next ones. -/
theorem ComesTo.next (comes : compiler.ComesTo ruleSet (checks ++ more))
    (hold : ∀ other ∈ checks, other.Holds compiler ruleSet) : compiler.ComesTo ruleSet more := by
  obtain ⟨earlier, later, listed, before⟩ := comes
  refine ⟨earlier ++ checks, later, ?_, List.forall_mem_append.mpr ⟨before, hold⟩⟩
  rw [listed, List.append_assoc, List.append_assoc]

/-- A rule set is refused for a check that does not hold. -/
theorem exists_failed_of_refused {error : RuleError}
    (refused : (compiler.compile ruleSet).1 = .error error) :
    ∃ check : Check, ¬ check.Holds compiler ruleSet ∧ check.Tells compiler ruleSet error := by
  rw [compile_fst] at refused
  obtain ⟨_, check, _, -, -, fails, tells⟩ :=
    (compiler.check_carriesOut ruleSet).refuses error refused
  exact ⟨check, fails, tells⟩

/-- The check that the compiler comes to tells the error if it does not hold. -/
theorem ComesTo.exists_error (comes : compiler.ComesTo ruleSet (check :: more))
    (fails : ¬ check.Holds compiler ruleSet) :
    ∃ error, (compiler.compile ruleSet).1 = .error error ∧
      check.Tells compiler ruleSet error := by
  obtain ⟨earlier, later, listed, hold⟩ := comes
  rw [List.cons_append] at listed
  rw [compile_fst]
  have steps := compiler.check_carriesOut ruleSet
  cases checked : compiler.check ruleSet with
  | ok compiled =>
    refine absurd (steps.accepts compiled checked check ?_) fails
    rw [listed]
    exact List.mem_append_right earlier List.mem_cons_self
  | error error =>
    refine ⟨error, rfl, ?_⟩
    obtain ⟨before, first, after, same, beforeHold, firstFails, tells⟩ :=
      steps.refuses error checked
    -- Neither of the two can stand among the checks before the other.
    obtain ⟨between, ends, continues⟩ | ⟨between, ends, continues⟩ :=
      List.append_eq_append_iff.mp (listed.symm.trans same)
    · cases between with
      | nil =>
        obtain ⟨rfl, -⟩ := List.cons.inj continues
        exact tells
      | cons other rest =>
        obtain ⟨rfl, -⟩ := List.cons.inj continues
        exact absurd (beforeHold check (ends ▸ List.mem_append_right earlier List.mem_cons_self))
          fails
    · cases between with
      | nil =>
        obtain ⟨rfl, -⟩ := List.cons.inj continues
        exact tells
      | cons other rest =>
        obtain ⟨rfl, -⟩ := List.cons.inj continues
        exact absurd (hold first (ends ▸ List.mem_append_right before List.mem_cons_self))
          firstFails

end Compiler

/-- The faults about names which could have been chosen each belong to one kind of check. -/
theorem Check.kind_of_tells {compiler : Compiler World} {ruleSet : RuleSet} {check : Check}
    {fault : RuleFault} {location : Location}
    (tells : check.Tells compiler ruleSet (.located fault location)) :
    match fault with
    | .unknownProperty name => ∃ block set condition,
      check = .property block set condition ∧ condition.propertyMethod = name
    | .operatorNotAllowed name used _ => ∃ block set condition,
      check = .allowList block set condition ∧ condition.propertyMethod = name ∧
        condition.comparisonOperator = used
    | .unknownAction name => ∃ block action,
      check = .action block action ∧ action.actionMethod = name
    | _ => True := by
  cases check with
  | property block set condition =>
    obtain ⟨rfl, -⟩ := RuleError.located.inj tells
    exact ⟨block, set, condition, rfl, rfl⟩
  | allowList block set condition =>
    obtain ⟨_, _, _, _, same⟩ := tells
    obtain ⟨rfl, -⟩ := RuleError.located.inj same
    exact ⟨block, set, condition, rfl, rfl, rfl⟩
  | action block called =>
    obtain ⟨rfl, -⟩ := RuleError.located.inj tells
    exact ⟨block, called, rfl, rfl⟩
  | pattern block set condition =>
    obtain ⟨_, -, same⟩ := tells
    obtain ⟨rfl, -⟩ := RuleError.located.inj same
    trivial
  | parent block set =>
    obtain ⟨_, -, same⟩ := tells
    obtain ⟨rfl, -⟩ := RuleError.located.inj same
    trivial
  | cycle block =>
    obtain ⟨_, -, same⟩ := tells
    obtain ⟨rfl, -⟩ := RuleError.located.inj same
    trivial
  | _ =>
    obtain ⟨rfl, -⟩ := RuleError.located.inj tells
    trivial

/-- The place of a condition of a rule set. -/
def Condition.placeIn (condition : Condition) (ruleSet : RuleSet) (block : RuleBlock)
    (set : ConditionSet) : Location :=
  ((block.placeIn ruleSet).ofSet set).ofCondition condition

namespace Compiler

variable {compiler : Compiler World} {ruleSet : RuleSet} {block : RuleBlock} {set : ConditionSet}
  {condition : Condition} {action : Action}

/-- If the compiler comes to a condition, it refuses the property just if that is not offered. -/
theorem refuses_property_iff (comes : compiler.ComesTo ruleSet (condition.checks block set)) :
    (compiler.compile ruleSet).1 = .error (.located (.unknownProperty condition.propertyMethod)
        (condition.placeIn ruleSet block set)) ↔
      compiler.property? ruleSet condition.propertyMethod = none := by
  constructor
  · intro refused
    obtain ⟨check, fails, tells⟩ := exists_failed_of_refused refused
    obtain ⟨otherBlock, otherSet, other, rfl, same⟩ := Check.kind_of_tells tells
    rw [← same]
    exact Option.eq_none_iff_forall_ne_some.mpr fun property found => fails ⟨property, found⟩
  · intro missing
    have fails : ¬ (Check.property block set condition).Holds compiler ruleSet := by
      rintro ⟨property, found⟩
      exact nomatch missing.symm.trans found
    obtain ⟨error, refused, rfl⟩ := comes.exists_error fails
    exact refused

/-- If the compiler comes to a condition with a known property and a known operator, it refuses the
operator just if the property is restricted to others. -/
theorem refuses_operator_iff (comes : compiler.ComesTo ruleSet (condition.checks block set))
    {property : PropertyDescriptor} {operator : Operator}
    (propertyFound : compiler.property? ruleSet condition.propertyMethod = some property)
    (operatorFound : compiler.operators.find? condition.comparisonOperator = some operator) :
    (∃ allowed, (compiler.compile ruleSet).1 = .error (.located
        (.operatorNotAllowed condition.propertyMethod condition.comparisonOperator allowed)
        (condition.placeIn ruleSet block set))) ↔
      ∃ allowed, property.operators = some allowed ∧ operator.id ∉ allowed := by
  constructor
  · rintro ⟨_, refused⟩
    obtain ⟨check, fails, tells⟩ := exists_failed_of_refused refused
    obtain ⟨otherBlock, otherSet, other, rfl, sameProperty, sameOperator⟩ :=
      Check.kind_of_tells tells
    refine Decidable.byContradiction fun none => fails ?_
    intro otherProperty otherOperator allowed otherPropertyFound otherOperatorFound restricted
    rw [sameProperty] at otherPropertyFound
    rw [sameOperator] at otherOperatorFound
    obtain rfl := Option.some.inj (propertyFound.symm.trans otherPropertyFound)
    obtain rfl := Option.some.inj (operatorFound.symm.trans otherOperatorFound)
    exact Decidable.byContradiction fun absent => none ⟨allowed, restricted, absent⟩
  · rintro ⟨allowed, restricted, absent⟩
    have fails : ¬ (Check.allowList block set condition).Holds compiler ruleSet :=
      fun held => absent (held property operator allowed propertyFound operatorFound restricted)
    have known : ∀ other ∈ [Check.property block set condition, .operator block set condition],
        other.Holds compiler ruleSet :=
      List.forall_mem_cons.mpr ⟨⟨property, propertyFound⟩,
        List.forall_mem_singleton.mpr ⟨operator, operatorFound⟩⟩
    have comesToList : compiler.ComesTo ruleSet
        [.allowList block set condition, .pattern block set condition] := comes.next known
    obtain ⟨error, refused, _, _, _, _, rfl⟩ := comesToList.exists_error fails
    exact ⟨_, refused⟩

/-- If the compiler comes to an action, it refuses it just if it is not offered. -/
theorem refuses_action_iff {actions : ActionsProvider World}
    (actionsFound : compiler.providers.actionsByName.find? ruleSet.actionsProvider = some actions)
    (comes : compiler.ComesTo ruleSet [.action block action]) :
    (compiler.compile ruleSet).1 = .error (.located (.unknownAction action.actionMethod)
        { block.placeIn ruleSet with action := some action.id }) ↔
      action.actionMethod ∉ actions.actions := by
  constructor
  · intro refused
    obtain ⟨check, fails, tells⟩ := exists_failed_of_refused refused
    obtain ⟨otherBlock, other, rfl, same⟩ := Check.kind_of_tells tells
    rw [← same]
    exact mt (Check.holds_action_iff actionsFound).mpr fails
  · intro absent
    obtain ⟨error, refused, rfl⟩ :=
      comes.exists_error (mt (Check.holds_action_iff actionsFound).mp absent)
    exact refused

end Compiler

/-! ### Rule sets made of choices -/

/-- What is asked of a block apart from the names in its conditions and actions. -/
structure RuleBlock.Structured (block : RuleBlock) : Prop where
  distinct : block.conditionSets.Pairwise fun first second => first.id ≠ second.id
  rules : ∀ set ∈ block.conditionSets,
    Text.lower (Text.trim set.combinationRule) = "all" ∨
      Text.lower (Text.trim set.combinationRule) = "any"
  parents : ∀ set ∈ block.conditionSets, ∀ parent, set.parent = some parent →
    ∃ above ∈ block.conditionSets, above.id = parent
  grounded : ∀ set ∈ block.conditionSets, set.Grounded block.conditionSets

/-- All names in the conditions and actions of a block are choices. -/
structure RuleBlock.Chosen (block : RuleBlock) (registry : ProviderRegistry World)
    (variablesName actionsName : String) : Prop where
  properties : ∀ set ∈ block.conditionSets, ∀ condition ∈ set.conditions,
    condition.propertyMethod ∈ registry.propertyChoices variablesName
  operators : ∀ set ∈ block.conditionSets, ∀ condition ∈ set.conditions,
    condition.comparisonOperator ∈ registry.operatorChoices variablesName condition.propertyMethod
  actions : ∀ action ∈ block.actions, action.actionMethod ∈ registry.actionChoices actionsName

/-- A condition names a default operator by its own identifier, and what the operator on patterns is
given is a pattern. -/
def Condition.Plain (condition : Condition) : Prop :=
  condition.comparisonOperator ∈ Operator.defaultIds ∧
    (condition.comparisonOperator = Operator.matchesId →
      ∃ pattern, Pattern.ofText? (condition.value.getD "") = .ok pattern)

namespace Compiler

variable {compiler : Compiler World} {ruleSet : RuleSet} {block : RuleBlock} {set : ConditionSet}
  {condition : Condition} {action : Action} {vars : VariablesProvider World}
  {actions : ActionsProvider World}

section Registered

variable (operators : compiler.operators = .defaults)
  (varsFound : compiler.providers.variablesByName.find? ruleSet.variablesProvider = some vars)
  (actionsFound : compiler.providers.actionsByName.find? ruleSet.actionsProvider = some actions)

include varsFound in
theorem property?_eq_of_found (name : String) :
    compiler.property? ruleSet name = vars.property? name := by
  unfold property?
  rw [varsFound]
  rfl

include operators varsFound in
/-- A chosen property allows the default operators that are chosen for it, and no others of those
that are offered. -/
theorem allows_iff_mem_operatorChoices (distinct : vars.Distinct) {property : PropertyDescriptor}
    (propertyFound : vars.property? condition.propertyMethod = some property)
    (default : condition.comparisonOperator ∈ Operator.defaultIds) :
    ∃ operator, compiler.operators.find? condition.comparisonOperator = some operator ∧
      operator.id = condition.comparisonOperator ∧
      (condition.comparisonOperator ∈ compiler.providers.operatorChoices ruleSet.variablesProvider
          condition.propertyMethod →
        ∀ allowed, property.operators = some allowed → operator.id ∈ allowed) ∧
      (condition.comparisonOperator ∈ Operator.offered →
        (condition.comparisonOperator ∉ compiler.providers.operatorChoices
          ruleSet.variablesProvider condition.propertyMethod ↔
          ∃ allowed, property.operators = some allowed ∧ operator.id ∉ allowed)) := by
  obtain ⟨operator, found, named⟩ := OperatorRegistry.exists_find?_of_mem_defaultIds default
  rw [← operators] at found
  rw [ProviderRegistry.operatorChoices_eq varsFound distinct propertyFound]
  refine ⟨operator, found, named, ?_, fun offered => ?_⟩
  · intro chosen allowed restricted
    rw [restricted] at chosen
    rwa [named]
  · rw [named]
    cases property.operators with
    | none => exact iff_of_false (absurd offered) nofun
    | some allowed => simp

include operators varsFound actionsFound in
theorem wellFormed_of_chosen (distinct : vars.Distinct) (structured : block.Structured)
    (chosen : block.Chosen compiler.providers ruleSet.variablesProvider ruleSet.actionsProvider)
    (plain : ∀ set ∈ block.conditionSets, ∀ condition ∈ set.conditions, condition.Plain) :
    block.WellFormed compiler.operators vars actions where
  distinct := structured.distinct
  rules := structured.rules
  parents := structured.parents
  grounded := structured.grounded
  conditions set inBlock condition inSet := by
    obtain ⟨default, spells⟩ := plain set inBlock condition inSet
    obtain ⟨property, propertyFound⟩ := (ProviderRegistry.mem_propertyChoices_iff varsFound).mp
      (chosen.properties set inBlock condition inSet)
    obtain ⟨operator, found, named, allows, -⟩ :=
      allows_iff_mem_operatorChoices operators varsFound distinct propertyFound default
    refine ⟨property, operator, propertyFound, found,
      allows (chosen.operators set inBlock condition inSet), fun onPatterns => ?_⟩
    exact spells (named.symm.trans onPatterns)
  actions action member :=
    (ProviderRegistry.mem_actionChoices_iff actionsFound).mp (chosen.actions action member)

end Registered

end Compiler

/-- What an item is made into stands among what all items are made into. -/
theorem infix_flatMap {Item Part : Type} {items : List Item} {item : Item} (member : item ∈ items)
    (inside : Item → List Part) : inside item <:+: items.flatMap inside :=
  List.infix_of_mem_flatten (List.mem_map_of_mem member)

section Listed

variable {ruleSet : RuleSet} {block : RuleBlock} {set : ConditionSet} {condition : Condition}
  {action : Action}

theorem RuleSet.infix_checks_of_block (inRuleSet : block ∈ ruleSet.ruleBlocks)
    (enabled : block.enabled = true) : block.checks <:+: ruleSet.checks :=
  List.infix_cons (List.infix_cons
    (infix_flatMap (List.mem_filter.mpr ⟨inRuleSet, enabled⟩) RuleBlock.checks))

/-- The compiler may come to every condition of an enabled block. -/
theorem RuleSet.infix_checks_of_condition (inRuleSet : block ∈ ruleSet.ruleBlocks)
    (enabled : block.enabled = true) (inBlock : set ∈ block.conditionSets)
    (inSet : condition ∈ set.conditions) : condition.checks block set <:+: ruleSet.checks := by
  have insideSet : condition.checks block set <:+: set.checks block :=
    List.infix_cons (infix_flatMap inSet fun condition => condition.checks block set)
  have insideSets : set.checks block <:+: block.conditionSets.flatMap fun set => set.checks block :=
    infix_flatMap inBlock fun set => set.checks block
  have insideBlock : (block.conditionSets.flatMap fun set => set.checks block) <:+: block.checks :=
    List.infix_append' _ _ _
  exact insideSet.trans (insideSets.trans
    (insideBlock.trans (infix_checks_of_block inRuleSet enabled)))

/-- The compiler may come to every action of an enabled block. -/
theorem RuleSet.infix_checks_of_action (inRuleSet : block ∈ ruleSet.ruleBlocks)
    (enabled : block.enabled = true) (inBlock : action ∈ block.actions) :
    [.action block action] <:+: ruleSet.checks := by
  have listed : [Check.action block action] <:+: block.actions.map (.action block) :=
    (List.singleton_infix_iff _ _).mpr (List.mem_map_of_mem inBlock)
  have insideBlock : block.actions.map (.action block) <:+: block.checks :=
    ((List.suffix_cons _ _).trans ((List.suffix_append _ _).trans
      ((List.suffix_append _ _).trans (List.suffix_append _ _)))).isInfix
  exact listed.trans (insideBlock.trans (infix_checks_of_block inRuleSet enabled))

end Listed

namespace Compiler

/-- What may be chosen and what the compiler accepts agree for a rule set. -/
structure FollowsChoices (compiler : Compiler World) (ruleSet : RuleSet) : Prop where
  /-- The compiler may come to every condition of an enabled block. -/
  conditions_listed : ∀ block ∈ ruleSet.ruleBlocks, block.enabled = true →
    ∀ set ∈ block.conditionSets, ∀ condition ∈ set.conditions,
      condition.checks block set <:+: ruleSet.checks
  /-- The compiler may come to every action of an enabled block. -/
  actions_listed : ∀ block ∈ ruleSet.ruleBlocks, block.enabled = true →
    ∀ action ∈ block.actions, [.action block action] <:+: ruleSet.checks
  /-- A property is refused just if it is no choice. -/
  property_iff : ∀ (block : RuleBlock) (set : ConditionSet) (condition : Condition),
    compiler.ComesTo ruleSet (condition.checks block set) →
    ((compiler.compile ruleSet).1 = .error (.located (.unknownProperty condition.propertyMethod)
        (condition.placeIn ruleSet block set)) ↔
      condition.propertyMethod ∉ compiler.providers.propertyChoices ruleSet.variablesProvider)
  /-- An operator that is offered by default is refused for a property just if it is no choice for
  it. -/
  operator_iff : ∀ (block : RuleBlock) (set : ConditionSet) (condition : Condition),
    compiler.ComesTo ruleSet (condition.checks block set) →
    condition.propertyMethod ∈ compiler.providers.propertyChoices ruleSet.variablesProvider →
    condition.comparisonOperator ∈ Operator.offered →
    ((∃ allowed, (compiler.compile ruleSet).1 = .error (.located
        (.operatorNotAllowed condition.propertyMethod condition.comparisonOperator allowed)
        (condition.placeIn ruleSet block set))) ↔
      condition.comparisonOperator ∉
        compiler.providers.operatorChoices ruleSet.variablesProvider condition.propertyMethod)
  /-- An action is refused just if it is no choice. -/
  action_iff : ∀ (block : RuleBlock) (action : Action),
    compiler.ComesTo ruleSet [.action block action] →
    ((compiler.compile ruleSet).1 = .error (.located (.unknownAction action.actionMethod)
        { block.placeIn ruleSet with action := some action.id }) ↔
      action.actionMethod ∉ compiler.providers.actionChoices ruleSet.actionsProvider)
  /-- A rule set made of choices is accepted, if its operators are default ones under their own
  identifiers, its patterns are patterns, and the structure of its blocks is right. -/
  accepts : (∀ block ∈ ruleSet.ruleBlocks, block.enabled = true → block.Structured ∧
      block.Chosen compiler.providers ruleSet.variablesProvider ruleSet.actionsProvider ∧
      ∀ set ∈ block.conditionSets, ∀ condition ∈ set.conditions, condition.Plain) →
    ∃ compiled, (compiler.compile ruleSet).1 = .ok compiled
  /-- What is accepted is made of choices, as far as operators are concerned that are offered by
  default. -/
  chosen : ∀ compiled, (compiler.compile ruleSet).1 = .ok compiled →
    ∀ block ∈ ruleSet.ruleBlocks, block.enabled = true →
      (∀ set ∈ block.conditionSets, ∀ condition ∈ set.conditions,
        condition.propertyMethod ∈ compiler.providers.propertyChoices ruleSet.variablesProvider ∧
        (condition.comparisonOperator ∈ Operator.offered → condition.comparisonOperator ∈
          compiler.providers.operatorChoices ruleSet.variablesProvider
            condition.propertyMethod)) ∧
      ∀ action ∈ block.actions,
        action.actionMethod ∈ compiler.providers.actionChoices ruleSet.actionsProvider

/-- Over providers made from tables and with the default operators, choices and compiler agree for
every rule set whose providers are registered. -/
theorem choices_agree {compiler : Compiler World} {ruleSet : RuleSet}
    {vars : VariablesProvider World} {actions : ActionsProvider World}
    (tables : compiler.providers.OfTables) (operators : compiler.operators = .defaults)
    (varsFound : compiler.providers.variablesByName.find? ruleSet.variablesProvider = some vars)
    (actionsFound : compiler.providers.actionsByName.find? ruleSet.actionsProvider =
      some actions) : compiler.FollowsChoices ruleSet := by
  have distinct := tables.distinct varsFound
  have offers {name : String} :
      name ∈ compiler.providers.propertyChoices ruleSet.variablesProvider ↔
        ∃ property, vars.property? name = some property :=
    ProviderRegistry.mem_propertyChoices_iff varsFound
  refine ⟨fun block inRuleSet enabled set inBlock condition inSet => ?_,
    fun block inRuleSet enabled action inBlock => ?_, fun block set condition comes => ?_,
    fun block set condition comes known offered => ?_, fun block action comes => ?_,
    fun made => ?_, fun compiled accepted block inRuleSet enabled => ?_⟩
  · exact RuleSet.infix_checks_of_condition inRuleSet enabled inBlock inSet
  · exact RuleSet.infix_checks_of_action inRuleSet enabled inBlock
  · rw [refuses_property_iff comes, property?_eq_of_found varsFound, offers,
      Option.eq_none_iff_forall_ne_some, not_exists]
  · obtain ⟨property, propertyFound⟩ := offers.mp known
    obtain ⟨operator, operatorFound, -, -, restricts⟩ := allows_iff_mem_operatorChoices operators
      varsFound distinct propertyFound (Operator.offered_subset_defaultIds offered)
    rw [← property?_eq_of_found varsFound] at propertyFound
    rw [refuses_operator_iff comes propertyFound operatorFound, restricts offered]
  · rw [refuses_action_iff actionsFound comes, ProviderRegistry.mem_actionChoices_iff actionsFound]
  · rw [compile_fst]
    refine exists_check_iff.mpr ⟨vars, actions, varsFound, actionsFound, ?_⟩
    intro block inRuleSet enabled
    obtain ⟨structured, chosen, plain⟩ := made block inRuleSet enabled
    exact wellFormed_of_chosen operators varsFound actionsFound distinct structured chosen plain
  · rw [compile_fst] at accepted
    obtain ⟨otherVars, otherActions, otherVarsFound, otherActionsFound, wellFormed⟩ :=
      exists_check_iff.mp ⟨compiled, accepted⟩
    obtain rfl := Option.some.inj (varsFound.symm.trans otherVarsFound)
    obtain rfl := Option.some.inj (actionsFound.symm.trans otherActionsFound)
    have inside := wellFormed block inRuleSet enabled
    refine ⟨fun set inBlock condition inSet => ?_, fun action inBlock => ?_⟩
    · obtain ⟨property, operator, propertyFound, operatorFound, allows, -⟩ :=
        inside.conditions set inBlock condition inSet
      refine ⟨offers.mpr ⟨property, propertyFound⟩, fun offered => ?_⟩
      obtain ⟨other, otherFound, -, -, restricts⟩ := allows_iff_mem_operatorChoices operators
        varsFound distinct propertyFound (Operator.offered_subset_defaultIds offered)
      obtain rfl := Option.some.inj (operatorFound.symm.trans otherFound)
      refine Decidable.byContradiction fun absent => ?_
      obtain ⟨allowed, restricted, missing⟩ := (restricts offered).mp absent
      exact missing (allows allowed restricted)
    · exact (ProviderRegistry.mem_actionChoices_iff actionsFound).mpr
        (inside.actions action inBlock)

end Compiler

/-! ### Entries that were changed -/

/-- A set with one condition. -/
def ConditionSet.asking (condition : Condition) : ConditionSet where
  id := "set"
  name := "set"
  conditions := [condition]

/-- A block with one condition. -/
def RuleBlock.asking (condition : Condition) : RuleBlock where
  id := "block"
  name := "block"
  enabled := true
  conditionSets := [.asking condition]

/-- A rule set with one condition. -/
def RuleSet.asking (condition : Condition) : RuleSet where
  id := "rules"
  name := "rules"
  variablesProvider := "goods"
  actionsProvider := "none"
  enabled := true
  ruleBlocks := [.asking condition]
  createdAt := ⟨0, 0⟩
  updatedAt := ⟨0, 0⟩

/-- A condition on a property. -/
def Condition.on (property operator value : String) : Condition :=
  ⟨"condition", property, [], operator, some value⟩

/-- A table without properties. -/
def VariablesTable.bare : VariablesTable Unit Unit where
  build _ := pure ()

/-- A table in which the price was first entered for all operators, and the note is for an operator
of nobody and the one on patterns. -/
def VariablesTable.goods : VariablesTable Unit Unit :=
  ((bare.accessor "get_price" fun _ _ => pure .null).restrictedAccessor "get_note"
    ["shout", "matches"] fun _ _ => pure .null).restrictedAccessor "get_price" ["lt", "matches"]
      fun _ _ => pure .null

/-- A compiler over goods, in place of which a table without properties was registered at first. -/
def Compiler.ofGoods : Compiler Unit where
  operators := .defaults
  providers := ((ProviderRegistry.registerVariables {} "goods"
    VariablesTable.bare.toProvider).registerVariables "goods"
      VariablesTable.goods.toProvider).registerActions "none" ActionsTable.idle.toProvider

theorem RuleBlock.structured_asking (condition : Condition) : (asking condition).Structured where
  distinct := List.pairwise_singleton _ _
  rules :=
    have plain : Text.lower (Text.trim "all") = "all" := by decide +kernel
    List.forall_mem_singleton.mpr (.inl plain)
  parents := List.forall_mem_singleton.mpr nofun
  grounded := List.forall_mem_singleton.mpr (.onTop rfl)

theorem VariablesTable.entered_goods : goods.Entered :=
  .restrictedAccessor (.restrictedAccessor (.accessor (.start _) _ _) _ _ _) _ _ _

namespace Compiler

theorem ofTables_ofGoods : ofGoods.providers.OfTables :=
  .registerActions (.registerVariables (.registerVariables .start "goods" (.start _)) "goods"
    VariablesTable.entered_goods) "none" _

theorem ofGoods_variables : ofGoods.providers.variablesByName.find? "goods" =
    some VariablesTable.goods.toProvider :=
  Fields.find?_insert_self _ "goods" _

theorem ofGoods_actions : ofGoods.providers.actionsByName.find? "none" =
    some ActionsTable.idle.toProvider :=
  Fields.find?_insert_self _ "none" _

/-- A compiler that knows the providers of a rule set with one condition comes to the condition. -/
theorem comesTo_asking_of_found {compiler : Compiler Unit}
    (variablesFound : ∃ vars, compiler.providers.variablesByName.find? "goods" = some vars)
    (actionsFound : ∃ actions, compiler.providers.actionsByName.find? "none" = some actions)
    (condition : Condition) : compiler.ComesTo (.asking condition)
      (condition.checks (.asking condition) (.asking condition)) := by
  have structured := RuleBlock.structured_asking condition
  refine ⟨[.variablesProvider, .actionsProvider, .setId (.asking condition) [] (.asking condition),
    .combinationRule (.asking condition) (.asking condition)],
    [.parent (.asking condition) (.asking condition), .cycle (.asking condition)], rfl, ?_⟩
  refine List.forall_mem_cons.mpr ⟨variablesFound, List.forall_mem_cons.mpr
    ⟨actionsFound, List.forall_mem_cons.mpr ⟨nofun, List.forall_mem_singleton.mpr ?_⟩⟩⟩
  exact structured.rules _ (List.mem_singleton_self _)

/-- The compiler over goods comes to the condition of a rule set that has only one. -/
theorem comesTo_asking (condition : Condition) : ofGoods.ComesTo (.asking condition)
    (condition.checks (.asking condition) (.asking condition)) :=
  comesTo_asking_of_found ⟨_, ofGoods_variables⟩ ⟨_, ofGoods_actions⟩ condition

/-- A rule set with one condition is made of choices if its property and its operator are. -/
theorem chosen_asking {property operator : String} (value : String)
    (offered : property ∈ ofGoods.providers.propertyChoices "goods")
    (allowed : operator ∈ ofGoods.providers.operatorChoices "goods" property) :
    (RuleBlock.asking (.on property operator value)).Chosen ofGoods.providers "goods" "none" where
  properties := List.forall_mem_singleton.mpr (List.forall_mem_singleton.mpr offered)
  operators := List.forall_mem_singleton.mpr (List.forall_mem_singleton.mpr allowed)
  actions := nofun

theorem eq_error_of_decide {Result : Type} {result : Except RuleError Result} {error : RuleError}
    (told : (match result with
      | .ok _ => false
      | .error other => decide (other = error)) = true) : result = .error error := by
  cases result with
  | ok _ => exact nomatch told
  | error other => exact congrArg Except.error (of_decide_eq_true told)

/-- The place of the condition of a rule set that has only one. -/
def onlyCondition : Location where
  ruleSet := some "rules"
  block := some "block"
  conditionSet := some "set"
  condition := some "condition"

/-- The price is refused for an operator that its first entry allowed, and accepted for another. -/
theorem choices_agree_price :
    (∃ allowed, (ofGoods.compile (.asking (.on "get_price" "eq" "1"))).1 =
        .error (.located (.operatorNotAllowed "get_price" "eq" allowed) onlyCondition)) ∧
      ∃ compiled, (ofGoods.compile (.asking (.on "get_price" "lt" "1"))).1 = .ok compiled := by
  have follows (operator : String) :
      ofGoods.FollowsChoices (.asking (.on "get_price" operator "1")) :=
    choices_agree ofTables_ofGoods rfl ofGoods_variables ofGoods_actions
  have offered : "get_price" ∈ ofGoods.providers.propertyChoices "goods" := by decide +kernel
  constructor
  · have absent : "eq" ∉ ofGoods.providers.operatorChoices "goods" "get_price" := by decide +kernel
    exact ((follows "eq").operator_iff _ _ _ (comesTo_asking _) offered (by decide)).mpr absent
  · have allowed : "lt" ∈ ofGoods.providers.operatorChoices "goods" "get_price" := by decide +kernel
    have plain : (Condition.on "get_price" "lt" "1").Plain :=
      ⟨by decide, fun onPatterns => absurd onPatterns (by decide)⟩
    refine (follows "lt").accepts (List.forall_mem_singleton.mpr fun _ => ?_)
    exact ⟨RuleBlock.structured_asking _, chosen_asking "1" offered allowed,
      List.forall_mem_singleton.mpr (List.forall_mem_singleton.mpr plain)⟩

/-- Two operators that may be chosen for the note are refused: one is registered by nobody, and the
other is given what is no pattern. -/
theorem refuses_chosen_operators :
    ofGoods.providers.OfTables ∧ ofGoods.operators = .defaults ∧
      (∃ vars, ofGoods.providers.variablesByName.find? "goods" = some vars) ∧
      (∃ actions, ofGoods.providers.actionsByName.find? "none" = some actions) ∧
      (∀ operator ∈ ["shout", "matches"],
        (RuleBlock.asking (.on "get_note" operator "(")).Structured ∧
        (RuleBlock.asking (.on "get_note" operator "(")).Chosen ofGoods.providers "goods" "none") ∧
      (ofGoods.compile (.asking (.on "get_note" "shout" "("))).1 =
        .error (.located (.unknownOperator "shout") onlyCondition) ∧
      (ofGoods.compile (.asking (.on "get_note" "matches" "("))).1 =
        .error (.located (.invalidPattern "(" "unclosed group") onlyCondition) := by
  have offered : "get_note" ∈ ofGoods.providers.propertyChoices "goods" := by decide +kernel
  have allowed : ∀ operator ∈ ["shout", "matches"],
      operator ∈ ofGoods.providers.operatorChoices "goods" "get_note" := by decide +kernel
  refine ⟨ofTables_ofGoods, rfl, ⟨_, ofGoods_variables⟩, ⟨_, ofGoods_actions⟩, ?_, ?_, ?_⟩
  · exact fun operator member =>
      ⟨RuleBlock.structured_asking _, chosen_asking "(" offered (allowed operator member)⟩
  · exact eq_error_of_decide (by decide +kernel)
  · exact eq_error_of_decide (by decide +kernel)

end Compiler

end Rulebook
