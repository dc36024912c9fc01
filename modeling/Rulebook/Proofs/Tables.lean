/-
This file says what may still go wrong in a rule set that was compiled against tables of methods.
When such a rule set is compiled, its properties and actions are looked up among the names that the
tables offer; when it runs, the instances look them up in the same tables, so they are found. The
operator of a condition was found as well, and where it is the one on patterns, the pattern was
read, so an operator that reads patterns when it compares is not met any more.

What is left are the errors of the methods themselves and values that an operator does not take. If
no method ends in the error of an unknown method, every error is one of three: an instance cannot be
made, a method fails, or two values cannot be compared. Each tells of what stands at its place in
the rule set as it was defined: the provider that it names, or the method or the operator of the
condition or action there. What a comparison expected is one of the usual things, unless the
condition at that place names an operator that is not a default one; this may expect whatever it
likes, a pattern included, and then it is the one that said so.
-/
import Rulebook.Proofs.Arena
import Rulebook.Proofs.Failure
import Rulebook.Proofs.Meaning
import Rulebook.Sales

namespace Rulebook

variable {World : Type}

/-! ### Where the parts of a compiled rule set come from -/

section Origins

variable {source : RuleBlock} {operators : OperatorRegistry} {catalog : Catalog}
  {location : Location} {block : CompiledBlock}

/-- A condition of a compiled block was made from a condition of the set that its own set was made
from. -/
theorem CompiledBlock.exists_origin (accepted :
      source.compile operators catalog location = .ok block) {set : CompiledConditionSet}
    (inBlock : set ∈ block.sets) {condition : CompiledCondition}
    (inSet : condition ∈ set.conditions) :
    ∃ setOrigin ∈ source.conditionSets, ∃ origin ∈ setOrigin.conditions, set.id = setOrigin.id ∧
      ∃ place : Location, origin.compile operators catalog place = .ok condition := by
  obtain ⟨-, linked, -, links, -, -, -, -, -, sets, -⟩ := RuleBlock.compile_eq_ok_iff.mp accepted
  rw [sets] at inBlock
  obtain ⟨compiled, position, index, linkedMember, rfl⟩ :=
    LinkedSets.exists_of_mem_arranged inBlock
  obtain ⟨setOrigin, inSource, setAccepted, -⟩ := exists_mem_of_forall₂ links.flip linkedMember
  obtain ⟨rule, conditions, -, correspond, rfl⟩ := ConditionSet.compile_eq_ok_iff.mp setAccepted
  obtain ⟨origin, inOrigin, conditionAccepted⟩ := exists_mem_of_forall₂ correspond.flip inSet
  exact ⟨setOrigin, inSource, origin, inOrigin, rfl, _, conditionAccepted⟩

theorem CompiledBlock.exists_condition (accepted :
      source.compile operators catalog location = .ok block) {set : CompiledConditionSet}
    (inBlock : set ∈ block.sets) {condition : CompiledCondition}
    (inSet : condition ∈ set.conditions) :
    ∃ (origin : Condition) (place : Location),
      origin.compile operators catalog place = .ok condition := by
  obtain ⟨-, -, origin, -, -, place, conditionAccepted⟩ := exists_origin accepted inBlock inSet
  exact ⟨origin, place, conditionAccepted⟩

theorem CompiledBlock.exists_action (accepted :
      source.compile operators catalog location = .ok block) {action : CompiledAction}
    (member : action ∈ block.actions) :
    ∃ origin ∈ source.actions, ∃ place : Location, origin.compile catalog place = .ok action := by
  obtain ⟨-, _, actions, -, -, correspond, -, -, -, -, rfl⟩ :=
    RuleBlock.compile_eq_ok_iff.mp accepted
  obtain ⟨origin, inSource, actionAccepted⟩ := exists_mem_of_forall₂ correspond.flip member
  exact ⟨origin, inSource, _, actionAccepted⟩

end Origins

namespace Compiler

variable {compiler : Compiler World} {source : RuleSet} {ruleSet : CompiledRuleSet World}
  {vars : VariablesProvider World} {actions : ActionsProvider World}

/-- An accepted rule set holds the providers that are registered under the names it gives, and its
blocks were made from the enabled ones of its source with what these providers offer. -/
theorem made_with_providers
    (varsFound : compiler.providers.variablesByName.find? source.variablesProvider = some vars)
    (actionsFound : compiler.providers.actionsByName.find? source.actionsProvider = some actions)
    (accepted : (compiler.compile source).1 = .ok ruleSet) :
    ruleSet.variablesSource = vars ∧ ruleSet.actionsSource = actions ∧
      ∀ block ∈ ruleSet.blocks, ∃ origin ∈ source.ruleBlocks, origin.enabled = true ∧
        origin.compile compiler.operators (Catalog.of vars actions)
          { ruleSet := some source.id, block := some origin.id } = .ok block := by
  rw [compile_fst] at accepted
  obtain ⟨otherVars, otherActions, blocks, otherVarsFound, otherActionsFound, correspond, rfl⟩ :=
    check_eq_ok_iff.mp accepted
  obtain rfl := Option.some.inj (otherVarsFound.symm.trans varsFound)
  obtain rfl := Option.some.inj (otherActionsFound.symm.trans actionsFound)
  refine ⟨rfl, rfl, fun block member => ?_⟩
  obtain ⟨origin, chosen, blockAccepted⟩ := exists_mem_of_forall₂ correspond.flip member
  obtain ⟨inSource, enabled⟩ := List.mem_filter.mp chosen
  exact ⟨origin, inSource, enabled, blockAccepted⟩

/-- An accepted rule set has the names of its source. -/
theorem names_of_compile (accepted : (compiler.compile source).1 = .ok ruleSet) :
    ruleSet.id = source.id ∧ ruleSet.variablesProvider = source.variablesProvider ∧
      ruleSet.actionsProvider = source.actionsProvider := by
  rw [compile_fst] at accepted
  obtain ⟨_, _, _, -, -, -, rfl⟩ := check_eq_ok_iff.mp accepted
  exact ⟨rfl, rfl, rfl⟩

end Compiler

/-! ### What stands at a place of the source -/

namespace RuleSet

/-- At this place of the rule set there is the condition, in a block that is enabled. -/
def ConditionAt (source : RuleSet) (condition : Condition) (place : Location) : Prop :=
  ∃ block ∈ source.ruleBlocks, block.enabled = true ∧
    ∃ set ∈ block.conditionSets, condition ∈ set.conditions ∧
      place = { ruleSet := some source.id, block := some block.id, conditionSet := some set.id
                condition := some condition.id }

/-- At this place of the rule set there is the action, in a block that is enabled. -/
def ActionAt (source : RuleSet) (action : Action) (place : Location) : Prop :=
  ∃ block ∈ source.ruleBlocks, block.enabled = true ∧ action ∈ block.actions ∧
    place = { ruleSet := some source.id, block := some block.id, action := some action.id }

variable {source : RuleSet} {origin : RuleBlock} {operators : OperatorRegistry}
  {catalog : Catalog} {location : Location} {block : CompiledBlock}

/-- A condition of a compiled block stands where the condition stands that it was made from. -/
theorem exists_conditionAt (inSource : origin ∈ source.ruleBlocks) (enabled : origin.enabled = true)
    (accepted : origin.compile operators catalog location = .ok block)
    {set : CompiledConditionSet} (inBlock : set ∈ block.sets) {condition : CompiledCondition}
    (inSet : condition ∈ set.conditions) :
    ∃ (conditionOrigin : Condition) (place : Location),
      conditionOrigin.compile operators catalog place = .ok condition ∧
        source.ConditionAt conditionOrigin {
          ruleSet := some source.id
          block := some block.id
          conditionSet := some set.id
          condition := some condition.id } := by
  obtain ⟨setOrigin, setInSource, conditionOrigin, inOrigin, sameSet, place, conditionAccepted⟩ :=
    CompiledBlock.exists_origin accepted inBlock inSet
  refine ⟨conditionOrigin, place, conditionAccepted, origin, inSource, enabled, setOrigin,
    setInSource, inOrigin, ?_⟩
  obtain ⟨-, -, -, -, -, -, -, rfl⟩ := Condition.compile_eq_ok_iff.mp conditionAccepted
  rw [RuleBlock.id_of_compile accepted, sameSet]

theorem exists_actionAt (inSource : origin ∈ source.ruleBlocks) (enabled : origin.enabled = true)
    (accepted : origin.compile operators catalog location = .ok block) {action : CompiledAction}
    (member : action ∈ block.actions) :
    ∃ (actionOrigin : Action) (place : Location), actionOrigin.compile catalog place = .ok action ∧
      source.ActionAt actionOrigin {
        ruleSet := some source.id
        block := some block.id
        action := some action.id } := by
  obtain ⟨actionOrigin, inOrigin, place, actionAccepted⟩ :=
    CompiledBlock.exists_action accepted member
  refine ⟨actionOrigin, place, actionAccepted, origin, inSource, enabled, inOrigin, ?_⟩
  obtain ⟨-, rfl⟩ := Action.compile_eq_ok_iff.mp actionAccepted
  rw [RuleBlock.id_of_compile accepted]

end RuleSet

/-! ### Tables of methods -/

/-- The step never ends in the error of an unknown method. -/
def Effect.NamesKnown {Result : Type} (step : Effect World ProviderError Result) : Prop :=
  step.FailsOnly fun cause => ∀ name, cause ≠ .unknownMethod name

namespace VariablesTable

variable {State : Type} {table : VariablesTable World State}

/-- No property that is in the table ends in the error of an unknown method. -/
def NamesKnown (table : VariablesTable World State) : Prop :=
  ∀ name accessor, table.accessors.find? name = some accessor →
    ∀ state kwargs, (accessor.read state kwargs).NamesKnown

theorem exists_accessor {name : String} {property : PropertyDescriptor}
    (offered : table.toProvider.property? name = some property) :
    ∃ accessor, table.accessors.find? name = some accessor := by
  refine Fields.exists_find?_iff.mpr ?_
  obtain rfl : property.name = name := by simpa using List.find?_some offered
  have listed := List.mem_reverse.mp (List.mem_of_find?_eq_some offered)
  obtain ⟨entry, inTable, rfl⟩ := List.mem_map.mp listed
  exact List.mem_map.mpr ⟨entry, inTable, rfl⟩

/-- An instance is one of the table, for a state that the table makes of the event. -/
theorem exists_state {args : EventArgs} {vars : VariablesInstance World}
    (given : (table.toProvider.construct args).MayGive vars) :
    ∃ state, (table.build args).MayGive state ∧ vars = table.instanceOf state :=
  Effect.exists_of_mayGive_bind_pure given

theorem get_of_accessor {name : String} {accessor : Accessor World State}
    (found : table.accessors.find? name = some accessor) (state : State) (kwargs : Kwargs) :
    (table.instanceOf state).get name kwargs = accessor.read state kwargs := by
  simp only [instanceOf, found]

theorem get_namesKnown (known : table.NamesKnown) {name : String}
    (offered : ∃ accessor, table.accessors.find? name = some accessor) (state : State)
    (kwargs : Kwargs) : ((table.instanceOf state).get name kwargs).NamesKnown := by
  obtain ⟨accessor, found⟩ := offered
  rw [get_of_accessor found]
  exact known name accessor found state kwargs

/-- A property may be entered whatever operators it allows. -/
theorem NamesKnown.insert (known : table.NamesKnown) {name : String}
    {entered : Accessor World State}
    (reads : ∀ state kwargs, (entered.read state kwargs).NamesKnown) :
    NamesKnown { table with accessors := table.accessors.insert name entered } :=
  Fields.forall_find?_insert known reads

end VariablesTable

namespace ActionsTable

variable {State VarsState : Type} {table : ActionsTable World State}
  {varsTable : VariablesTable World VarsState}

/-- On variables of another table, no action that is in the table ends in the error of an unknown
method, be it its own or one it passes on. -/
def NamesKnown (table : ActionsTable World State) (varsTable : VariablesTable World VarsState) :
    Prop :=
  ∀ name body, table.bodies.find? name = some body →
    ∀ state varsState kwargs, (body state (varsTable.instanceOf varsState) kwargs).NamesKnown

theorem exists_state {args : EventArgs} {actions : ActionsInstance World}
    (given : (table.toProvider.construct args).MayGive actions) :
    ∃ state, (table.build args).MayGive state ∧ actions = table.instanceOf state :=
  Effect.exists_of_mayGive_bind_pure given

theorem run_namesKnown (known : table.NamesKnown varsTable) {name : String}
    (offered : name ∈ table.toProvider.actions) (state : State) (varsState : VarsState)
    (kwargs : Kwargs) :
    ((table.instanceOf state).run name (varsTable.instanceOf varsState) kwargs).NamesKnown := by
  obtain ⟨body, found⟩ := Fields.exists_find?_iff.mpr offered
  simp only [instanceOf, found]
  exact known name body found state varsState kwargs

theorem NamesKnown.action (known : table.NamesKnown varsTable) {name : String}
    {body : ActionBody World State}
    (runs : ∀ state varsState kwargs,
      (body state (varsTable.instanceOf varsState) kwargs).NamesKnown) :
    (table.action name body).NamesKnown varsTable :=
  Fields.forall_find?_insert known runs

end ActionsTable

/-- What is computed last does not fail, so what is computed first does. -/
theorem eq_error_of_bind {Fault First Second : Type} {first : Except Fault First}
    {next : First → Except Fault Second} {fault : Fault} (failed : (first >>= next) = .error fault)
    (last : ∀ result, next result ≠ .error fault) : first = .error fault := by
  cases first with
  | error other => exact congrArg Except.error (Except.error.inj failed)
  | ok result => exact absurd failed (last result)

namespace Operator

/-- What the default operators ask of the values they compare, patterns apart. -/
def expectations : List String :=
  ["number", "string or number", "number or string", "string", "string or list"]

variable {left right : Value} {mismatch : Mismatch}

theorem textOf_eq_error_iff :
    textOf left = .error mismatch ↔ left.asText? = none ∧ mismatch = .of "string" left := by
  cases left with
  | text characters => exact ⟨nofun, fun ⟨noText, _⟩ => nomatch noText⟩
  | _ =>
    refine ⟨fun refused => ⟨rfl, (Except.error.inj refused).symm⟩, ?_⟩
    rintro ⟨-, rfl⟩
    rfl

theorem expected_of_textOf (refused : textOf left = .error mismatch) :
    mismatch.expected ∈ expectations := by
  obtain ⟨-, rfl⟩ := textOf_eq_error_iff.mp refused
  simp [Mismatch.of, expectations]

theorem expected_of_order? (refused : order? left right = .error mismatch) :
    mismatch.expected ∈ expectations := by
  unfold order? at refused
  repeat' split at refused
  all_goals first
    | cases Except.error.inj refused
      simp [Mismatch.of, expectations]
    | exact nomatch refused

theorem expected_of_ordering {id : String} {wanted : Ordering → Bool}
    (refused : (ordering id wanted).holds left right = .error mismatch) :
    mismatch.expected ∈ expectations := by
  refine expected_of_order? (eq_error_of_bind refused fun order => ?_)
  cases order <;> exact nofun

theorem expected_of_onTexts {id : String} {holds : List Char → List Char → Bool}
    (refused : (onTexts id holds).holds left right = .error mismatch) :
    mismatch.expected ∈ expectations :=
  expected_of_textOf (eq_error_of_bind refused fun _ => nofun)

theorem expected_of_containing (refused : containing left right = .error mismatch) :
    mismatch.expected ∈ expectations := by
  unfold containing at refused
  split at refused
  · exact nomatch refused
  · exact nomatch refused
  · obtain rfl := Except.error.inj refused
    simp [Mismatch.of, expectations]

/-- A default operator other than the one on patterns never expects a pattern. -/
theorem expected_of_mem_defaults {operator : Operator} (isDefault : operator ∈ defaults)
    (other : operator.id ≠ matchesId) (refused : operator.holds left right = .error mismatch) :
    mismatch.expected ∈ expectations := by
  simp only [defaults, List.mem_cons, List.not_mem_nil, or_false] at isDefault
  rcases isDefault with rfl | rfl | rfl | rfl | rfl | rfl | rfl | rfl | rfl | rfl | rfl | rfl |
    rfl | rfl
  case inl | inr.inl | inr.inr.inl | inr.inr.inr.inl => exact expected_of_ordering refused
  all_goals first
    | cases refused
    | exact expected_of_onTexts refused
    | exact expected_of_containing refused
    | exact absurd rfl other

end Operator

/-! ### What is left -/

/-- For a state that the table makes of the event, the property of the condition may be read as this
value. -/
def VariablesTable.MayTell {State : Type} (table : VariablesTable World State) (args : EventArgs)
    (condition : Condition) (left : Value) : Prop :=
  ∃ state, (table.build args).MayGive state ∧
    ∃ accessor, table.accessors.find? condition.propertyMethod = some accessor ∧
      (accessor.read state condition.propertyKwargs).MayGive left

/-- The faults in which the trigger of an accepted rule set may end if no method ends in the error
of an unknown one, each with its place. A comparison fails because the operator that the condition
at this place names refuses what it compares. The one on patterns asks for a text, and the other
default ones expect one of the usual things; only one that is not a default one may expect something
else. -/
inductive RuleFault.AtRunTime {State : Type} (source : RuleSet) (operators : OperatorRegistry)
    (vars : VariablesTable World State) (args : EventArgs) : RuleFault → Location → Prop where
  | construction {provider : String} (reason : String)
      (used : provider = source.variablesProvider ∨ provider = source.actionsProvider) :
      AtRunTime source operators vars args (.providerConstruction provider reason)
        { ruleSet := some source.id }
  | property {condition : Condition} {place : Location} (reason : String)
      (stands : source.ConditionAt condition place) :
      AtRunTime source operators vars args (.providerFailed condition.propertyMethod reason) place
  | action {action : Action} {place : Location} (reason : String)
      (stands : source.ActionAt action place) :
      AtRunTime source operators vars args (.providerFailed action.actionMethod reason) place
  | pattern {condition : Condition} {place : Location} {operator : Operator} {left : Value}
      (stands : source.ConditionAt condition place)
      (found : operators.find? condition.comparisonOperator = some operator)
      (onPatterns : operator.id = Operator.matchesId) (told : vars.MayTell args condition left)
      (noText : left.asText? = none) :
      AtRunTime source operators vars args (.typeMismatch operator.id "string" left.typeName) place
  | comparison {condition : Condition} {place : Location} {operator : Operator} {left : Value}
      {expected actual : String} (stands : source.ConditionAt condition place)
      (found : operators.find? condition.comparisonOperator = some operator)
      (isDefault : operator ∈ Operator.defaults) (other : operator.id ≠ Operator.matchesId)
      (told : vars.MayTell args condition left)
      (refused : operator.holds left condition.literal = .error ⟨expected, actual⟩)
      (usual : expected ∈ Operator.expectations) :
      AtRunTime source operators vars args (.typeMismatch operator.id expected actual) place
  | custom {condition : Condition} {place : Location} {operator : Operator} {left : Value}
      {expected actual : String} (stands : source.ConditionAt condition place)
      (found : operators.find? condition.comparisonOperator = some operator)
      (own : operator ∉ Operator.defaults) (other : operator.id ≠ Operator.matchesId)
      (told : vars.MayTell args condition left)
      (refused : operator.holds left condition.literal = .error ⟨expected, actual⟩) :
      AtRunTime source operators vars args (.typeMismatch operator.id expected actual) place

namespace RuleFault.AtRunTime

variable {State : Type} {source : RuleSet} {operators : OperatorRegistry}
  {vars : VariablesTable World State} {args : EventArgs} {place : Location}

theorem ofProperty {condition : Condition} (stands : source.ConditionAt condition place)
    {cause : ProviderError} (known : ∀ name, cause ≠ .unknownMethod name) :
    AtRunTime source operators vars args (.ofProperty condition.propertyMethod cause) place := by
  cases cause with
  | unknownMethod name => exact absurd rfl (known name)
  | invalidEvent reason => exact .property _ stands
  | failed reason => exact .property _ stands

theorem ofAction {action : Action} (stands : source.ActionAt action place)
    {cause : ProviderError} (known : ∀ name, cause ≠ .unknownMethod name) :
    AtRunTime source operators vars args (.ofAction action.actionMethod cause) place := by
  cases cause with
  | unknownMethod name => exact absurd rfl (known name)
  | invalidEvent reason => exact .action _ stands
  | failed reason => exact .action _ stands

/-- Where the operator on patterns was bound, it asks for a text and expects no pattern. -/
theorem ofMismatch {condition : Condition} (stands : source.ConditionAt condition place)
    {operator bound : Operator} {location : Location} {left : Value} {mismatch : Mismatch}
    (found : operators.find? condition.comparisonOperator = some operator)
    (boundTo : operator.bind condition.literal location = .ok bound)
    (told : vars.MayTell args condition left)
    (refused : bound.holds left condition.literal = .error mismatch) :
    AtRunTime source operators vars args (.ofMismatch bound.id mismatch) place := by
  rw [Operator.bind_eq_ok_iff] at boundTo
  by_cases onPatterns : operator.id = Operator.matchesId
  · rw [if_pos onPatterns] at boundTo
    obtain ⟨pattern, -, rfl⟩ := boundTo
    obtain ⟨noText, rfl⟩ :=
      Operator.textOf_eq_error_iff.mp (eq_error_of_bind refused fun _ => nofun)
    have fault : AtRunTime source operators vars args
        (.typeMismatch operator.id "string" left.typeName) place :=
      .pattern stands found onPatterns told noText
    rwa [onPatterns] at fault
  · rw [if_neg onPatterns] at boundTo
    rw [boundTo] at refused ⊢
    by_cases isDefault : operator ∈ Operator.defaults
    · exact .comparison stands found isDefault onPatterns told refused
        (Operator.expected_of_mem_defaults isDefault onPatterns refused)
    · exact .custom stands found isDefault onPatterns told refused

end RuleFault.AtRunTime

/-- The trigger of a rule set that was compiled against tables of methods ends well or in a fault
that is left at run time, if no method ends in the error of an unknown one. -/
theorem Compiler.trigger_fails_atRunTime {VarsState ActionsState : Type} {compiler : Compiler World}
    {source : RuleSet} {ruleSet : CompiledRuleSet World} {vars : VariablesTable World VarsState}
    {actions : ActionsTable World ActionsState}
    (varsFound : compiler.providers.variablesByName.find? source.variablesProvider =
      some vars.toProvider)
    (actionsFound : compiler.providers.actionsByName.find? source.actionsProvider =
      some actions.toProvider)
    (varsKnown : vars.NamesKnown) (actionsKnown : actions.NamesKnown vars)
    (accepted : (compiler.compile source).1 = .ok ruleSet) (args : EventArgs) (before : World) :
    match ((ruleSet.trigger args).perform before).1 with
    | .ok _ => True
    | .error error => ∃ fault location, error = .located fault location ∧
        fault.AtRunTime source compiler.operators vars args location := by
  obtain ⟨sameVars, sameActions, blocks⟩ :=
    made_with_providers varsFound actionsFound accepted
  obtain ⟨sameId, varsName, actionsName⟩ := names_of_compile accepted
  have only : (ruleSet.trigger args).FailsOnly fun error => ∃ fault location,
      error = .located fault location ∧
        fault.AtRunTime source compiler.operators vars args location := by
    have here : ruleSet.location = { ruleSet := some source.id } := by
      rw [CompiledRuleSet.location, sameId]
    refine CompiledRuleSet.trigger_failsOnly
      (fun reason => ⟨_, _, rfl, here ▸ .construction _ (.inl varsName)⟩)
      (fun reason => ⟨_, _, rfl, here ▸ .construction _ (.inr actionsName)⟩) ?_
    intro varsInstance varsGiven actionsInstance actionsGiven block member
    rw [sameVars] at varsGiven
    rw [sameActions] at actionsGiven
    obtain ⟨varsState, built, rfl⟩ := VariablesTable.exists_state varsGiven
    obtain ⟨actionsState, -, rfl⟩ := ActionsTable.exists_state actionsGiven
    obtain ⟨origin, inSource, enabled, blockAccepted⟩ := blocks block member
    rw [here]
    refine CompiledBlock.run_failsOnly (fun set inBlock condition inSet => ?_)
      fun action inside => ?_
    · obtain ⟨condition, _, conditionAccepted, stands⟩ :=
        RuleSet.exists_conditionAt inSource enabled blockAccepted inBlock inSet
      obtain ⟨property, operator, bound, offered, found, -, boundTo, rfl⟩ :=
        Condition.compile_eq_ok_iff.mp conditionAccepted
      rw [Catalog.find?_of] at offered
      obtain ⟨accessor, entered⟩ := VariablesTable.exists_accessor offered
      have reads := VariablesTable.get_of_accessor entered varsState condition.propertyKwargs
      refine CompiledCondition.evaluate_failsOnly_of_given (fun world cause after failed => ?_)
        fun left given mismatch refused => ?_
      · rw [reads] at failed
        have known := varsKnown _ accessor entered varsState _ world cause after failed
        exact ⟨_, _, rfl, .ofProperty stands known⟩
      · rw [reads] at given
        have told : vars.MayTell args condition left := ⟨varsState, built, accessor, entered, given⟩
        exact ⟨_, _, rfl, .ofMismatch stands found boundTo told refused⟩
    · obtain ⟨action, _, actionAccepted, stands⟩ :=
        RuleSet.exists_actionAt inSource enabled blockAccepted inside
      obtain ⟨offered, rfl⟩ := Action.compile_eq_ok_iff.mp actionAccepted
      have runs := ActionsTable.run_namesKnown actionsKnown offered actionsState varsState
      refine .located fun world cause after failed => ?_
      exact ⟨_, _, rfl, .ofAction stands (runs _ world cause after failed)⟩
  split
  · trivial
  · next error failed => exact only before error _ (Prod.ext failed rfl)

/-! ### The tables of sales transitions -/

namespace Sales

/-- Reading a property of a transition is only telling it. -/
theorem exists_read_eq_pure : ∀ name accessor,
    (variablesTable : VariablesTable World EventArgs).accessors.find? name = some accessor →
      ∀ transition kwargs, ∃ value, accessor.read transition kwargs = pure value := by
  have reads (path : String) (transition : EventArgs) (kwargs : Kwargs) :
      ∃ value, (readAt path transition kwargs : Effect World ProviderError Value) = pure value :=
    ⟨_, rfl⟩
  unfold variablesTable
  refine Fields.forall_find?_insert (Fields.forall_find?_insert (Fields.forall_find?_insert
    (Fields.forall_find?_insert (Fields.forall_find?_insert (Fields.forall_find?_insert nofun
      ?_) ?_) ?_) ?_) ?_) ?_
  all_goals exact reads _

theorem variablesTable_namesKnown :
    (variablesTable : VariablesTable World EventArgs).NamesKnown := by
  intro name accessor found transition kwargs
  obtain ⟨value, told⟩ := exists_read_eq_pure name accessor found transition kwargs
  rw [told]
  exact .pure value

/-- Variables are made of the description of a transition. -/
theorem construct_of_described {args transition : EventArgs}
    (described : transition? args = some transition) :
    (variablesTable : VariablesTable World EventArgs).toProvider.construct args =
      pure (variablesTable.instanceOf transition) := by
  have built : (variablesTable : VariablesTable World EventArgs).build args = pure transition := by
    simp only [variablesTable, VariablesTable.accessor, VariablesTable.restrictedAccessor,
      described]
  show (variablesTable : VariablesTable World EventArgs).build args >>=
    (fun state => pure (variablesTable.instanceOf state)) = _
  rw [built, pure_bind]

/-- Without a description no variables are made. -/
theorem construct_of_undescribed {args : EventArgs} (undescribed : transition? args = none) :
    (variablesTable : VariablesTable World EventArgs).toProvider.construct args =
      throw (.invalidEvent "事件缺少 instance 对象") := by
  have built : (variablesTable : VariablesTable World EventArgs).build args =
      throw (.invalidEvent "事件缺少 instance 对象") := by
    simp only [variablesTable, VariablesTable.accessor, VariablesTable.restrictedAccessor,
      undescribed]
  show (variablesTable : VariablesTable World EventArgs).build args >>=
    (fun state => pure (variablesTable.instanceOf state)) = _
  rw [built]
  rfl

/-- The actions read only properties that the variables have. -/
theorem actionsTable_namesKnown :
    actionsTable.NamesKnown (variablesTable : VariablesTable Outbox EventArgs) := by
  have reads {name : String}
      (offered : (variablesTable : VariablesTable Outbox EventArgs).accessors.contains name)
      (transition : EventArgs) (kwargs : Kwargs) :
      ((variablesTable.instanceOf transition).get name kwargs).NamesKnown :=
    VariablesTable.get_namesKnown variablesTable_namesKnown (Option.isSome_iff_exists.mp offered)
      transition kwargs
  refine .action (.action nofun fun _ _ _ => nofun) fun _ transition kwargs => ?_
  refine .bind (reads (by decide +kernel) _ _) fun spotId _ => ?_
  refine .bind (reads (by decide +kernel) _ _) fun sourceName _ => ?_
  exact .bind (reads (by decide +kernel) _ _) fun targetName _ => nofun

end Sales

/-- A rule set on the category that a spot comes from. -/
def RuleSet.spotChanges : RuleSet where
  id := "rules"
  name := "rules"
  variablesProvider := Sales.variablesName
  actionsProvider := Sales.actionsName
  enabled := true
  ruleBlocks := [{
    id := "block"
    name := "block"
    enabled := true
    conditionSets := [{
      id := "set"
      name := "set"
      conditions := [
        ⟨"spot", "get_spot_id", [], "eq", some "7"⟩,
        ⟨"category", "get_source_category", [], "matches", some "a"⟩] }]
    actions := [⟨"log", "create_system_change_log", []⟩] }]
  createdAt := ⟨0, 0⟩
  updatedAt := ⟨0, 0⟩

theorem Compiler.trigger_fails_atRunTime_spotChanges :
    ∃ ruleSet, (Sales.compiler.compile .spotChanges).1 = .ok ruleSet ∧
      ∀ (args : EventArgs) (before : Sales.Outbox),
        match ((ruleSet.trigger args).perform before).1 with
        | .ok _ => True
        | .error error => ∃ fault location, error = .located fault location ∧
            fault.AtRunTime .spotChanges OperatorRegistry.defaults
              (Sales.variablesTable : VariablesTable Sales.Outbox EventArgs) args location := by
  have accepts : (Sales.compiler.compile .spotChanges).1.isOk = true := by decide +kernel
  cases accepted : (Sales.compiler.compile .spotChanges).1 with
  | error error =>
    rw [accepted] at accepts
    exact nomatch accepts
  | ok ruleSet =>
    refine ⟨ruleSet, rfl, trigger_fails_atRunTime (Fields.find?_cons_self [] _ _)
      (Fields.find?_cons_self [] _ _) Sales.variablesTable_namesKnown
      Sales.actionsTable_namesKnown accepted⟩

/-! ### An operator that expects a pattern -/

/-- An operator that compares nothing and expects what the left side says. -/
def Operator.refusing : Operator := ⟨"refusing", fun left right => .error (.of left.toText right)⟩

/-- Variables with one property, which always is the same text. -/
def VariablesTable.saying (text : String) : VariablesTable Unit Unit :=
  VariablesTable.accessor { build := fun _ => pure () } "get_note" fun _ _ => pure (.text text)

/-- Actions of which there are none. -/
def ActionsTable.idle : ActionsTable Unit Unit where
  build _ := pure ()

/-- A compiler that knows the default operators and the one that refuses, and variables that speak
of patterns. -/
def Compiler.refusing : Compiler Unit where
  operators := OperatorRegistry.defaults.register .refusing
  providers := {
    variablesByName := [("notes", (VariablesTable.saying "valid regex pattern").toProvider)]
    actionsByName := [("none", ActionsTable.idle.toProvider)] }

/-- A rule set with a condition that compares nothing. -/
def RuleSet.refused : RuleSet where
  id := "rules"
  name := "rules"
  variablesProvider := "notes"
  actionsProvider := "none"
  enabled := true
  ruleBlocks := [{
    id := "block"
    name := "block"
    enabled := true
    conditionSets := [{
      id := "set"
      name := "set"
      conditions := [⟨"condition", "get_note", [], "refusing", some "a"⟩] }] }]
  createdAt := ⟨0, 0⟩
  updatedAt := ⟨0, 0⟩

theorem VariablesTable.saying_namesKnown (text : String) : (saying text).NamesKnown := by
  refine Fields.forall_find?_insert nofun fun _ _ => ?_
  exact .pure _

/-- The trigger of a rule set expects a pattern although all its tables know their names and the
operator on patterns is the default one. -/
theorem Compiler.trigger_expects_pattern :
    refusing.operators.ReadsPatterns ∧
      refusing.providers.variablesByName.find? "notes" =
        some (VariablesTable.saying "valid regex pattern").toProvider ∧
      refusing.providers.actionsByName.find? "none" = some ActionsTable.idle.toProvider ∧
      (VariablesTable.saying "valid regex pattern").NamesKnown ∧
      ActionsTable.idle.NamesKnown (VariablesTable.saying "valid regex pattern") ∧
      ∃ ruleSet, (refusing.compile .refused).1 = .ok ruleSet ∧
        ((ruleSet.trigger ⟨.null⟩).perform ()).1 = .error
          (.located (.typeMismatch "refusing" "valid regex pattern" "string")
            { ruleSet := some "rules", block := some "block", conditionSet := some "set"
              condition := some "condition" }) := by
  have readsPatterns : refusing.operators.ReadsPatterns :=
    OperatorRegistry.ReadsPatterns.defaults.insert _ fun same => absurd same (by decide)
  have ends : (match (refusing.compile .refused).1 with
      | .ok ruleSet => decide (((ruleSet.trigger ⟨.null⟩).perform ()).1 = .error
          (.located (.typeMismatch "refusing" "valid regex pattern" "string")
            { ruleSet := some "rules", block := some "block", conditionSet := some "set"
              condition := some "condition" }))
      | .error _ => false) = true := by decide +kernel
  refine ⟨readsPatterns, Fields.find?_cons_self [] _ _, Fields.find?_cons_self [] _ _,
    VariablesTable.saying_namesKnown _, nofun, ?_⟩
  cases accepted : (refusing.compile .refused).1 with
  | error error =>
    rw [accepted] at ends
    exact nomatch ends
  | ok ruleSet =>
    rw [accepted] at ends
    exact ⟨ruleSet, rfl, of_decide_eq_true ends⟩

end Rulebook
