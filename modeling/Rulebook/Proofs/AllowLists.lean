/-
This file says what becomes of a condition whose operator stands in the allow-list of its property,
spelled as the condition spells it. Those who write rules are offered the allow-list as it was
declared. The compiler looks in it for the canonical identifier of the operator instead, so it refuses
what was offered if the list names the operator by a further identifier only; the error then tells the
operator among those that are allowed. Under the identifier at which an operator was registered it is
never refused, and a list of canonical identifiers admits all further ones.
-/
import Rulebook.Proofs.Choices
import Rulebook.Proofs.Namesakes

namespace Rulebook

/-! ### Further identifiers -/

namespace OperatorRegistry

variable {registry : OperatorRegistry} {further : String → Prop}

/-- Only further identifiers find operators of other canonical identifiers. -/
def FindsOwnExcept (registry : OperatorRegistry) (further : String → Prop) : Prop :=
  ∀ id operator, registry.find? id = some operator → operator.id = id ∨ further id

namespace FindsOwnExcept

theorem register (own : registry.FindsOwnExcept further) (operator : Operator) :
    (registry.register operator).FindsOwnExcept further := by
  intro id found isFound
  rw [find?_register] at isFound
  by_cases same : id = operator.id
  · rw [if_pos same] at isFound
    obtain rfl := Option.some.inj isFound
    exact .inl same.symm
  · rw [if_neg same] at isFound
    exact own id found isFound

theorem addAlias (own : registry.FindsOwnExcept further) {added : String} (target : String)
    (isFurther : further added) : (registry.addAlias added target).FindsOwnExcept further := by
  intro id found isFound
  by_cases same : id = added
  · exact .inr (same ▸ isFurther)
  · rw [find?_addAlias_of_ne registry target same] at isFound
    exact own id found isFound

/-- Among the default operators the further identifiers are the dotted ones. -/
theorem defaults : OperatorRegistry.defaults.FindsOwnExcept
    (· ∈ Operator.legacyAliases.map Prod.fst) := by
  have registered : (Operator.defaults.foldl OperatorRegistry.register empty).FindsOwnExcept
      (· ∈ Operator.legacyAliases.map Prod.fst) :=
    List.foldlRecOn (motive := (FindsOwnExcept · _)) Operator.defaults _ nofun
      fun _ own operator _ => own.register operator
  exact List.foldlRecOn (motive := (FindsOwnExcept · _)) Operator.legacyAliases _ registered
    fun _ own entry member => own.addAlias entry.2 (List.mem_map_of_mem member)

end FindsOwnExcept

/-- An identifier is a dotted one, or was added by one of some extensions. -/
def Further (extensions : List Extension) (id : String) : Prop :=
  id ∈ Operator.legacyAliases.map Prod.fst ∨ ∃ target, .addAlias id target ∈ extensions

theorem findsOwnExcept_extended (extensions : List Extension) :
    (OperatorRegistry.defaults.extended extensions).FindsOwnExcept (Further extensions) := by
  have start : OperatorRegistry.defaults.FindsOwnExcept (Further extensions) :=
    fun id operator found => (FindsOwnExcept.defaults id operator found).imp_right .inl
  refine List.foldlRecOn (motive := (FindsOwnExcept · _)) extensions _ start ?_
  intro _ own extension member
  cases extension with
  | register operator => exact own.register operator
  | addAlias id target => exact own.addAlias target (.inr ⟨target, member⟩)

end OperatorRegistry

/-! ### Conditions whose operators are named -/

namespace Compiler

variable {World : Type} {compiler : Compiler World} {ruleSet : RuleSet} {condition : Condition}
  {property : PropertyDescriptor} {operator : Operator} {allowed : List String}

section Restricted

variable (offered : compiler.property? ruleSet condition.propertyMethod = some property)
  (restricted : property.operators = some allowed)
  (found : compiler.operators.find? condition.comparisonOperator = some operator)

include offered restricted found

/-- If an operator is refused for a property, the allow-list lacks its canonical identifier, and the
error tells the allow-list. -/
theorem lacks_of_refused {told : List String} {place : Location}
    (refused : (compiler.compile ruleSet).1 = .error (.located (.operatorNotAllowed
      condition.propertyMethod condition.comparisonOperator told) place)) :
    told = allowed ∧ operator.id ∉ allowed := by
  obtain ⟨check, fails, tells⟩ := exists_failed_of_refused refused
  obtain ⟨block, set, other, rfl, sameProperty, sameOperator⟩ := Check.kind_of_tells tells
  obtain ⟨otherProperty, otherAllowed, otherOffered, otherRestricted, same⟩ := tells
  rw [sameProperty] at otherOffered
  obtain rfl := Option.some.inj (offered.symm.trans otherOffered)
  obtain rfl := Option.some.inj (restricted.symm.trans otherRestricted)
  refine ⟨?_, fun inside => fails ?_⟩
  · obtain ⟨sameFault, -⟩ := RuleError.located.inj same
    exact (RuleFault.operatorNotAllowed.inj sameFault).2.2
  · intro otherProperty otherOperator otherAllowed propertyFound operatorFound restricts
    rw [sameProperty] at propertyFound
    rw [sameOperator] at operatorFound
    obtain rfl := Option.some.inj (offered.symm.trans propertyFound)
    obtain rfl := Option.some.inj (found.symm.trans operatorFound)
    obtain rfl := Option.some.inj (restricted.symm.trans restricts)
    exact inside

/-- If the compiler comes to a condition and the allow-list lacks the canonical identifier of the
operator, the operator is refused, and the error tells the allow-list. -/
theorem refused_of_lacks {block : RuleBlock} {set : ConditionSet}
    (comes : compiler.ComesTo ruleSet (condition.checks block set)) (lacks : operator.id ∉ allowed) :
    (compiler.compile ruleSet).1 = .error (.located (.operatorNotAllowed
      condition.propertyMethod condition.comparisonOperator allowed)
      (condition.placeIn ruleSet block set)) := by
  obtain ⟨told, refused⟩ :=
    (refuses_operator_iff comes offered found).mpr ⟨allowed, restricted, lacks⟩
  obtain ⟨rfl, -⟩ := lacks_of_refused offered restricted found refused
  exact refused

end Restricted

/-- What the allow-list of a property names is offered to those who write rules. -/
theorem choice_of_named {vars : VariablesProvider World}
    (varsFound : compiler.providers.variablesByName.find? ruleSet.variablesProvider = some vars)
    (distinct : vars.Distinct)
    (offered : compiler.property? ruleSet condition.propertyMethod = some property)
    (restricted : property.operators = some allowed)
    (named : condition.comparisonOperator ∈ allowed) :
    condition.comparisonOperator ∈
      compiler.providers.operatorChoices ruleSet.variablesProvider condition.propertyMethod := by
  rw [property?_eq_of_found varsFound] at offered
  rw [ProviderRegistry.operatorChoices_eq varsFound distinct offered, restricted]
  exact named

/-- A condition names an operator that the allow-list of its property names in the same words, so it
may be chosen if every property is entered once. The condition is refused for this operator only if the
list lacks the canonical identifier; then the identifier in the condition is a dotted one or was added
to the registry, and the error tells the list that names it. And if the list lacks the canonical
identifier, the condition is refused as soon as the compiler comes to it. -/
theorem named_refused_iff {extensions : List OperatorRegistry.Extension}
    (operators : compiler.operators = OperatorRegistry.defaults.extended extensions)
    {vars : VariablesProvider World}
    (varsFound : compiler.providers.variablesByName.find? ruleSet.variablesProvider = some vars)
    (offered : vars.property? condition.propertyMethod = some property)
    (restricted : property.operators = some allowed)
    (found : compiler.operators.find? condition.comparisonOperator = some operator)
    (named : condition.comparisonOperator ∈ allowed) :
    (vars.Distinct → condition.comparisonOperator ∈
      compiler.providers.operatorChoices ruleSet.variablesProvider condition.propertyMethod) ∧
    (∀ told place, (compiler.compile ruleSet).1 = .error (.located (.operatorNotAllowed
        condition.propertyMethod condition.comparisonOperator told) place) →
      told = allowed ∧ operator.id ∉ allowed ∧
        OperatorRegistry.Further extensions condition.comparisonOperator) ∧
    ∀ block set, compiler.ComesTo ruleSet (condition.checks block set) →
      ((compiler.compile ruleSet).1 = .error (.located (.operatorNotAllowed
          condition.propertyMethod condition.comparisonOperator allowed)
          (condition.placeIn ruleSet block set)) ↔
        operator.id ∉ allowed) := by
  rw [← property?_eq_of_found varsFound] at offered
  have own := OperatorRegistry.findsOwnExcept_extended extensions condition.comparisonOperator
    operator (operators ▸ found)
  refine ⟨fun distinct => choice_of_named varsFound distinct offered restricted named,
    fun told place refused => ?_, fun block set comes => ⟨fun refused => ?_, fun lacks => ?_⟩⟩
  · obtain ⟨same, lacks⟩ := lacks_of_refused offered restricted found refused
    refine ⟨same, lacks, own.resolve_left fun ownId => lacks ?_⟩
    exact ownId ▸ named
  · exact (lacks_of_refused offered restricted found refused).2
  · exact refused_of_lacks offered restricted found comes lacks

end Compiler

/-! ### A list of further identifiers -/

/-- A table in which the price and the stock each allow what they allow by a further identifier; for
the price its own identifier is listed too. -/
def VariablesTable.listed : VariablesTable Unit Unit :=
  (bare.restrictedAccessor "get_price" ["below", "lt"] fun _ _ => pure .null).restrictedAccessor
    "get_stock" ["operator.eq"] fun _ _ => pure .null

namespace Compiler

/-- A compiler over goods with a price and a stock. -/
def ofListed (operators : OperatorRegistry) : Compiler Unit where
  operators
  providers := (ProviderRegistry.registerVariables {} "goods"
    VariablesTable.listed.toProvider).registerActions "none" ActionsTable.idle.toProvider

variable (operators : OperatorRegistry) (condition : Condition)

theorem ofListed_variables : (ofListed operators).providers.variablesByName.find?
    (RuleSet.asking condition).variablesProvider = some VariablesTable.listed.toProvider :=
  Fields.find?_insert_self _ "goods" _

theorem comesTo_asking_ofListed : (ofListed operators).ComesTo
    (.asking condition) (condition.checks (.asking condition) (.asking condition)) :=
  comesTo_asking_of_found ⟨_, ofListed_variables operators condition⟩
    ⟨_, Fields.find?_insert_self _ "none" _⟩ condition

/-- With an identifier added for `lt` the price may be compared by it, since the list also has `lt`.
The stock may not be compared by the dotted identifier, which is all its list has. -/
theorem named_refused_iff_below :
    let compiler := ofListed (OperatorRegistry.defaults.extended [.addAlias "below" "lt"])
    (∀ told place, (compiler.compile (.asking (.on "get_price" "below" "1"))).1 ≠
      .error (.located (.operatorNotAllowed "get_price" "below" told) place)) ∧
    (compiler.compile (.asking (.on "get_stock" "operator.eq" "1"))).1 =
      .error (.located (.operatorNotAllowed "get_stock" "operator.eq" ["operator.eq"])
        onlyCondition) := by
  intro compiler
  have finds : ∀ ids ∈ [("below", "lt"), ("operator.eq", "eq")],
      (compiler.operators.find? ids.1).map (·.id) = some ids.2 := by decide +kernel
  constructor
  · have offered : VariablesTable.listed.toProvider.property?
        (Condition.on "get_price" "below" "1").propertyMethod =
          some ⟨"get_price", some ["below", "lt"]⟩ := by decide +kernel
    obtain ⟨operator, found, sameId⟩ :=
      Option.map_eq_some_iff.mp (finds ("below", "lt") (by decide))
    intro told place refused
    obtain ⟨-, onlyLacking, -⟩ :=
      named_refused_iff rfl (ofListed_variables _ _) offered rfl found (by decide)
    refine (onlyLacking told place refused).2.1 ?_
    rw [sameId]
    decide
  · have offered : VariablesTable.listed.toProvider.property?
        (Condition.on "get_stock" "operator.eq" "1").propertyMethod =
          some ⟨"get_stock", some ["operator.eq"]⟩ := by decide +kernel
    obtain ⟨operator, found, sameId⟩ :=
      Option.map_eq_some_iff.mp (finds ("operator.eq", "eq") (by decide))
    obtain ⟨-, -, refusedIff⟩ :=
      named_refused_iff rfl (ofListed_variables _ _) offered rfl found (by decide)
    refine (refusedIff _ _ (comesTo_asking_ofListed _ _)).mpr ?_
    rw [sameId]
    decide

/-- The stock may be compared by the dotted identifier only, this is what is offered, and a condition
that uses it is refused with an error that says so. -/
theorem refuses_what_is_listed :
    (∃ property, VariablesTable.listed.toProvider.property? "get_stock" = some property ∧
      property.operators = some ["operator.eq"]) ∧
    (∃ operator, OperatorRegistry.defaults.find? "operator.eq" = some operator) ∧
    (ofListed .defaults).providers.operatorChoices "goods" "get_stock" = ["operator.eq"] ∧
    ((ofListed .defaults).compile (.asking (.on "get_stock" "operator.eq" "1"))).1 =
      .error (.located (.operatorNotAllowed "get_stock" "operator.eq" ["operator.eq"])
        onlyCondition) := by
  have registered : (OperatorRegistry.defaults.find? "operator.eq").isSome = true := by
    decide +kernel
  refine ⟨⟨⟨"get_stock", some ["operator.eq"]⟩, by decide +kernel, rfl⟩,
    Option.isSome_iff_exists.mp registered, by decide +kernel, ?_⟩
  exact eq_error_of_decide (by decide +kernel)

end Compiler

end Rulebook
