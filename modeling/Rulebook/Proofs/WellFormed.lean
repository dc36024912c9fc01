/-
This file says which rule sets are accepted. A rule set is well formed if both its providers are
registered and every enabled block keeps a list of rules, each of which reads off the definition of
the block: identifiers are different, combination rules are known, conditions use what is offered
and allowed, parents exist and lead to a set on top, actions are offered. Nothing is asked of a
block that is not enabled, and nothing depends on whether the rule set itself is.

The compiler accepts exactly the well-formed rule sets. Each check is matched with its rule by the
statements about the functions of the compiler; the search for cycles is matched with the way up
through the parents, which is where the depth of sets comes in.
-/
import Rulebook.Proofs.Arena

namespace Rulebook

variable {World : Type}

/-! ### Well-formed rule sets -/

/-- The property and the operator of a condition are known, the property allows the operator by its
canonical identifier, and what the operator on patterns compares with spells a pattern. -/
def Condition.WellFormed (condition : Condition) (operators : OperatorRegistry)
    (vars : VariablesProvider World) : Prop :=
  ∃ property operator,
    vars.property? condition.propertyMethod = some property ∧
    operators.find? condition.comparisonOperator = some operator ∧
    (∀ allowed, property.operators = some allowed → operator.id ∈ allowed) ∧
    (operator.id = "matches" →
      ∃ pattern, Pattern.ofText? (condition.value.getD "") = .ok pattern)

/-- What is asked of an enabled block. -/
structure RuleBlock.WellFormed (block : RuleBlock) (operators : OperatorRegistry)
    (vars : VariablesProvider World) (actions : ActionsProvider World) : Prop where
  /-- No two condition sets share an identifier. -/
  distinct : block.conditionSets.Pairwise fun first second => first.id ≠ second.id
  /-- Every combination rule is `all` or `any`, in any case and with blanks around it. -/
  rules : ∀ set ∈ block.conditionSets,
    Text.lower (Text.trim set.combinationRule) = "all" ∨
      Text.lower (Text.trim set.combinationRule) = "any"
  conditions : ∀ set ∈ block.conditionSets, ∀ condition ∈ set.conditions,
    condition.WellFormed operators vars
  /-- Every parent is a set of the block. -/
  parents : ∀ set ∈ block.conditionSets, ∀ parent, set.parent = some parent →
    ∃ above ∈ block.conditionSets, above.id = parent
  /-- Parents lead from every set to one without a parent. -/
  grounded : ∀ set ∈ block.conditionSets, set.Grounded block.conditionSets
  actions : ∀ action ∈ block.actions, action.actionMethod ∈ actions.actions

/-- What is asked of a rule set. -/
def RuleSet.WellFormed (ruleSet : RuleSet) (operators : OperatorRegistry)
    (providers : ProviderRegistry World) : Prop :=
  ∃ vars actions,
    providers.variablesByName.find? ruleSet.variablesProvider = some vars ∧
    providers.actionsByName.find? ruleSet.actionsProvider = some actions ∧
    ∀ block ∈ ruleSet.ruleBlocks, block.enabled = true → block.WellFormed operators vars actions

/-! ### One check after another -/

theorem Combination.exists_ofText?_iff {text : String} :
    (∃ rule, Combination.ofText? text = some rule) ↔
      Text.lower (Text.trim text) = "all" ∨ Text.lower (Text.trim text) = "any" := by
  unfold Combination.ofText?
  split
  · next all => exact iff_of_true ⟨.all, rfl⟩ (Or.inl all)
  · next any => exact iff_of_true ⟨.any, rfl⟩ (Or.inr any)
  · next notAll notAny => exact iff_of_false nofun (not_or.mpr ⟨notAll, notAny⟩)

theorem PropertyDescriptor.allows_iff {property : PropertyDescriptor} {operator : String} :
    property.allows operator = true ↔
      ∀ allowed, property.operators = some allowed → operator ∈ allowed := by
  unfold PropertyDescriptor.allows
  cases property.operators with
  | none => simp
  | some allowed => simp

theorem Condition.toText_literal (condition : Condition) :
    condition.literal.toText = condition.value.getD "" := by
  unfold Condition.literal
  cases condition.value <;> rfl

theorem Operator.exists_bind_iff {operator : Operator} {condition : Condition}
    (location : Location) :
    (∃ bound, operator.bind condition.literal location = .ok bound) ↔
      (operator.id = "matches" →
        ∃ pattern, Pattern.ofText? (condition.value.getD "") = .ok pattern) := by
  simp only [Operator.bind_eq_ok_iff, condition.toText_literal]
  by_cases onPatterns : operator.id = matchesId
  · simp only [if_pos onPatterns]
    constructor
    · rintro ⟨_, pattern, spelled, -⟩ -
      exact ⟨pattern, spelled⟩
    · intro spells
      obtain ⟨pattern, spelled⟩ := spells onPatterns
      exact ⟨onPattern pattern, pattern, spelled, rfl⟩
  · simp only [if_neg onPatterns]
    exact iff_of_true ⟨operator, rfl⟩ fun same => absurd same onPatterns

theorem Condition.exists_compile_iff {condition : Condition} {operators : OperatorRegistry}
    (vars : VariablesProvider World) (actions : ActionsProvider World) (location : Location) :
    (∃ compiled, condition.compile operators (Catalog.of vars actions) location = .ok compiled) ↔
      condition.WellFormed operators vars := by
  unfold Condition.WellFormed
  constructor
  · rintro ⟨compiled, accepted⟩
    obtain ⟨property, operator, bound, offered, found, allowed, boundTo, -⟩ :=
      Condition.compile_eq_ok_iff.mp accepted
    rw [Catalog.find?_of] at offered
    exact ⟨property, operator, offered, found, PropertyDescriptor.allows_iff.mp allowed,
      (Operator.exists_bind_iff location).mp ⟨bound, boundTo⟩⟩
  · rintro ⟨property, operator, offered, found, allowed, spells⟩
    obtain ⟨bound, boundTo⟩ := (Operator.exists_bind_iff location).mpr spells
    rw [← Catalog.find?_of vars actions] at offered
    exact ⟨_, Condition.compile_eq_ok_iff.mpr ⟨property, operator, bound, offered, found,
      PropertyDescriptor.allows_iff.mpr allowed, boundTo, rfl⟩⟩

theorem ConditionSet.exists_compile_iff {set : ConditionSet} {operators : OperatorRegistry}
    (vars : VariablesProvider World) (actions : ActionsProvider World) (location : Location) :
    (∃ compiled, set.compile operators (Catalog.of vars actions) location = .ok compiled) ↔
      (Text.lower (Text.trim set.combinationRule) = "all" ∨
        Text.lower (Text.trim set.combinationRule) = "any") ∧
      ∀ condition ∈ set.conditions, condition.WellFormed operators vars := by
  rw [← Combination.exists_ofText?_iff]
  constructor
  · rintro ⟨compiled, accepted⟩
    obtain ⟨rule, conditions, parsed, correspond, -⟩ :=
      ConditionSet.compile_eq_ok_iff.mp accepted
    refine ⟨⟨rule, parsed⟩, fun condition member => ?_⟩
    exact (Condition.exists_compile_iff vars actions _).mp
      (exists_of_forall₂ correspond condition member)
  · rintro ⟨⟨rule, parsed⟩, wellFormed⟩
    obtain ⟨conditions, correspond⟩ := exists_forall₂ fun condition member =>
      (Condition.exists_compile_iff vars actions
        { location with condition := some condition.id }).mpr (wellFormed condition member)
    exact ⟨_, ConditionSet.compile_eq_ok_iff.mpr ⟨rule, conditions, parsed, correspond, rfl⟩⟩

theorem ConditionSet.exists_parentPosition?_iff {set : ConditionSet} {block : RuleBlock}
    (location : Location) :
    (∃ position, set.parentPosition? block.setIds location = .ok position) ↔
      ∀ parent, set.parent = some parent → ∃ above ∈ block.conditionSets, above.id = parent := by
  simp only [ConditionSet.parentPosition?_eq_ok_iff, ← List.mem_map]
  cases set.parent with
  | none => simp
  | some parent =>
    have found : (∃ index, block.setIds.idxOf? parent = some index) ↔
        parent ∈ block.conditionSets.map (·.id) := by
      rw [← Option.isSome_iff_exists, List.isSome_idxOf?]
    simpa using found

/-- Sets can be linked if each of them compiles and has a parent that exists, or none. -/
theorem RuleBlock.exists_links_iff_forall {block : RuleBlock} {operators : OperatorRegistry}
    {catalog : Catalog} {location : Location} :
    (∃ linked, block.Links operators catalog location linked) ↔
      ∀ set ∈ block.conditionSets,
        (∃ compiled, set.compile operators catalog (location.ofSet set) = .ok compiled) ∧
        ∀ parent, set.parent = some parent → ∃ above ∈ block.conditionSets, above.id = parent := by
  unfold Links
  rw [exists_forall₂_iff]
  refine forall_congr' fun set => imp_congr_right fun _ => ?_
  rw [← ConditionSet.exists_parentPosition?_iff (location.ofSet set)]
  exact ⟨fun ⟨entry, accepted, placed⟩ => ⟨⟨entry.1, accepted⟩, entry.2, placed⟩,
    fun ⟨⟨compiled, accepted⟩, position, placed⟩ => ⟨(compiled, position), accepted, placed⟩⟩

theorem Action.exists_compile_iff {action : Action} (vars : VariablesProvider World)
    (actions : ActionsProvider World) (location : Location) :
    (∃ compiled, action.compile (Catalog.of vars actions) location = .ok compiled) ↔
      action.actionMethod ∈ actions.actions := by
  simp only [Action.compile_eq_ok_iff]
  exact ⟨fun ⟨_, offered, _⟩ => offered, fun offered => ⟨_, offered, rfl⟩⟩

/-- A compiled block for every list of linked sets that nests properly. -/
def CompiledBlock.ofLinked (id name : String) (linked : LinkedSets)
    (acyclic : linked.nesting.cyclic? = none) (actions : List CompiledAction) : CompiledBlock where
  id
  name
  roots := linked.nesting.roots
  sets := linked.arranged
  actions
  roots_lt := linked.roots_lt
  nests := linked.nests acyclic

/-- What is asked of a block, told by what the compiler says of its parts. -/
structure RuleBlock.Acceptable (block : RuleBlock) (operators : OperatorRegistry)
    (catalog : Catalog) (location : Location) : Prop where
  distinct : block.setIds.Nodup
  compiles : ∀ set ∈ block.conditionSets,
    ∃ compiled, set.compile operators catalog (location.ofSet set) = .ok compiled
  parents : ∀ set ∈ block.conditionSets, ∀ parent, set.parent = some parent →
    ∃ above ∈ block.conditionSets, above.id = parent
  grounded : ∀ set ∈ block.conditionSets, set.Grounded block.conditionSets
  actions : ∀ action ∈ block.actions,
    ∃ compiled, action.compile catalog { location with action := some action.id } = .ok compiled

theorem RuleBlock.exists_compile_iff_acceptable {block : RuleBlock} {operators : OperatorRegistry}
    {catalog : Catalog} {location : Location} :
    (∃ compiled, block.compile operators catalog location = .ok compiled) ↔
      block.Acceptable operators catalog location := by
  constructor
  · rintro ⟨compiled, accepted⟩
    obtain ⟨distinct, linked, actions, links, acyclic, actionsOk, -⟩ :=
      RuleBlock.compile_eq_ok_iff.mp accepted
    have sets := RuleBlock.exists_links_iff_forall.mp ⟨linked, links⟩
    exact {
      distinct
      compiles := fun set member => (sets set member).1
      parents := fun set member => (sets set member).2
      grounded := (links.cyclic?_eq_none_iff distinct).mp acyclic
      actions := exists_of_forall₂ actionsOk }
  · intro acceptable
    obtain ⟨linked, links⟩ := RuleBlock.exists_links_iff_forall.mpr fun set member =>
      ⟨acceptable.compiles set member, acceptable.parents set member⟩
    obtain ⟨actions, actionsOk⟩ := exists_forall₂ acceptable.actions
    have acyclic := (links.cyclic?_eq_none_iff acceptable.distinct).mpr acceptable.grounded
    exact ⟨CompiledBlock.ofLinked block.id block.name linked acyclic actions,
      RuleBlock.compile_eq_ok_iff.mpr ⟨acceptable.distinct, linked, actions, links, acyclic,
        actionsOk, rfl, rfl, rfl, rfl, rfl⟩⟩

theorem RuleBlock.exists_compile_iff {block : RuleBlock} {operators : OperatorRegistry}
    (vars : VariablesProvider World) (actions : ActionsProvider World) (location : Location) :
    (∃ compiled, block.compile operators (Catalog.of vars actions) location = .ok compiled) ↔
      block.WellFormed operators vars actions := by
  have distinct : block.setIds.Nodup ↔
      block.conditionSets.Pairwise fun first second => first.id ≠ second.id := List.pairwise_map
  rw [RuleBlock.exists_compile_iff_acceptable]
  constructor
  · intro acceptable
    have sets := fun set member => (ConditionSet.exists_compile_iff vars actions _).mp
      (acceptable.compiles set member)
    exact {
      distinct := distinct.mp acceptable.distinct
      rules := fun set member => (sets set member).1
      conditions := fun set member => (sets set member).2
      parents := acceptable.parents
      grounded := acceptable.grounded
      actions := fun action member =>
        (Action.exists_compile_iff vars actions _).mp (acceptable.actions action member) }
  · intro wellFormed
    exact {
      distinct := distinct.mpr wellFormed.distinct
      compiles := fun set member => (ConditionSet.exists_compile_iff vars actions _).mpr
        ⟨wellFormed.rules set member, wellFormed.conditions set member⟩
      parents := wellFormed.parents
      grounded := wellFormed.grounded
      actions := fun action member =>
        (Action.exists_compile_iff vars actions _).mpr (wellFormed.actions action member) }

namespace Compiler

variable {compiler : Compiler World} {ruleSet : RuleSet}

theorem exists_check_iff :
    (∃ compiled, compiler.check ruleSet = .ok compiled) ↔
      ruleSet.WellFormed compiler.operators compiler.providers := by
  unfold RuleSet.WellFormed
  constructor
  · rintro ⟨compiled, accepted⟩
    obtain ⟨vars, actions, blocks, varsFound, actionsFound, correspond, -⟩ :=
      check_eq_ok_iff.mp accepted
    refine ⟨vars, actions, varsFound, actionsFound, fun block member enabled => ?_⟩
    exact (RuleBlock.exists_compile_iff vars actions _).mp
      (exists_of_forall₂ correspond block (List.mem_filter.mpr ⟨member, enabled⟩))
  · rintro ⟨vars, actions, varsFound, actionsFound, wellFormed⟩
    have accepted : ∀ block ∈ ruleSet.ruleBlocks.filter (·.enabled), ∃ compiled,
        block.compile compiler.operators (Catalog.of vars actions)
          { ruleSet := some ruleSet.id, block := some block.id } = .ok compiled := by
      intro block member
      obtain ⟨defined, enabled⟩ := List.mem_filter.mp member
      exact (RuleBlock.exists_compile_iff vars actions _).mpr (wellFormed block defined enabled)
    obtain ⟨blocks, correspond⟩ := exists_forall₂ accepted
    exact ⟨_, check_eq_ok_iff.mpr ⟨vars, actions, blocks, varsFound, actionsFound, correspond, rfl⟩⟩

/-- The compiler accepts exactly the well-formed rule sets. -/
theorem accepts_iff_wellFormed (compiler : Compiler World) (ruleSet : RuleSet) :
    (∃ compiled, (compiler.compile ruleSet).1 = .ok compiled) ↔
      ruleSet.WellFormed compiler.operators compiler.providers := by
  rw [compile_fst]
  exact exists_check_iff

end Compiler

end Rulebook
