/-
This file says which error a rule set is refused with. Everything that is asked of a rule set is one
list of checks: the providers, and then for every enabled block in order the identifiers of its
sets, what is inside the sets one after another, their parents, that they do not form a cycle, and
the actions. A check holds or not by what the rule set and the registries say, and one that does not
hold tells an error with its place.

The compiler carries out this list: it accepts a rule set only if all checks hold, and otherwise it
gives the error of the first one that does not. Carrying out a list is kept by putting steps one
after another and by going through the parts of a rule set in order, so each function of the
compiler is matched with its own checks and these are joined.
-/
import Rulebook.Proofs.Cycle
import Rulebook.Proofs.WellFormed

namespace Rulebook

variable {World : Type}

/-! ### The checks and their order -/

/-- What is asked of a rule set and of its parts. -/
inductive Check where
  | variablesProvider
  | actionsProvider
  /-- The identifier of a set is not that of a set before it. -/
  | setId (block : RuleBlock) (before : List ConditionSet) (set : ConditionSet)
  | combinationRule (block : RuleBlock) (set : ConditionSet)
  | property (block : RuleBlock) (set : ConditionSet) (condition : Condition)
  | operator (block : RuleBlock) (set : ConditionSet) (condition : Condition)
  | allowList (block : RuleBlock) (set : ConditionSet) (condition : Condition)
  | pattern (block : RuleBlock) (set : ConditionSet) (condition : Condition)
  | parent (block : RuleBlock) (set : ConditionSet)
  | cycle (block : RuleBlock)
  | action (block : RuleBlock) (action : Action)

/-- The checks of a condition. -/
def Condition.checks (condition : Condition) (block : RuleBlock) (set : ConditionSet) :
    List Check :=
  [.property block set condition, .operator block set condition, .allowList block set condition,
    .pattern block set condition]

/-- The checks inside a set. -/
def ConditionSet.checks (set : ConditionSet) (block : RuleBlock) : List Check :=
  .combinationRule block set :: set.conditions.flatMap fun condition => condition.checks block set

/-- The checks of the identifiers of sets that come after others. -/
def RuleBlock.idChecks (block : RuleBlock) (before : List ConditionSet) :
    List ConditionSet → List Check
  | [] => []
  | set :: rest => .setId block before set :: block.idChecks (before ++ [set]) rest

/-- The checks of a block. -/
def RuleBlock.checks (block : RuleBlock) : List Check :=
  block.idChecks [] block.conditionSets ++
    (block.conditionSets.flatMap (fun set => set.checks block) ++
      (block.conditionSets.map (.parent block) ++
        .cycle block :: block.actions.map (.action block)))

/-- The checks of a rule set, in the order in which they count. -/
def RuleSet.checks (ruleSet : RuleSet) : List Check :=
  .variablesProvider :: .actionsProvider ::
    (ruleSet.ruleBlocks.filter (·.enabled)).flatMap RuleBlock.checks

/-! ### When a check holds and what it tells -/

/-- The property of a name that the variables of a rule set offer. -/
def Compiler.property? (compiler : Compiler World) (ruleSet : RuleSet) (name : String) :
    Option PropertyDescriptor :=
  (compiler.providers.variablesByName.find? ruleSet.variablesProvider).bind (·.property? name)

/-- The place of a block in a rule set. -/
def RuleBlock.placeIn (block : RuleBlock) (ruleSet : RuleSet) : Location :=
  { ruleSet := some ruleSet.id, block := some block.id }

/-- The place of a condition in a set. -/
def Location.ofCondition (location : Location) (condition : Condition) : Location :=
  { location with condition := some condition.id }

/-- Whether a check holds. -/
def Check.Holds (compiler : Compiler World) (ruleSet : RuleSet) : Check → Prop
  | .variablesProvider => ∃ vars,
    compiler.providers.variablesByName.find? ruleSet.variablesProvider = some vars
  | .actionsProvider => ∃ actions,
    compiler.providers.actionsByName.find? ruleSet.actionsProvider = some actions
  | .setId _ before set => ∀ earlier ∈ before, earlier.id ≠ set.id
  | .combinationRule _ set => Text.lower (Text.trim set.combinationRule) = "all" ∨
    Text.lower (Text.trim set.combinationRule) = "any"
  | .property _ _ condition => ∃ property,
    compiler.property? ruleSet condition.propertyMethod = some property
  | .operator _ _ condition => ∃ operator,
    compiler.operators.find? condition.comparisonOperator = some operator
  | .allowList _ _ condition => ∀ property operator allowed,
    compiler.property? ruleSet condition.propertyMethod = some property →
    compiler.operators.find? condition.comparisonOperator = some operator →
    property.operators = some allowed → operator.id ∈ allowed
  | .pattern _ _ condition => ∀ operator,
    compiler.operators.find? condition.comparisonOperator = some operator →
    operator.id = "matches" →
      ∃ pattern, Pattern.ofText? (condition.value.getD "") = .ok pattern
  | .parent block set => ∀ parent, set.parent = some parent →
    ∃ above ∈ block.conditionSets, above.id = parent
  | .cycle block => ∀ set ∈ block.conditionSets, set.Grounded block.conditionSets
  | .action _ called => ∃ actions,
    compiler.providers.actionsByName.find? ruleSet.actionsProvider = some actions ∧
    called.actionMethod ∈ actions.actions

/-- The error that a check tells if it does not hold: what is wrong, and the place of the part that
is asked, as deep as it goes. A cycle is told at the set on it that is met first. -/
def Check.Tells (compiler : Compiler World) (ruleSet : RuleSet) : Check → RuleError → Prop
  | .variablesProvider, error => error =
    .located (.providerConstruction ruleSet.variablesProvider "变量提供者未注册")
      { ruleSet := some ruleSet.id }
  | .actionsProvider, error => error =
    .located (.providerConstruction ruleSet.actionsProvider "动作提供者未注册")
      { ruleSet := some ruleSet.id }
  | .setId block _ set, error => error =
    .located (.duplicateConditionSet set.id) ((block.placeIn ruleSet).ofSet set)
  | .combinationRule block set, error => error =
    .located (.invalidCombinationRule set.combinationRule) ((block.placeIn ruleSet).ofSet set)
  | .property block set condition, error => error =
    .located (.unknownProperty condition.propertyMethod)
      (((block.placeIn ruleSet).ofSet set).ofCondition condition)
  | .operator block set condition, error => error =
    .located (.unknownOperator condition.comparisonOperator)
      (((block.placeIn ruleSet).ofSet set).ofCondition condition)
  | .allowList block set condition, error => ∃ property allowed,
    compiler.property? ruleSet condition.propertyMethod = some property ∧
    property.operators = some allowed ∧ error =
      .located (.operatorNotAllowed condition.propertyMethod condition.comparisonOperator allowed)
        (((block.placeIn ruleSet).ofSet set).ofCondition condition)
  | .pattern block set condition, error => ∃ fault,
    Pattern.ofText? (condition.value.getD "") = .error fault ∧ error =
      .located (.invalidPattern (condition.value.getD "") fault.message)
        (((block.placeIn ruleSet).ofSet set).ofCondition condition)
  | .parent block set, error => ∃ parent, set.parent = some parent ∧ error =
    .located (.unknownParentConditionSet parent) ((block.placeIn ruleSet).ofSet set)
  | .cycle block, error => ∃ set, set.FirstCyclic block.conditionSets ∧ error =
    .located .cyclicConditionSet ((block.placeIn ruleSet).ofSet set)
  | .action block called, error => error =
    .located (.unknownAction called.actionMethod)
      { block.placeIn ruleSet with action := some called.id }

/-! ### Steps that carry out checks -/

/-- A step carries out checks: it ends well only if all of them hold, and otherwise with what the
first one tells that does not. -/
structure CarriesOut {Result : Type} (compiler : Compiler World) (ruleSet : RuleSet)
    (checks : List Check) (step : Except RuleError Result) : Prop where
  accepts : ∀ result, step = .ok result → ∀ check ∈ checks, check.Holds compiler ruleSet
  refuses : ∀ error, step = .error error → ∃ earlier check later,
    checks = earlier ++ check :: later ∧ (∀ other ∈ earlier, other.Holds compiler ruleSet) ∧
      ¬ check.Holds compiler ruleSet ∧ check.Tells compiler ruleSet error

namespace CarriesOut

variable {First Second Item : Type} {compiler : Compiler World} {ruleSet : RuleSet}
  {checks more : List Check} {check : Check}

theorem done (result : First) : CarriesOut compiler ruleSet [] (.ok result) where
  accepts _ _ _ member := absurd member List.not_mem_nil
  refuses _ := nofun

/-- A check that does not hold ends the list. -/
theorem refused {error : RuleError} (fails : ¬ check.Holds compiler ruleSet)
    (tells : check.Tells compiler ruleSet error) (more : List Check) :
    CarriesOut compiler ruleSet (check :: more) (.error error : Except RuleError First) where
  accepts _ := nofun
  refuses _ same := ⟨[], check, more, rfl, nofun, fails, Except.error.inj same ▸ tells⟩

/-- After checks that hold the rest is carried out. -/
theorem passed {step : Except RuleError First}
    (hold : ∀ check ∈ checks, check.Holds compiler ruleSet)
    (rest : CarriesOut compiler ruleSet more step) :
    CarriesOut compiler ruleSet (checks ++ more) step where
  accepts result ended check member :=
    (List.mem_append.mp member).elim (hold check) (rest.accepts result ended check)
  refuses error ended := by
    obtain ⟨earlier, check, later, rfl, others, fails, tells⟩ := rest.refuses error ended
    refine ⟨checks ++ earlier, check, later, (List.append_assoc ..).symm, ?_, fails, tells⟩
    exact fun other member => (List.mem_append.mp member).elim (hold other) (others other)

/-- A check that holds comes before the rest. -/
theorem next {step : Except RuleError First} (holds : check.Holds compiler ruleSet)
    (rest : CarriesOut compiler ruleSet more step) :
    CarriesOut compiler ruleSet (check :: more) step :=
  passed (List.forall_mem_singleton.mpr holds) rest

/-- A step that makes one check and ends well exactly if it holds. -/
theorem single {step : Except RuleError First}
    (accepts : (∃ result, step = .ok result) ↔ check.Holds compiler ruleSet)
    (tells : ∀ error, step = .error error → check.Tells compiler ruleSet error) :
    CarriesOut compiler ruleSet [check] step := by
  cases step with
  | ok result => exact .next (accepts.mp ⟨result, rfl⟩) (.done result)
  | error error =>
    exact .refused (fun held => nomatch accepts.mpr held) (tells error rfl) []

theorem bind {step : Except RuleError First} {next : First → Except RuleError Second}
    (first : CarriesOut compiler ruleSet checks step)
    (rest : ∀ result, step = .ok result → CarriesOut compiler ruleSet more (next result)) :
    CarriesOut compiler ruleSet (checks ++ more) (step >>= next) := by
  cases step with
  | ok result => exact passed (first.accepts result rfl) (rest result rfl)
  | error error =>
    obtain ⟨earlier, check, later, rfl, others, fails, tells⟩ := first.refuses error rfl
    refine ⟨fun _ => nofun, fun _ same => ?_⟩
    exact ⟨earlier, check, later ++ more, by simp, others, fails, Except.error.inj same ▸ tells⟩

/-- A name that must be known is a check of its own. -/
theorem known {Entry : Type} {found : Option Entry} {fault : RuleFault} {location : Location}
    {next : Entry → Except RuleError Second}
    (holds : check.Holds compiler ruleSet ↔ ∃ entry, found = some entry)
    (tells : found = none → check.Tells compiler ruleSet (.located fault location))
    (rest : ∀ entry, found = some entry → CarriesOut compiler ruleSet more (next entry)) :
    CarriesOut compiler ruleSet (check :: more) (known found fault location >>= next) := by
  cases found with
  | none => exact refused (fun held => nomatch holds.mp held) (tells rfl) more
  | some entry => exact .next (holds.mpr ⟨entry, rfl⟩) (rest entry rfl)

theorem map {step : Except RuleError First} (first : CarriesOut compiler ruleSet checks step)
    (change : First → Second) :
    CarriesOut compiler ruleSet checks (step >>= fun result => .ok (change result)) := by
  rw [← List.append_nil checks]
  exact first.bind fun result _ => done (change result)

/-- Going through parts carries out the checks of one part after another. -/
theorem mapM {act : Item → Except RuleError First} {inside : Item → List Check}
    (each : ∀ item, CarriesOut compiler ruleSet (inside item) (act item)) (items : List Item) :
    CarriesOut compiler ruleSet (items.flatMap inside) (items.mapM act) := by
  induction items with
  | nil => exact done []
  | cons item rest inductionHypothesis =>
    rw [List.mapM_cons, List.flatMap_cons]
    exact (each item).bind fun result _ => inductionHypothesis.map (result :: ·)

end CarriesOut

/-! ### What the functions of the compiler carry out -/

section Parts

variable {compiler : Compiler World} {ruleSet : RuleSet} {vars : VariablesProvider World}
  {actions : ActionsProvider World}

theorem Compiler.property?_eq
    (found : compiler.providers.variablesByName.find? ruleSet.variablesProvider = some vars)
    (actions : ActionsProvider World) (name : String) :
    compiler.property? ruleSet name = (Catalog.of vars actions).properties.find? name := by
  rw [Catalog.find?_of, property?, found]
  rfl

theorem VariablesProvider.name_of_property? {name : String} {property : PropertyDescriptor}
    (found : vars.property? name = some property) : property.name = name := by
  unfold property? at found
  simpa using List.find?_some found

variable
  (varsFound : compiler.providers.variablesByName.find? ruleSet.variablesProvider = some vars)
  (actionsFound : compiler.providers.actionsByName.find? ruleSet.actionsProvider = some actions)

/-- Binding an operator goes wrong only where a pattern does not read. -/
theorem Operator.exists_fault_of_bind {operator : Operator} {condition : Condition}
    {location : Location} {error : RuleError}
    (refused : operator.bind condition.literal location = .error error) :
    ∃ fault, Pattern.ofText? (condition.value.getD "") = .error fault ∧ error =
      .located (.invalidPattern (condition.value.getD "") fault.message) location := by
  unfold Operator.bind ofPattern at refused
  rw [condition.toText_literal] at refused
  split at refused
  · cases read : Pattern.ofText? (condition.value.getD "") with
    | ok pattern =>
      rw [read] at refused
      exact nomatch refused
    | error fault =>
      rw [read] at refused
      exact ⟨fault, rfl, (Except.error.inj refused).symm⟩
  · exact nomatch refused

/-- The pattern of a condition is read if its operator is the one on patterns. -/
theorem Operator.carriesOut {condition : Condition} {operator : Operator}
    (found : compiler.operators.find? condition.comparisonOperator = some operator)
    (block : RuleBlock) (set : ConditionSet) :
    CarriesOut compiler ruleSet [.pattern block set condition]
      (operator.bind condition.literal
        (((block.placeIn ruleSet).ofSet set).ofCondition condition)) := by
  have holds : (Check.pattern block set condition).Holds compiler ruleSet ↔
      (operator.id = "matches" →
        ∃ pattern, Pattern.ofText? (condition.value.getD "") = .ok pattern) :=
    ⟨fun held => held operator found, fun spells other otherFound =>
      Option.some.inj (found.symm.trans otherFound) ▸ spells⟩
  refine .single ((exists_bind_iff _).trans holds.symm) fun error refused => ?_
  exact exists_fault_of_bind refused

include varsFound in
/-- Property, operator, allow-list and pattern of a condition, in this order. -/
theorem Condition.carriesOut (condition : Condition) (block : RuleBlock) (set : ConditionSet)
    (actions : ActionsProvider World) :
    CarriesOut compiler ruleSet (condition.checks block set)
      (condition.compile compiler.operators (Catalog.of vars actions)
        (((block.placeIn ruleSet).ofSet set).ofCondition condition)) := by
  have offers := compiler.property?_eq varsFound actions condition.propertyMethod
  unfold Condition.compile Condition.checks
  rw [← offers]
  refine .known .rfl (fun _ => rfl) fun property propertyFound => ?_
  refine .known .rfl (fun _ => rfl) fun operator operatorFound => ?_
  have named : property.name = condition.propertyMethod := by
    rw [offers, Catalog.find?_of] at propertyFound
    exact VariablesProvider.name_of_property? propertyFound
  have holds : (Check.allowList block set condition).Holds compiler ruleSet ↔
      property.allows operator.id = true := by
    rw [PropertyDescriptor.allows_iff]
    constructor
    · exact fun held allowed => held property operator allowed propertyFound operatorFound
    · intro allows other otherOperator allowed otherFound otherOperatorFound
      obtain rfl := Option.some.inj (propertyFound.symm.trans otherFound)
      obtain rfl := Option.some.inj (operatorFound.symm.trans otherOperatorFound)
      exact allows allowed
  split
  · next allowed =>
    exact .next (holds.mpr allowed) ((Operator.carriesOut operatorFound block set).map _)
  · next notAllowed =>
    refine .refused (fun held => notAllowed (holds.mp held)) ?_ _
    obtain ⟨allowed, restricted⟩ : ∃ allowed, property.operators = some allowed :=
      Option.ne_none_iff_exists'.mp fun unrestricted =>
        notAllowed (PropertyDescriptor.allows_iff.mpr fun _ same =>
          nomatch unrestricted.symm.trans same)
    refine ⟨property, allowed, propertyFound, restricted, ?_⟩
    rw [named, restricted]
    rfl

include varsFound in
/-- The combination rule of a set, and then its conditions in order. -/
theorem ConditionSet.carriesOut (set : ConditionSet) (block : RuleBlock)
    (actions : ActionsProvider World) :
    CarriesOut compiler ruleSet (set.checks block)
      (set.compile compiler.operators (Catalog.of vars actions)
        ((block.placeIn ruleSet).ofSet set)) := by
  unfold ConditionSet.compile ConditionSet.checks
  refine .known Combination.exists_ofText?_iff.symm (fun _ => rfl) fun rule _ => ?_
  exact (CarriesOut.mapM (fun condition => condition.carriesOut varsFound block set actions)
    set.conditions).map _

/-- The search for a repeated identifier goes through the sets in order. -/
theorem RuleBlock.carriesOut_ids (block : RuleBlock) {seen : List String}
    {before rest : List ConditionSet}
    (same : ∀ id, id ∈ seen ↔ ∃ earlier ∈ before, earlier.id = id) :
    CarriesOut compiler ruleSet (block.idChecks before rest)
      ((firstRepeated? seen (rest.map (·.id))).elim (.ok ()) fun id =>
        refuse (.duplicateConditionSet id)
          { block.placeIn ruleSet with conditionSet := some id }) := by
  -- On the sets that are left; what was seen are the identifiers of those before, in any order.
  induction rest generalizing seen before with
  | nil => exact .done ()
  | cons set rest inductionHypothesis =>
    have holds : (Check.setId block before set).Holds compiler ruleSet ↔ set.id ∉ seen := by
      rw [same]
      exact ⟨fun held ⟨earlier, member, equal⟩ => held earlier member equal,
        fun fresh earlier member equal => fresh ⟨earlier, member, equal⟩⟩
    rw [List.map_cons]
    unfold firstRepeated? RuleBlock.idChecks
    by_cases again : set.id ∈ seen
    · rw [if_pos (List.contains_iff_mem.mpr again)]
      exact .refused (fun held => holds.mp held again) rfl _
    · rw [if_neg (mt List.contains_iff_mem.mp again)]
      refine .next (holds.mpr again) (inductionHypothesis fun id => ?_)
      rw [List.mem_cons, same]
      simp [or_and_right, exists_or, or_comm, eq_comm]

/-- Looking for the position of a parent goes wrong only where a parent is named. -/
theorem ConditionSet.exists_parent_of_refused {set : ConditionSet} {ids : List String}
    {location : Location} {error : RuleError}
    (refused : set.parentPosition? ids location = .error error) :
    ∃ parent, set.parent = some parent ∧
      error = .located (.unknownParentConditionSet parent) location := by
  unfold parentPosition? at refused
  split at refused
  · exact nomatch refused
  · next parent named =>
    cases found : ids.idxOf? parent with
    | none =>
      rw [found] at refused
      exact ⟨parent, named, (Except.error.inj refused).symm⟩
    | some index =>
      rw [found] at refused
      exact nomatch refused

/-- The parent of a set. -/
theorem ConditionSet.carriesOut_parent (set : ConditionSet) (block : RuleBlock) :
    CarriesOut compiler ruleSet [.parent block set]
      (set.parentPosition? block.setIds ((block.placeIn ruleSet).ofSet set)) :=
  .single (exists_parentPosition?_iff _) fun _ missing => exists_parent_of_refused missing

include actionsFound in
theorem Check.holds_action_iff {block : RuleBlock} {action : Action} :
    (Check.action block action).Holds compiler ruleSet ↔
      action.actionMethod ∈ actions.actions := by
  constructor
  · rintro ⟨others, found, offered⟩
    exact Option.some.inj (actionsFound.symm.trans found) ▸ offered
  · exact fun offered => ⟨actions, actionsFound, offered⟩

include actionsFound in
theorem Action.carriesOut (action : Action) (block : RuleBlock) (vars : VariablesProvider World) :
    CarriesOut compiler ruleSet [.action block action]
      (action.compile (Catalog.of vars actions)
        { block.placeIn ruleSet with action := some action.id }) := by
  refine .single ((exists_compile_iff vars actions _).trans
    (Check.holds_action_iff actionsFound).symm) fun error refused => ?_
  unfold Action.compile at refused
  split at refused
  · exact nomatch refused
  · exact (Except.error.inj refused).symm

include varsFound in
/-- What is inside the sets of a block, one set after another. -/
theorem RuleBlock.carriesOut_sets (block : RuleBlock) (actions : ActionsProvider World) :
    CarriesOut compiler ruleSet (block.conditionSets.flatMap fun set => set.checks block)
      (block.conditionSets.mapM fun set =>
        return (set, ← set.compile compiler.operators (Catalog.of vars actions)
          ((block.placeIn ruleSet).ofSet set))) :=
  .mapM (fun set => (set.carriesOut varsFound block actions).map fun compiled => (set, compiled))
    block.conditionSets

/-- The first pass over the sets of a block keeps each with what it became. -/
theorem RuleBlock.map_fst_checked {block : RuleBlock} {operators : OperatorRegistry}
    {catalog : Catalog} {location : Location} {checked : List (ConditionSet × CompiledConditionSet)}
    (checkedOk : (block.conditionSets.mapM fun set =>
      return (set, ← set.compile operators catalog (location.ofSet set))) = .ok checked) :
    checked.map (·.1) = block.conditionSets := by
  refine List.forall₂_eq_eq_eq ▸ List.forall₂_map_left_iff.mpr
    ((mapM_eq_ok_iff.mp checkedOk).flip.imp fun entry set kept => ?_)
  obtain ⟨compiled, -, done⟩ := bind_eq_ok_iff.mp kept
  exact (congrArg Prod.fst (Except.ok.inj done)).symm

/-- The parents of sets that have been gone through before. -/
theorem RuleBlock.carriesOut_parents {block : RuleBlock}
    {checked : List (ConditionSet × CompiledConditionSet)}
    (sources : checked.map (·.1) = block.conditionSets) :
    CarriesOut compiler ruleSet (block.conditionSets.map (.parent block))
      (checked.mapM fun (set, compiled) =>
        return (compiled, ← set.parentPosition? block.setIds
          ((block.placeIn ruleSet).ofSet set))) := by
  rw [← sources, List.map_map, List.map_eq_flatMap]
  exact .mapM (fun entry => (entry.1.carriesOut_parent block).map fun position =>
    (entry.2, position)) checked

/-- The set that the search for a cycle finds is told by its identifier. -/
theorem RuleBlock.Links.id_of_getElem? {block : RuleBlock} {operators : OperatorRegistry}
    {catalog : Catalog} {location : Location} {linked : LinkedSets}
    (links : block.Links operators catalog location linked) {index : Nat} {set : ConditionSet}
    (found : block.conditionSets[index]? = some set) :
    linked[index]?.map (·.1.id) = some set.id := by
  obtain ⟨compiled, position, linkedFound, accepted, -⟩ := links.entry found
  obtain ⟨rule, conditions, -, -, rfl⟩ := ConditionSet.compile_eq_ok_iff.mp accepted
  rw [linkedFound]
  rfl

include actionsFound in
theorem RuleBlock.carriesOut_actions (block : RuleBlock) (vars : VariablesProvider World) :
    CarriesOut compiler ruleSet (block.actions.map (.action block))
      (block.actions.mapM fun action => action.compile (Catalog.of vars actions)
        { block.placeIn ruleSet with action := some action.id }) := by
  rw [List.map_eq_flatMap]
  exact .mapM (fun action => action.carriesOut actionsFound block vars) block.actions

include varsFound actionsFound in
/-- A block goes through identifiers, sets, parents, the search for a cycle, and actions. -/
theorem RuleBlock.carriesOut (block : RuleBlock) :
    CarriesOut compiler ruleSet block.checks
      (block.compile compiler.operators (Catalog.of vars actions) (block.placeIn ruleSet)) := by
  have ids : CarriesOut compiler ruleSet (block.idChecks [] block.conditionSets)
      ((firstRepeated? [] block.setIds).elim (.ok ()) fun id =>
        refuse (.duplicateConditionSet id)
          { block.placeIn ruleSet with conditionSet := some id }) := block.carriesOut_ids (by simp)
  unfold RuleBlock.compile RuleBlock.checks
  cases repeated : firstRepeated? [] block.setIds with
  | some id =>
    rw [repeated] at ids
    simp only [repeated]
    exact ids.bind fun _ ended => by cases ended
  | none =>
    rw [repeated] at ids
    simp only [repeated]
    have distinct := (firstRepeated?_eq_none_iff.mp repeated).1
    refine .passed (ids.accepts () rfl) ?_
    refine (block.carriesOut_sets varsFound actions).bind fun checked checkedOk => ?_
    refine (carriesOut_parents (map_fst_checked checkedOk)).bind fun linked linkedOk => ?_
    -- Only now that all parents are found does the search for a cycle speak of sets.
    have links := links_iff.mp ⟨checked, checkedOk, linkedOk⟩
    have holds := links.cyclic?_eq_none_iff distinct
    split
    · next found cyclic =>
      obtain ⟨set, stands, first⟩ := links.firstCyclic distinct cyclic
      rw [links.id_of_getElem? stands]
      refine .refused (fun grounded => ?_) ?_ _
      · exact Option.some_ne_none found (cyclic.symm.trans (holds.mpr grounded))
      · exact ⟨set, first, rfl⟩
    · next acyclic =>
      exact .next (holds.mp acyclic) ((block.carriesOut_actions actionsFound vars).map _)

end Parts

/-! ### The first check that does not hold -/

namespace Compiler

/-- A rule set goes through its providers and then its enabled blocks. -/
theorem check_carriesOut (compiler : Compiler World) (ruleSet : RuleSet) :
    CarriesOut compiler ruleSet ruleSet.checks (compiler.check ruleSet) := by
  unfold check RuleSet.checks
  refine .known .rfl (fun _ => rfl) fun vars varsFound => ?_
  refine .known .rfl (fun _ => rfl) fun actions actionsFound => ?_
  exact (CarriesOut.mapM (fun block => block.carriesOut varsFound actionsFound) _).map _

/-- A rule set is refused with the error of the first check that does not hold. It is accepted only
if all of them do. -/
theorem compile_reports_first_failure (compiler : Compiler World) (ruleSet : RuleSet) :
    match (compiler.compile ruleSet).1 with
    | .ok _ => ∀ check ∈ ruleSet.checks, check.Holds compiler ruleSet
    | .error error => ∃ earlier check later, ruleSet.checks = earlier ++ check :: later ∧
        (∀ other ∈ earlier, other.Holds compiler ruleSet) ∧
        ¬ check.Holds compiler ruleSet ∧ check.Tells compiler ruleSet error := by
  have steps := compiler.check_carriesOut ruleSet
  rw [compile_fst]
  cases checked : compiler.check ruleSet with
  | ok compiled => exact steps.accepts compiled checked
  | error error => exact steps.refuses error checked

end Compiler

end Rulebook
