/-
This file says for every part of a rule set when it is accepted and what it becomes. There is one
statement for each function of the compiler, in both directions, and later files use these
statements in place of the functions.

The fold over a list that stops at the first fault ends well exactly if the results correspond to
the items one by one. A block is the only part with more to it: its condition sets are gone through
twice, first for what is inside them and then for their parents, and the two passes are joined here
into one list of sets with the positions of their parents.
-/
import Rulebook.Compiler
import Rulebook.Proofs.Fields
import Rulebook.Proofs.Nesting
import Mathlib.Data.List.Forall2

namespace Rulebook

/-! ### Refusals -/

section Refusals

variable {Error First Second Item Result : Type}

theorem bind_eq_ok_iff {step : Except Error First} {next : First → Except Error Second}
    {result : Second} :
    (step >>= next) = .ok result ↔ ∃ first, step = .ok first ∧ next first = .ok result := by
  cases step with
  | error error => exact ⟨nofun, fun ⟨_, impossible, _⟩ => nomatch impossible⟩
  | ok first =>
    constructor
    · exact fun done => ⟨first, rfl, done⟩
    · rintro ⟨_, same, done⟩
      cases same
      exact done

theorem ok_eq_ok_iff {first second : Result} :
    (Except.ok first : Except Error Result) = .ok second ↔ second = first :=
  ⟨fun same => (Except.ok.inj same).symm, fun same => congrArg Except.ok same.symm⟩

theorem exists_of_isOk {result : Except Error Result} (accepts : result.isOk = true) :
    ∃ value, result = .ok value := by
  cases result with
  | ok value => exact ⟨value, rfl⟩
  | error error => exact nomatch accepts

/-- A pass over a list ends well if it does for every item. -/
theorem mapM_eq_ok_iff {act : Item → Except Error Result} {items : List Item}
    {results : List Result} :
    items.mapM act = .ok results ↔
      List.Forall₂ (fun item result => act item = .ok result) items results := by
  induction items generalizing results with
  | nil => simp [pure, Except.pure, eq_comm]
  | cons item rest inductionHypothesis =>
    rw [List.mapM_cons, bind_eq_ok_iff, List.forall₂_cons_left_iff]
    constructor
    · rintro ⟨result, accepted, after⟩
      obtain ⟨others, restAccepted, done⟩ := bind_eq_ok_iff.mp after
      obtain rfl := Except.ok.inj done
      exact ⟨result, others, accepted, inductionHypothesis.mp restAccepted, rfl⟩
    · rintro ⟨result, others, accepted, restAccepted, rfl⟩
      exact ⟨result, accepted,
        bind_eq_ok_iff.mpr ⟨others, inductionHypothesis.mpr restAccepted, rfl⟩⟩

/-- If every item has a partner, the list has a list of partners. -/
theorem exists_forall₂ {related : Item → Result → Prop} {items : List Item}
    (partners : ∀ item ∈ items, ∃ result, related item result) :
    ∃ results, List.Forall₂ related items results := by
  induction items with
  | nil => exact ⟨[], .nil⟩
  | cons item rest inductionHypothesis =>
    obtain ⟨result, relation⟩ := partners item List.mem_cons_self
    obtain ⟨results, relations⟩ :=
      inductionHypothesis fun other member => partners other (List.mem_cons_of_mem item member)
    exact ⟨result :: results, .cons relation relations⟩

/-- In lists that correspond every item has a partner. -/
theorem exists_mem_of_forall₂ {related : Item → Result → Prop} {items : List Item}
    {results : List Result} (relations : List.Forall₂ related items results) {item : Item}
    (member : item ∈ items) : ∃ result ∈ results, related item result := by
  induction relations with
  | nil => cases member
  | cons relation _ inductionHypothesis =>
    rcases List.mem_cons.mp member with rfl | later
    · exact ⟨_, List.mem_cons_self, relation⟩
    · obtain ⟨result, inResults, related⟩ := inductionHypothesis later
      exact ⟨result, List.mem_cons_of_mem _ inResults, related⟩

theorem exists_of_forall₂ {related : Item → Result → Prop} {items : List Item}
    {results : List Result} (relations : List.Forall₂ related items results) (item : Item)
    (member : item ∈ items) : ∃ result, related item result := by
  obtain ⟨result, -, relation⟩ := exists_mem_of_forall₂ relations member
  exact ⟨result, relation⟩

/-- Every item has a partner exactly if a pass over the list has results. -/
theorem exists_forall₂_iff {related : Item → Result → Prop} {items : List Item} :
    (∃ results, List.Forall₂ related items results) ↔
      ∀ item ∈ items, ∃ result, related item result :=
  ⟨fun ⟨_, relations⟩ => exists_of_forall₂ relations, exists_forall₂⟩

/-- Two passes, the second over the results of the first, make one. -/
theorem exists_forall₂_forall₂_iff {First Second Third : Type} {one : First → Second → Prop}
    {other : Second → Third → Prop} {firsts : List First} {thirds : List Third} :
    (∃ seconds, List.Forall₂ one firsts seconds ∧ List.Forall₂ other seconds thirds) ↔
      List.Forall₂ (fun first third => ∃ second, one first second ∧ other second third)
        firsts thirds := by
  constructor
  · rintro ⟨seconds, ones, others⟩
    induction ones generalizing thirds with
    | nil =>
      cases others
      exact .nil
    | cons relation _ inductionHypothesis =>
      cases others with
      | cons otherRelation others =>
        exact .cons ⟨_, relation, otherRelation⟩ (inductionHypothesis others)
  · intro both
    induction both with
    | nil => exact ⟨[], .nil, .nil⟩
    | cons relation _ inductionHypothesis =>
      obtain ⟨second, oneRelation, otherRelation⟩ := relation
      obtain ⟨seconds, ones, others⟩ := inductionHypothesis
      exact ⟨second :: seconds, .cons oneRelation ones, .cons otherRelation others⟩

end Refusals

theorem known_eq_ok_iff {α : Type} {found : Option α} {fault : RuleFault} {location : Location}
    {entry : α} : known found fault location = .ok entry ↔ found = some entry := by
  cases found <;> simp [known, refuse]

/-! ### The catalog -/

/-- The property of a name that variables offer; of several with one name the last. -/
def VariablesProvider.property? {World : Type} (vars : VariablesProvider World) (name : String) :
    Option PropertyDescriptor :=
  vars.properties.reverse.find? (·.name == name)

theorem Catalog.find?_of {World : Type} (vars : VariablesProvider World)
    (actions : ActionsProvider World) (name : String) :
    (Catalog.of vars actions).properties.find? name = vars.property? name := by
  unfold Catalog.of VariablesProvider.property?
  rw [Fields.find?_ofList, ← List.map_reverse, List.find?_map, Option.map_map]
  exact congrFun Option.map_id _

/-! ### Conditions and actions -/

namespace Operator

/-- The operator on a pattern that was read. It does not look at its right side. -/
def onPattern (pattern : Pattern) : Operator :=
  ⟨matchesId, fun left _ => do return pattern.isMatch (← textOf left)⟩

theorem ofPattern_eq_ok_iff {text : String} {bound : Operator} :
    ofPattern text = .ok bound ↔
      ∃ pattern, Pattern.ofText? text = .ok pattern ∧ bound = onPattern pattern := by
  unfold ofPattern
  rw [bind_eq_ok_iff]
  exact exists_congr fun pattern => and_congr_right fun _ => ok_eq_ok_iff

/-- An operator is bound as it is, but for the one on patterns: the text must spell a pattern, and
the operator becomes the one on that pattern. -/
theorem bind_eq_ok_iff {operator bound : Operator} {literal : Value} {location : Location} :
    operator.bind literal location = .ok bound ↔
      if operator.id = matchesId then
        ∃ pattern, Pattern.ofText? literal.toText = .ok pattern ∧ bound = onPattern pattern
      else bound = operator := by
  unfold Operator.bind isPatternId
  by_cases onPatterns : operator.id = matchesId
  · rw [if_pos onPatterns, if_pos (beq_iff_eq.mpr onPatterns), ← ofPattern_eq_ok_iff]
    cases ofPattern literal.toText <;> simp [refuse]
  · rw [if_neg onPatterns, if_neg (by simpa using onPatterns)]
    exact ok_eq_ok_iff

end Operator

theorem Condition.compile_eq_ok_iff {condition : Condition} {operators : OperatorRegistry}
    {catalog : Catalog} {location : Location} {compiled : CompiledCondition} :
    condition.compile operators catalog location = .ok compiled ↔
      ∃ property operator bound,
        catalog.properties.find? condition.propertyMethod = some property ∧
        operators.find? condition.comparisonOperator = some operator ∧
        property.allows operator.id = true ∧
        operator.bind condition.literal location = .ok bound ∧
        compiled = ⟨condition.id, condition.propertyMethod, condition.propertyKwargs, bound,
          condition.literal⟩ := by
  unfold Condition.compile
  simp only [Rulebook.bind_eq_ok_iff, known_eq_ok_iff]
  constructor
  · rintro ⟨property, propertyFound, operator, operatorFound, rest⟩
    split at rest
    · next allowed =>
      obtain ⟨bound, boundTo, done⟩ := Rulebook.bind_eq_ok_iff.mp rest
      exact ⟨property, operator, bound, propertyFound, operatorFound, allowed, boundTo,
        (Except.ok.inj done).symm⟩
    · exact absurd rest nofun
  · rintro ⟨property, operator, bound, propertyFound, operatorFound, allowed, boundTo, rfl⟩
    refine ⟨property, propertyFound, operator, operatorFound, ?_⟩
    rw [if_pos allowed]
    exact Rulebook.bind_eq_ok_iff.mpr ⟨bound, boundTo, rfl⟩

theorem Action.compile_eq_ok_iff {action : Action} {catalog : Catalog} {location : Location}
    {compiled : CompiledAction} :
    action.compile catalog location = .ok compiled ↔
      action.actionMethod ∈ catalog.actions ∧
        compiled = ⟨action.id, action.actionMethod, action.actionKwargs⟩ := by
  unfold Action.compile
  split
  · next offered =>
    rw [ok_eq_ok_iff]
    exact (and_iff_right (List.contains_iff_mem.mp offered)).symm
  · next missing =>
    exact ⟨nofun, fun ⟨offered, _⟩ => absurd (List.contains_iff_mem.mpr offered) missing⟩

/-! ### Condition sets -/

theorem ConditionSet.compile_eq_ok_iff {set : ConditionSet} {operators : OperatorRegistry}
    {catalog : Catalog} {location : Location} {compiled : CompiledConditionSet} :
    set.compile operators catalog location = .ok compiled ↔
      ∃ rule conditions, Combination.ofText? set.combinationRule = some rule ∧
        List.Forall₂ (fun condition compiledCondition =>
          condition.compile operators catalog { location with condition := some condition.id } =
            .ok compiledCondition) set.conditions conditions ∧
        compiled = { id := set.id, name := set.name, rule, conditions } := by
  unfold ConditionSet.compile
  simp only [bind_eq_ok_iff, known_eq_ok_iff, mapM_eq_ok_iff]
  constructor
  · rintro ⟨rule, parsed, conditions, accepted, done⟩
    exact ⟨rule, conditions, parsed, accepted, (Except.ok.inj done).symm⟩
  · rintro ⟨rule, conditions, parsed, accepted, rfl⟩
    exact ⟨rule, parsed, conditions, accepted, rfl⟩

/-- No identifier is repeated exactly if they are all different and none was seen before. -/
theorem firstRepeated?_eq_none_iff {seen ids : List String} :
    firstRepeated? seen ids = none ↔ ids.Nodup ∧ ∀ id ∈ ids, id ∉ seen := by
  induction ids generalizing seen with
  | nil => simp [firstRepeated?]
  | cons id rest inductionHypothesis =>
    unfold firstRepeated?
    by_cases again : id ∈ seen
    · simp [again]
    · rw [if_neg (by simpa using again), inductionHypothesis, List.nodup_cons]
      constructor
      · rintro ⟨distinct, fresh⟩
        refine ⟨⟨fun member => fresh id member List.mem_cons_self, distinct⟩, ?_⟩
        intro other member
        rcases List.mem_cons.mp member with rfl | later
        · exact again
        · exact fun before => fresh other later (List.mem_cons_of_mem id before)
      · rintro ⟨⟨absent, distinct⟩, fresh⟩
        refine ⟨distinct, fun other member before => ?_⟩
        rcases List.mem_cons.mp before with rfl | earlier
        · exact absent member
        · exact fresh other (List.mem_cons_of_mem id member) earlier

/-- Where identifiers are all different, each is found at its own position only. -/
theorem idxOf?_eq_some_iff_of_nodup {ids : List String} (distinct : ids.Nodup) {id : String}
    {index : Nat} : ids.idxOf? id = some index ↔ ids[index]? = some id := by
  rw [List.idxOf?_eq_some_iff]
  constructor
  · rintro ⟨bound, found, -⟩
    rw [List.getElem?_eq_getElem bound, found]
  · intro found
    obtain ⟨bound, rfl⟩ := List.getElem?_eq_some_iff.mp found
    refine ⟨bound, rfl, fun earlier before same => ?_⟩
    exact absurd ((List.Nodup.getElem_inj_iff distinct).mp same) (Nat.ne_of_lt before)

/-- The parent of a set has a position if there is none to look for, or if its identifier is that
of a set. -/
theorem ConditionSet.parentPosition?_eq_ok_iff {set : ConditionSet} {ids : List String}
    {location : Location} {position : Option Nat} :
    set.parentPosition? ids location = .ok position ↔
      (set.parent = none ∧ position = none) ∨
        ∃ parent index, set.parent = some parent ∧ ids.idxOf? parent = some index ∧
          position = some index := by
  unfold ConditionSet.parentPosition?
  cases parent? : set.parent with
  | none =>
    simp [eq_comm]
  | some parent =>
    cases found : ids.idxOf? parent with
    | none => simp [known, refuse, found, Functor.map, Except.map]
    | some index => simp [known, found, Functor.map, Except.map, eq_comm]

/-! ### Blocks and rule sets -/

/-- Where blocks correspond that are enabled together, the enabled blocks correspond. -/
theorem forall₂_enabled {related : RuleBlock → RuleBlock → Prop} {blocks others : List RuleBlock}
    (together : ∀ block other, related block other → block.enabled = other.enabled)
    (correspond : List.Forall₂ related blocks others) :
    List.Forall₂ related (blocks.filter (·.enabled)) (others.filter (·.enabled)) :=
  List.rel_filter
    (fun block other relation => iff_of_eq (congrArg (· = true) (together block other relation)))
    correspond

/-- Blocks with the same content are the same; that they nest properly adds nothing. -/
theorem CompiledBlock.ext_content {first second : CompiledBlock} (id : first.id = second.id)
    (name : first.name = second.name) (roots : first.roots = second.roots)
    (sets : first.sets = second.sets) (actions : first.actions = second.actions) :
    first = second := by
  cases first
  cases second
  cases id
  cases name
  cases roots
  cases sets
  cases actions
  rfl

/-- The identifiers of the condition sets of a block, in order. -/
abbrev RuleBlock.setIds (block : RuleBlock) : List String := block.conditionSets.map (·.id)

/-- The place of a condition set in a block. -/
def Location.ofSet (location : Location) (set : ConditionSet) : Location :=
  { location with conditionSet := some set.id }

/-- The sets of a block are accepted with the positions of their parents. -/
def RuleBlock.Links (block : RuleBlock) (operators : OperatorRegistry) (catalog : Catalog)
    (location : Location) (linked : LinkedSets) : Prop :=
  List.Forall₂ (fun set entry =>
      set.compile operators catalog (location.ofSet set) = .ok entry.1 ∧
        set.parentPosition? block.setIds (location.ofSet set) = .ok entry.2)
    block.conditionSets linked

/-- The two passes over the sets of a block, for what is inside them and for their parents. -/
theorem RuleBlock.links_iff {block : RuleBlock} {operators : OperatorRegistry} {catalog : Catalog}
    {location : Location} {linked : LinkedSets} :
    (∃ checked : List (ConditionSet × CompiledConditionSet),
      (block.conditionSets.mapM fun set =>
        return (set, ← set.compile operators catalog (location.ofSet set))) = .ok checked ∧
      (checked.mapM fun (set, compiled) =>
        return (compiled, ← set.parentPosition? block.setIds
          (location.ofSet set))) = .ok linked) ↔
      block.Links operators catalog location linked := by
  simp only [mapM_eq_ok_iff, exists_forall₂_forall₂_iff]
  unfold Links
  refine iff_of_eq (congrFun (congrFun (congrArg List.Forall₂ ?_) _) _)
  funext set entry
  refine propext ⟨?_, ?_⟩
  · rintro ⟨⟨_, _⟩, checked, placed⟩
    obtain ⟨compiled, accepted, done⟩ := bind_eq_ok_iff.mp checked
    obtain ⟨rfl, rfl⟩ := Prod.mk.inj (Except.ok.inj done)
    obtain ⟨position, found, last⟩ := bind_eq_ok_iff.mp placed
    obtain rfl := Except.ok.inj last
    exact ⟨accepted, found⟩
  · rintro ⟨accepted, found⟩
    exact ⟨(set, entry.1), bind_eq_ok_iff.mpr ⟨entry.1, accepted, rfl⟩,
      bind_eq_ok_iff.mpr ⟨entry.2, found, rfl⟩⟩

theorem RuleBlock.compile_eq_ok_iff {block : RuleBlock} {operators : OperatorRegistry}
    {catalog : Catalog} {location : Location} {compiled : CompiledBlock} :
    block.compile operators catalog location = .ok compiled ↔
      block.setIds.Nodup ∧
      ∃ linked actions, block.Links operators catalog location linked ∧
        linked.nesting.cyclic? = none ∧
        List.Forall₂ (fun action compiledAction =>
          action.compile catalog { location with action := some action.id } = .ok compiledAction)
          block.actions actions ∧
        compiled.id = block.id ∧ compiled.name = block.name ∧
        compiled.roots = linked.nesting.roots ∧ compiled.sets = linked.arranged ∧
        compiled.actions = actions := by
  have distinct : firstRepeated? [] block.setIds = none ↔ block.setIds.Nodup :=
    firstRepeated?_eq_none_iff.trans (and_iff_left fun _ _ => List.not_mem_nil)
  unfold RuleBlock.compile
  rw [← distinct]
  cases repeated : firstRepeated? [] block.setIds with
  | some id =>
    simp only [repeated]
    exact ⟨nofun, fun impossible => nomatch impossible.1⟩
  | none =>
    simp only [repeated, true_and]
    constructor
    · intro accepted
      obtain ⟨checked, checkedOk, rest⟩ := bind_eq_ok_iff.mp accepted
      obtain ⟨linked, linkedOk, rest⟩ := bind_eq_ok_iff.mp rest
      have links := RuleBlock.links_iff.mp ⟨checked, checkedOk, linkedOk⟩
      split at rest
      · exact nomatch rest
      · next acyclic =>
        obtain ⟨actions, actionsOk, done⟩ := bind_eq_ok_iff.mp rest
        obtain rfl := Except.ok.inj done
        exact ⟨linked, actions, links, acyclic, mapM_eq_ok_iff.mp actionsOk,
          rfl, rfl, rfl, rfl, rfl⟩
    · rintro ⟨linked, actions, links, acyclic, actionsOk, id, name, roots, sets, sameActions⟩
      obtain ⟨checked, checkedOk, linkedOk⟩ := RuleBlock.links_iff.mpr links
      refine bind_eq_ok_iff.mpr ⟨checked, checkedOk, bind_eq_ok_iff.mpr ⟨linked, linkedOk, ?_⟩⟩
      split
      · next cyclic => exact nomatch acyclic.symm.trans cyclic
      · refine bind_eq_ok_iff.mpr ⟨actions, mapM_eq_ok_iff.mpr actionsOk, ?_⟩
        exact ok_eq_ok_iff.mpr (CompiledBlock.ext_content id name roots sets sameActions)

theorem RuleBlock.id_of_compile {block : RuleBlock} {operators : OperatorRegistry}
    {catalog : Catalog} {location : Location} {compiled : CompiledBlock}
    (accepted : block.compile operators catalog location = .ok compiled) :
    compiled.id = block.id := by
  obtain ⟨-, -, -, -, -, -, sameId, -⟩ := RuleBlock.compile_eq_ok_iff.mp accepted
  exact sameId

namespace Compiler

variable {World : Type} {compiler : Compiler World} {ruleSet : RuleSet}
  {compiled : CompiledRuleSet World}

/-- What a rule set becomes, given its providers and its enabled blocks. -/
def assemble (compiler : Compiler World) (ruleSet : RuleSet) (vars : VariablesProvider World)
    (actions : ActionsProvider World) (blocks : List CompiledBlock) : CompiledRuleSet World where
  id := ruleSet.id
  name := ruleSet.name
  enabled := ruleSet.enabled
  signal := ruleSet.signal
  signalKwargs := ruleSet.signalKwargs
  stopOnFirstTrigger := ruleSet.stopOnFirstTrigger
  variablesProvider := ruleSet.variablesProvider
  actionsProvider := ruleSet.actionsProvider
  variablesSource := vars
  actionsSource := actions
  blocks
  version := compiler.version + 1

theorem check_eq_ok_iff :
    compiler.check ruleSet = .ok compiled ↔
      ∃ vars actions blocks,
        compiler.providers.variablesByName.find? ruleSet.variablesProvider = some vars ∧
        compiler.providers.actionsByName.find? ruleSet.actionsProvider = some actions ∧
        List.Forall₂ (fun block compiledBlock =>
          block.compile compiler.operators (Catalog.of vars actions)
            { ruleSet := some ruleSet.id, block := some block.id } = .ok compiledBlock)
          (ruleSet.ruleBlocks.filter (·.enabled)) blocks ∧
        compiled = compiler.assemble ruleSet vars actions blocks := by
  unfold check
  simp only [bind_eq_ok_iff, known_eq_ok_iff, mapM_eq_ok_iff]
  constructor
  · rintro ⟨vars, varsFound, actions, actionsFound, blocks, accepted, done⟩
    exact ⟨vars, actions, blocks, varsFound, actionsFound, accepted, (Except.ok.inj done).symm⟩
  · rintro ⟨vars, actions, blocks, varsFound, actionsFound, accepted, rfl⟩
    exact ⟨vars, varsFound, actions, actionsFound, blocks, accepted, rfl⟩

/-- Compiling gives what the check gives. -/
theorem compile_fst : (compiler.compile ruleSet).1 = compiler.check ruleSet := by
  unfold compile
  cases compiler.check ruleSet <;> rfl

/-- Every block of an accepted rule set was made from a block. -/
theorem exists_compile_of_mem (accepted : (compiler.compile ruleSet).1 = .ok compiled)
    {block : CompiledBlock} (member : block ∈ compiled.blocks) :
    ∃ source catalog location,
      RuleBlock.compile source compiler.operators catalog location = .ok block := by
  rw [compile_fst] at accepted
  obtain ⟨vars, actions, blocks, -, -, blocksAccepted, rfl⟩ := check_eq_ok_iff.mp accepted
  obtain ⟨source, blockAccepted⟩ := exists_of_forall₂ blocksAccepted.flip block member
  exact ⟨source, Catalog.of vars actions, _, blockAccepted⟩

end Compiler

/-! ### A rule set that is accepted -/

/-- A compiler that knows the default operators and one property, which is always a sale. -/
def Compiler.ofSales : Compiler Unit where
  operators := .defaults
  providers := {
    variablesByName := [("sales", {
      properties := [{ name := "kind" }]
      construct := fun _ => pure ⟨fun _ _ => pure (.text "sale")⟩ })]
    actionsByName := [("none", {
      actions := []
      construct := fun _ => pure ⟨fun _ _ _ => pure ()⟩ })] }

/-- A rule set with a set that comes before the one it is inside. -/
def RuleSet.innerFirst : RuleSet where
  id := "rules"
  name := "rules"
  variablesProvider := "sales"
  actionsProvider := "none"
  ruleBlocks := [{
    id := "block"
    name := "block"
    enabled := true
    conditionSets := [{
      id := "inner"
      name := "inner"
      combinationRule := "any"
      parent := some "outer"
      conditions := [⟨"pattern", "kind", [], "matches", some "a"⟩] }, {
      id := "outer"
      name := "outer"
      conditions := [⟨"equal", "kind", [], "eq", some "sale"⟩] }] }]
  createdAt := ⟨0, 0⟩
  updatedAt := ⟨0, 0⟩

/-- The rule set is accepted with its block, which has both sets. -/
theorem Compiler.ofSales_accepts_innerFirst :
    ∃ compiled block, (Compiler.ofSales.compile .innerFirst).1 = .ok compiled ∧
      compiled.blocks = [block] ∧ block.sets.length = 2 := by
  have sizes : (match (Compiler.ofSales.compile .innerFirst).1 with
      | .ok compiled => compiled.blocks.map (·.sets.length)
      | .error _ => []) = [2] := by decide +kernel
  cases accepted : (Compiler.ofSales.compile .innerFirst).1 with
  | error error =>
    rw [accepted] at sizes
    exact nomatch sizes
  | ok compiled =>
    rw [accepted] at sizes
    obtain ⟨block, single, two⟩ := List.map_eq_singleton_iff.mp sizes
    exact ⟨compiled, block, rfl, single, two⟩

end Rulebook
