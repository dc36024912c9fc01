/-
This file says what a rule set means and proves that compiling preserves it. The meaning is read off
the definition of a block, with no positions, no resolved operators and no patterns made in advance:
a set's parent is looked for by its identifier, an operator by its own, and a pattern is read from
the text when it is needed. The meaning descends into sets inside sets as many levels as it is
given, and below them it has no value; as many levels as the block has sets will do, and more make
no difference.

Variables that answer alike every time answer by a function, whatever they do to the world besides.
On the answers of such variables the meaning of a block of an accepted rule set is a value or an
error, and the compiled block evaluates to the same value or the same error, its place included. The
induction is on the levels that the compiled block has left to descend; the positions inside a set
and the sets that name it as their parent are gone through side by side.
-/
import Mathlib.Data.List.Forall2
import Rulebook.Proofs.Evaluation

namespace Rulebook

/-! ### What a block means -/

/-- What properties are answered, by name and arguments. -/
abbrev Answers := String → Kwargs → Except ProviderError Value

/-- A condition means what its operator, as it is registered, says of the answer and the text. -/
def Condition.meaning (condition : Condition) (operators : OperatorRegistry) (answers : Answers)
    (location : Location) : Except RuleError Bool := do
  let place := { location with condition := some condition.id }
  let left ← (answers condition.propertyMethod condition.propertyKwargs).mapError fun error =>
    .located (.ofProperty condition.propertyMethod error) place
  match operators.find? condition.comparisonOperator with
  | none => refuse (.unknownOperator condition.comparisonOperator) place
  | some operator =>
    (operator.holds left (condition.value.elim .null .text)).mapError fun mismatch =>
      .located (.ofMismatch operator.id mismatch) place

/-- A combination rule asks for all results, or for one of them. -/
def Combination.meaning : Combination → List Bool → Bool
  | .all, results => decide (∀ result ∈ results, result = true)
  | .any, results => decide (∃ result ∈ results, result = true)

/-- A condition set combines its own conditions, in order, and then the sets that name it as their
parent, in the order in which they are defined. There is no value if sets nest deeper than the given
number of levels. -/
def ConditionSet.meaning (sets : List ConditionSet) (operators : OperatorRegistry)
    (answers : Answers) : Nat → Location → ConditionSet → ExceptT RuleError Option Bool
  | 0, _, _ => ExceptT.mk none
  | levels + 1, location, set => do
    let place := { location with conditionSet := some set.id }
    let rule ← known (Combination.ofText? set.combinationRule)
      (.invalidCombinationRule set.combinationRule) place
    let own ← set.conditions.mapM fun condition =>
      ExceptT.mk (some (condition.meaning operators answers place))
    let inner ← (sets.filter (·.parent == some set.id)).mapM fun child =>
      ConditionSet.meaning sets operators answers levels place child
    return rule.meaning (own ++ inner)

/-- A block holds if all its sets without a parent do. -/
def RuleBlock.meaning (block : RuleBlock) (operators : OperatorRegistry) (answers : Answers)
    (levels : Nat) (location : Location) : ExceptT RuleError Option Bool := do
  let results ← (block.conditionSets.filter (·.parent.isNone)).mapM
    (ConditionSet.meaning block.conditionSets operators answers levels location)
  return Combination.all.meaning results

/-- All operators that a registry finds are of this kind. -/
def OperatorRegistry.FindsOnly (operators : OperatorRegistry) (kind : Operator → Prop) : Prop :=
  ∀ id operator, operators.find? id = some operator → kind operator

namespace OperatorRegistry.FindsOnly

variable {operators : OperatorRegistry} {kind : Operator → Prop}

theorem insert (only : operators.FindsOnly kind) (id : String) {operator : Operator}
    (new : kind operator) :
    OperatorRegistry.FindsOnly ⟨operators.entries.insert id operator⟩ kind :=
  Fields.forall_find?_insert only new

theorem addAlias (only : operators.FindsOnly kind) (id target : String) :
    (operators.addAlias id target).FindsOnly kind := by
  unfold OperatorRegistry.addAlias
  cases found : operators.find? target with
  | none => exact only
  | some operator => exact only.insert id (only target operator found)

/-- The registry of the default operators finds only these, also by the dotted identifiers. -/
theorem defaults (all : ∀ operator ∈ Operator.defaults, kind operator) :
    OperatorRegistry.defaults.FindsOnly kind := by
  have registered : (Operator.defaults.foldl OperatorRegistry.register empty).FindsOnly kind :=
    List.foldlRecOn (motive := (FindsOnly · kind)) Operator.defaults _ nofun
      fun _ only operator member => only.insert operator.id (all operator member)
  exact List.foldlRecOn (motive := (FindsOnly · kind)) Operator.legacyAliases _ registered
    fun _ only entry _ => only.addAlias entry.1 entry.2

end OperatorRegistry.FindsOnly

/-- In a registry the operator on patterns is the one that reads a pattern when it compares. -/
def OperatorRegistry.ReadsPatterns (operators : OperatorRegistry) : Prop :=
  ∀ id operator, operators.find? id = some operator → operator.id = Operator.matchesId →
    operator.holds = Operator.matching

namespace OperatorRegistry.ReadsPatterns

variable {operators : OperatorRegistry}

/-- An entry may be added under any identifier, if its own does not claim too much. -/
theorem insert (reads : operators.ReadsPatterns) (id : String) {operator : Operator}
    (honest : operator.id = Operator.matchesId → operator.holds = Operator.matching) :
    OperatorRegistry.ReadsPatterns ⟨operators.entries.insert id operator⟩ :=
  FindsOnly.insert reads id honest

theorem addAlias (reads : operators.ReadsPatterns) (id target : String) :
    (operators.addAlias id target).ReadsPatterns :=
  FindsOnly.addAlias reads id target

/-- The registry of the default operators reads patterns when it compares. -/
theorem defaults : OperatorRegistry.defaults.ReadsPatterns := by
  refine FindsOnly.defaults ?_
  simp [Operator.defaults, Operator.ordering, Operator.onTexts, Operator.matchesId]

end OperatorRegistry.ReadsPatterns

variable {World : Type}

/-- Variables answer by a function, whatever the world is and whatever they do to it. -/
def VariablesInstance.AnswersBy (vars : VariablesInstance World) (answers : Answers) : Prop :=
  ∀ property kwargs world, ((vars.get property kwargs).perform world).1 = answers property kwargs

/-! ### Steps that end alike from every world -/

/-- A step ends as a computation without a world does, from every world. -/
def Effect.EndsAs {Result : Type} (step : Effect World RuleError Result)
    (reference : ExceptT RuleError Option Result) : Prop :=
  ∀ world, reference.run = some (step.perform world).1

namespace Effect.EndsAs

variable {First Second Item Other : Type}

theorem pure (result : First) :
    Effect.EndsAs (Pure.pure result : Effect World RuleError First) (Pure.pure result) :=
  fun _ => rfl

theorem bind {step : Effect World RuleError First} {next : First → Effect World RuleError Second}
    {reference : ExceptT RuleError Option First}
    {continuation : First → ExceptT RuleError Option Second}
    (first : step.EndsAs reference) (rest : ∀ result, (next result).EndsAs (continuation result)) :
    Effect.EndsAs (step >>= next) (reference >>= continuation) := by
  intro world
  have firstEnds := first world
  rw [Effect.perform_bind, ExceptT.run_bind, firstEnds]
  rcases step.perform world with ⟨error | result, reached⟩
  · rfl
  · exact rest result reached

theorem alikeInSequence :
    AlikeInSequence fun Result (step : Effect World RuleError Result) reference =>
      step.EndsAs reference where
  pure := pure
  bind := bind

theorem mapM {act : Item → Effect World RuleError First}
    {reference : Other → ExceptT RuleError Option First} {items : List Item} {others : List Other}
    (alike : List.Forall₂ (fun item other => (act item).EndsAs (reference other)) items others) :
    Effect.EndsAs (items.mapM act) (others.mapM reference) :=
  alikeInSequence.mapM act reference alike

/-- Steps that are told where their item comes from go side by side with the related items. -/
theorem mapM_attach {items : List Item} {others : List Other} {related : Item → Other → Prop}
    {act : { item // item ∈ items } → Effect World RuleError First}
    {reference : Other → ExceptT RuleError Option First}
    (pairs : List.Forall₂ related items others)
    (alike : ∀ item other, related item.1 other → (act item).EndsAs (reference other)) :
    Effect.EndsAs (items.attach.mapM act) (others.mapM reference) :=
  alikeInSequence.mapM_attach act reference pairs alike

end Effect.EndsAs

/-! ### The compiled form ends as the definition means -/

/-- An operator that is bound compares with the text it was bound for as the registered operator
does. -/
theorem Operator.holds_of_bind {operator bound : Operator} {literal : Value} {location : Location}
    (reads : operator.id = matchesId → operator.holds = matching)
    (boundTo : operator.bind literal location = .ok bound) :
    bound.id = operator.id ∧ ∀ left, bound.holds left literal = operator.holds left literal := by
  rw [Operator.bind_eq_ok_iff] at boundTo
  by_cases onPatterns : operator.id = matchesId
  · rw [if_pos onPatterns] at boundTo
    obtain ⟨pattern, read, rfl⟩ := boundTo
    refine ⟨onPatterns.symm, fun left => ?_⟩
    rw [reads onPatterns]
    unfold matching
    rw [read]
    rfl
  · rw [if_neg onPatterns] at boundTo
    subst boundTo
    exact ⟨rfl, fun _ => rfl⟩

section Compiled

variable {operators : OperatorRegistry} {catalog : Catalog} {location : Location}
  {vars : VariablesInstance World} {answers : Answers}

theorem CompiledCondition.evaluate_endsAs (patterns : operators.ReadsPatterns)
    (alike : vars.AnswersBy answers) {condition : Condition} {compiled : CompiledCondition}
    (accepted : condition.compile operators catalog location = .ok compiled) (place : Location) :
    Effect.EndsAs (compiled.evaluate vars place)
      (ExceptT.mk (some (condition.meaning operators answers place))) := by
  intro world
  obtain ⟨property, operator, bound, -, found, -, boundTo, rfl⟩ :=
    Condition.compile_eq_ok_iff.mp accepted
  obtain ⟨sameId, sameHolds⟩ := Operator.holds_of_bind (patterns _ _ found) boundTo
  have answered := alike condition.propertyMethod condition.propertyKwargs world
  have literal : condition.literal = condition.value.elim .null .text := by
    unfold Condition.literal
    cases condition.value <;> rfl
  refine congrArg some ?_
  unfold CompiledCondition.evaluate Condition.meaning
  rw [Effect.perform_bind, Effect.perform_located, ← answered, found]
  rcases (vars.get condition.propertyMethod condition.propertyKwargs).perform world with
    ⟨error | left, reached⟩
  · rfl
  · have compared := sameHolds left
    rw [literal] at compared ⊢
    simp only [Except.mapError, compared, sameId, bind, Except.bind]
    cases operator.holds left (condition.value.elim .null .text) <;> rfl

theorem Combination.combine_eq (rule : Combination) (results : List Bool) :
    rule.combine results = rule.meaning results := by
  rw [Bool.eq_iff_iff]
  cases rule <;> simp [combine, meaning]

/-- A set whose rule is known combines its results by it. -/
theorem ConditionSet.meaning_succ {sets : List ConditionSet} {set : ConditionSet}
    {rule : Combination} (parsed : Combination.ofText? set.combinationRule = some rule)
    (levels : Nat) :
    ConditionSet.meaning sets operators answers (levels + 1) location set = (do
      let place := { location with conditionSet := some set.id }
      let own ← set.conditions.mapM fun condition =>
        ExceptT.mk (some (condition.meaning operators answers place))
      let inner ← (sets.filter (·.parent == some set.id)).mapM
        (ConditionSet.meaning sets operators answers levels place)
      return rule.meaning (own ++ inner)) := by
  rw [ConditionSet.meaning, parsed]
  rfl

/-- A set of an accepted block, with the sets inside it, ends as it means. -/
theorem CompiledBlock.evaluateWithin_endsAs {block : RuleBlock} {linked : LinkedSets}
    {compiled : CompiledBlock} (patterns : operators.ReadsPatterns) (alike : vars.AnswersBy answers)
    (links : block.Links operators catalog location linked) (distinct : block.setIds.Nodup)
    (arranged : compiled.sets = linked.arranged) {levels index : Nat} {set : ConditionSet}
    (found : block.conditionSets[index]? = some set)
    (fits : Nesting.fits (compiled.sets.map (·.children)) levels index = true) (place : Location)
    {depth : Nat} (enough : levels ≤ depth) :
    Effect.EndsAs (compiled.evaluateWithin vars levels index fits place)
      (ConditionSet.meaning block.conditionSets operators answers depth place set) := by
  -- The meaning may have more levels left than the compiled set, so both are counted down.
  induction levels generalizing index set place depth with
  | zero => exact absurd fits (by simp [Nesting.fits])
  | succ levels inductionHypothesis =>
    obtain ⟨depth, rfl⟩ := Nat.exists_eq_add_of_le' (Nat.le_trans (Nat.le_add_left 1 levels) enough)
    have enoughInside := Nat.le_of_succ_le_succ enough
    obtain ⟨bound, inside, unfolded⟩ :=
      compiled.evaluateWithin_succ vars levels index fits place
    obtain ⟨compiledSet, position, linkedFound, accepted, -⟩ := links.entry found
    obtain ⟨rule, conditions, parsed, conditionsAccepted, rfl⟩ :=
      ConditionSet.compile_eq_ok_iff.mp accepted
    have here := LinkedSets.getElem?_arranged linkedFound
    rw [← arranged] at here
    obtain ⟨_, here⟩ := List.getElem?_eq_some_iff.mp here
    have sameId : compiled.sets[index].id = set.id := by rw [here]
    have sameRule : compiled.sets[index].rule = rule := by rw [here]
    have own : compiled.sets[index].conditions = conditions := by rw [here]
    have inner : compiled.sets[index].children = linked.nesting.children index := by rw [here]
    have children : List.Forall₂ (fun child inner => block.conditionSets[child]? = some inner)
        compiled.sets[index].children (block.conditionSets.filter (·.parent == some set.id)) := by
      rw [inner]
      exact links.children_forall₂ distinct found
    rw [unfolded, ConditionSet.meaning_succ parsed]
    simp only [sameId, sameRule, own, Combination.combine_eq]
    refine .bind (.mapM ?_) fun results => .bind (.mapM_attach children ?_) fun others => .pure _
    · exact conditionsAccepted.flip.imp fun _ _ conditionAccepted =>
        CompiledCondition.evaluate_endsAs patterns alike conditionAccepted _
    · exact fun child _ childFound =>
        inductionHypothesis childFound (inside child.1 child.2) _ enoughInside

/-- A block that was compiled ends as it means. -/
theorem CompiledBlock.allConditionsTrue_endsAs {block : RuleBlock} {compiled : CompiledBlock}
    (patterns : operators.ReadsPatterns) (alike : vars.AnswersBy answers)
    (accepted : block.compile operators catalog location = .ok compiled) (place : Location)
    {levels : Nat} (enough : block.conditionSets.length ≤ levels) :
    Effect.EndsAs (compiled.allConditionsTrue vars place)
      (block.meaning operators answers levels place) := by
  obtain ⟨distinct, linked, actions, links, -, -, -, -, roots, sets, -⟩ :=
    RuleBlock.compile_eq_ok_iff.mp accepted
  have onTop : List.Forall₂ (fun index set => block.conditionSets[index]? = some set)
      compiled.roots (block.conditionSets.filter (·.parent.isNone)) := by
    rw [roots]
    exact links.roots_forall₂
  have deep : compiled.sets.length ≤ levels := by
    rw [sets, linked.length_arranged, ← links.length_eq]
    exact enough
  unfold allConditionsTrue RuleBlock.meaning
  refine .bind (.mapM_attach onTop fun root set found => ?_) fun results => ?_
  · exact evaluateWithin_endsAs patterns alike links distinct sets found _ place deep
  · rw [← Combination.combine_eq]
    exact .pure _

end Compiled

/-- Compiling preserves what a rule set means. Every enabled block of an accepted rule set has a
meaning on the answers of any variables that answer alike every time, given at least as many levels
as it has sets, and its compiled form ends as it means, with the same value or with the same
error. -/
theorem Compiler.compile_preserves_meaning {compiler : Compiler World} {ruleSet : RuleSet}
    {compiled : CompiledRuleSet World} (patterns : compiler.operators.ReadsPatterns)
    (accepted : (compiler.compile ruleSet).1 = .ok compiled) :
    List.Forall₂ (fun block compiledBlock =>
        ∀ (vars : VariablesInstance World) (answers : Answers), vars.AnswersBy answers →
          ∀ levels, block.conditionSets.length ≤ levels → ∀ (place : Location) (world : World),
            (block.meaning compiler.operators answers levels place).run =
              some ((compiledBlock.allConditionsTrue vars place).perform world).1)
      (ruleSet.ruleBlocks.filter (·.enabled)) compiled.blocks := by
  rw [compile_fst] at accepted
  obtain ⟨_, _, blocks, -, -, blocksAccepted, rfl⟩ := check_eq_ok_iff.mp accepted
  refine blocksAccepted.imp fun block compiledBlock blockAccepted => ?_
  intro vars answers alike levels enough place
  exact CompiledBlock.allConditionsTrue_endsAs patterns alike blockAccepted place enough

theorem Compiler.compile_preserves_meaning_innerFirst :
    ∃ compiled, (Compiler.ofSales.compile .innerFirst).1 = .ok compiled ∧
      List.Forall₂ (fun block compiledBlock =>
          ∀ (vars : VariablesInstance Unit) (answers : Answers), vars.AnswersBy answers →
            ∀ levels, block.conditionSets.length ≤ levels → ∀ (place : Location) (world : Unit),
              (block.meaning .defaults answers levels place).run =
                some ((compiledBlock.allConditionsTrue vars place).perform world).1)
        (RuleSet.innerFirst.ruleBlocks.filter (·.enabled)) compiled.blocks := by
  have accepts : (Compiler.ofSales.compile .innerFirst).1.isOk = true := by decide +kernel
  cases accepted : (Compiler.ofSales.compile .innerFirst).1 with
  | error error =>
    rw [accepted] at accepts
    exact nomatch accepts
  | ok compiled =>
    exact ⟨compiled, rfl,
      compile_preserves_meaning OperatorRegistry.ReadsPatterns.defaults accepted⟩

end Rulebook
