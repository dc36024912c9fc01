/-
This file says what the evaluation of a block does to the world. Whatever the results of the
conditions are, and however sets combine them, all that is done is to evaluate the conditions of the
block one after another in one fixed order, up to the first that fails: sets on top in order, in a
set its own conditions before the sets inside it. The equation is between steps, so it holds from
every world and for every instance of the variables, also one that changes what it answers.

In a block that the compiler made, this order meets every set once, so it lists every condition of
the block once.
-/
import Rulebook.Trigger
import Rulebook.Proofs.Effect
import Rulebook.Proofs.Arena

namespace Rulebook

namespace Effect

variable {World Error Item Other : Type}

/-- Lists of steps one after another are one list of steps. -/
theorem forM_flatMap (items : List Item) (inside : Item → List Other)
    (act : Other → Effect World Error Unit) :
    forM (items.flatMap inside) act = forM items fun item => forM (inside item) act := by
  induction items with
  | nil => rfl
  | cons item rest inductionHypothesis =>
    rw [List.flatMap_cons, List.forM_append, inductionHypothesis, List.forM_cons]

/-- Steps that are told where their item comes from, and do not use it for more than their proofs,
are steps on the items. -/
theorem silent_mapM_attach {Result : Type} (items : List Item)
    (act : { item // item ∈ items } → Effect World Error Result)
    (alone : Item → Effect World Error Unit) (same : ∀ item, (act item).silent = alone item.1) :
    silent (items.attach.mapM act) = forM items alone := by
  rw [silent_mapM, funext same]
  conv => rhs; rw [← List.attach_map_subtype_val items]
  exact List.forM_map.symm

theorem perform_located {Error Result : Type} (fault : Error → RuleFault)
    (location : Location) (step : Effect World Error Result) (world : World) :
    (located fault location step).perform world =
      ((step.perform world).1.mapError fun cause => .located (fault cause) location,
        (step.perform world).2) := rfl

theorem perform_located_eq_ok_iff {Error Result : Type} {fault : Error → RuleFault}
    {location : Location} {step : Effect World Error Result} {before after : World}
    {result : Result} :
    (located fault location step).perform before = (.ok result, after) ↔
      step.perform before = (.ok result, after) := by
  rw [perform_located]
  rcases step.perform before with ⟨cause | result, reached⟩ <;> simp [Except.mapError]

theorem perform_located_eq_error_iff {Error Result : Type} {fault : Error → RuleFault}
    {location : Location} {step : Effect World Error Result} {before after : World}
    {error : RuleError} :
    (located fault location step).perform before = (.error error, after) ↔
      ∃ cause, step.perform before = (.error cause, after) ∧
        error = .located (fault cause) location := by
  rw [perform_located]
  rcases step.perform before with ⟨cause | result, reached⟩ <;>
    simp [Except.mapError, eq_comm, and_comm]

end Effect

namespace CompiledBlock

variable {World : Type}

/-! ### The order of the conditions -/

/-- The positions of the sets of a block in the order in which they are evaluated. -/
def preorder (block : CompiledBlock) : List Nat :=
  block.roots.flatMap (Nesting.preorder (block.sets.map (·.children)) block.sets.length)

/-- The conditions of the set at a position, each with its set. -/
def conditionsAt (block : CompiledBlock) (index : Nat) :
    List (CompiledConditionSet × CompiledCondition) :=
  (block.sets[index]?).elim [] fun set => set.conditions.map fun condition => (set, condition)

/-- The conditions of a block in the order in which they are evaluated, each with its set. -/
def listing (block : CompiledBlock) : List (CompiledConditionSet × CompiledCondition) :=
  block.preorder.flatMap block.conditionsAt

theorem mem_listing {block : CompiledBlock} {set : CompiledConditionSet}
    {condition : CompiledCondition} (member : (set, condition) ∈ block.listing) :
    set ∈ block.sets ∧ condition ∈ set.conditions := by
  obtain ⟨index, -, atIndex⟩ := List.mem_flatMap.mp member
  unfold conditionsAt at atIndex
  cases found : block.sets[index]? with
  | none => simp [found] at atIndex
  | some _ =>
    rw [found] at atIndex
    obtain ⟨_, inSet, same⟩ := List.mem_map.mp atIndex
    obtain ⟨rfl, rfl⟩ := Prod.mk.inj same
    exact ⟨List.mem_of_getElem? found, inSet⟩

/-! ### What an evaluation does -/

/-- Evaluates a condition as one of a set. -/
def evaluateIn (vars : VariablesInstance World) (location : Location)
    (entry : CompiledConditionSet × CompiledCondition) : Effect World RuleError Bool :=
  entry.2.evaluate vars { location with conditionSet := some entry.1.id }

/-- A set with at least one level below it evaluates its conditions and then the sets inside it. -/
theorem evaluateWithin_succ (block : CompiledBlock) (vars : VariablesInstance World)
    (levels index : Nat)
    (fits : Nesting.fits (block.sets.map (·.children)) (levels + 1) index = true)
    (location : Location) :
    ∃ (bound : index < block.sets.length)
      (inside : ∀ child ∈ block.sets[index].children,
        Nesting.fits (block.sets.map (·.children)) levels child = true),
      block.evaluateWithin vars (levels + 1) index fits location = do
        let place := { location with conditionSet := some block.sets[index].id }
        let own ← block.sets[index].conditions.mapM fun condition => condition.evaluate vars place
        let nested ← block.sets[index].children.attach.mapM fun child =>
          block.evaluateWithin vars levels child.1 (inside child.1 child.2) place
        return block.sets[index].rule.combine (own ++ nested) := by
  have found : ∃ children, (block.sets.map (·.children))[index]? = some children := by
    unfold Nesting.fits at fits
    split at fits
    · exact absurd fits Bool.false_ne_true
    · next children found => exact ⟨children, found⟩
  obtain ⟨children, found⟩ := found
  have bound : index < block.sets.length := by
    simpa using (List.getElem?_eq_some_iff.mp found).1
  refine ⟨bound, fun child member => ?_, rfl⟩
  refine Nesting.fits_inner fits ?_
  simpa [Nesting.inner, List.getElem?_eq_getElem bound] using member

/-- Evaluating a set takes the conditions in it and in the sets inside it one after another. -/
theorem silent_evaluateWithin (block : CompiledBlock) (vars : VariablesInstance World)
    (levels index : Nat)
    (fits : Nesting.fits (block.sets.map (·.children)) levels index = true)
    (location : Location) :
    (block.evaluateWithin vars levels index fits location).silent =
      forM ((Nesting.preorder (block.sets.map (·.children)) levels index).flatMap
        block.conditionsAt) fun entry => (evaluateIn vars location entry).silent := by
  induction levels generalizing index location with
  | zero => exact absurd fits (by simp [Nesting.fits])
  | succ levels inductionHypothesis =>
    obtain ⟨bound, inside, unfolded⟩ := evaluateWithin_succ block vars levels index fits location
    have own : block.conditionsAt index =
        block.sets[index].conditions.map fun condition => (block.sets[index], condition) := by
      simp [conditionsAt, List.getElem?_eq_getElem bound]
    have children : Nesting.inner (block.sets.map (·.children)) index =
        block.sets[index].children := by
      simp [Nesting.inner, List.getElem?_eq_getElem bound]
    -- The place handed to the sets inside is overwritten by their own, so the outer one will do.
    have nested := Effect.silent_mapM_attach block.sets[index].children
      (fun child => block.evaluateWithin vars levels child.1 (inside child.1 child.2)
        { location with conditionSet := some block.sets[index].id })
      (fun child => forM ((Nesting.preorder (block.sets.map (·.children)) levels child).flatMap
        block.conditionsAt) fun entry => (evaluateIn vars location entry).silent)
      fun child => inductionHypothesis child.1 (inside child.1 child.2) _
    rw [unfolded, Effect.silent_join, Effect.silent_mapM, nested, Nesting.preorder,
      List.flatMap_cons, List.forM_append, own, children, List.forM_map, List.flatMap_assoc,
      Effect.forM_flatMap]
    rfl

/-- Evaluating a block takes its conditions one after another, whatever they give. -/
theorem silent_allConditionsTrue (block : CompiledBlock) (vars : VariablesInstance World)
    (location : Location) :
    (block.allConditionsTrue vars location).silent =
      forM block.listing fun entry => (evaluateIn vars location entry).silent := by
  rw [listing, preorder, List.flatMap_assoc, Effect.forM_flatMap]
  unfold allConditionsTrue
  rw [Effect.silent_bind]
  exact Effect.silent_mapM_attach block.roots _ _ fun root =>
    block.silent_evaluateWithin vars _ root.1 _ location

/-! ### Every condition once -/

/-- Going through the positions of a list in order is going through the list. -/
theorem flatMap_range_getElem? {Item Other : Type} (items : List Item)
    (inside : Item → List Other) :
    ((List.range items.length).flatMap fun index => (items[index]?).elim [] inside) =
      items.flatMap inside := by
  induction items with
  | nil => rfl
  | cons item rest inductionHypothesis =>
    rw [List.length_cons, List.range_succ_eq_map, List.flatMap_cons, List.flatMap_map,
      List.flatMap_cons, ← inductionHypothesis]
    rfl

/-- In a block that was compiled, the evaluation meets every set once. -/
theorem preorder_perm_range {block : RuleBlock} {operators : OperatorRegistry} {catalog : Catalog}
    {location : Location} {compiled : CompiledBlock}
    (accepted : block.compile operators catalog location = .ok compiled) :
    List.Perm compiled.preorder (List.range compiled.sets.length) := by
  obtain ⟨_, linked, _, links, acyclic, -, -, -, roots, sets, -⟩ :=
    RuleBlock.compile_eq_ok_iff.mp accepted
  have met := Nesting.visited_perm_range links.closed acyclic
  unfold preorder
  rw [roots, sets, linked.children_arranged, linked.length_arranged, ← linked.size_nesting]
  exact met

/-- In a block that was compiled, the evaluation meets every condition of every set once. -/
theorem listing_perm {block : RuleBlock} {operators : OperatorRegistry} {catalog : Catalog}
    {location : Location} {compiled : CompiledBlock}
    (accepted : block.compile operators catalog location = .ok compiled) :
    List.Perm compiled.listing
      (compiled.sets.flatMap fun set => set.conditions.map fun condition => (set, condition)) := by
  have all := flatMap_range_getElem? compiled.sets fun set =>
    set.conditions.map fun condition => (set, condition)
  rw [← all]
  exact (preorder_perm_range accepted).flatMap_right compiled.conditionsAt

end CompiledBlock

end Rulebook
