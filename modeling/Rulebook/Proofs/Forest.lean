/-
This file says what a compiled block looks like. The compiled sets stand where the sets of the
source stand and hold what those hold; the positions on top are those of the sets without a parent,
and the positions inside a set are those of the sets that name it as their parent, both in
increasing order.

No position is missing and none is listed twice: one is either on top or inside exactly one other.
With the depth of every set that makes a forest. From the sets on top one comes to every set, and on
one way only, because the last step of a way is forced by the parent of the set it leads to, and the
induction on the depth does the rest.
-/
import Rulebook.Proofs.Arena

namespace Rulebook

/-! ### Ways down -/

namespace Nesting

/-- A way down from a position to another one: the positions it comes through after the first, each
inside the one before. -/
inductive Way (children : List (List Nat)) (start : Nat) : List Nat → Nat → Prop where
  | here : Way children start [] start
  | down {way : List Nat} {above index : Nat} (before : Way children start way above)
      (inside : index ∈ inner children above) : Way children start (way ++ [index]) index

variable {nesting : Nesting}

/-- A way leads from a set on top to every set that stands at some depth. -/
theorem Depth.exists_way {index steps : Nat} (depth : nesting.Depth index steps)
    (closed : nesting.Closed) (bound : index < nesting.size) :
    ∃ root ∈ nesting.roots, ∃ way, Way nesting.childLists root way index := by
  induction depth with
  | @onTop index alone => exact ⟨index, mem_roots_iff.mpr ⟨bound, alone⟩, [], .here⟩
  | @inside index parent steps link _ inductionHypothesis =>
    obtain ⟨root, onTop, way, before⟩ := inductionHypothesis (closed index parent link)
    exact ⟨root, onTop, way ++ [index], .down before ((mem_inner_iff closed).mpr link)⟩

/-- No two ways lead from sets on top to one set. -/
theorem Depth.way_unique {index steps : Nat} (depth : nesting.Depth index steps)
    (closed : nesting.Closed) {root other : Nat} {way otherWay : List Nat}
    (onTop : root ∈ nesting.roots) (leads : Way nesting.childLists root way index)
    (otherOnTop : other ∈ nesting.roots)
    (otherLeads : Way nesting.childLists other otherWay index) :
    other = root ∧ otherWay = way := by
  induction depth generalizing way otherWay with
  | onTop alone =>
    cases leads with
    | down _ inside => simp [(mem_inner_iff closed).mp inside] at alone
    | here =>
      cases otherLeads with
      | down _ inside => simp [(mem_inner_iff closed).mp inside] at alone
      | here => exact ⟨rfl, rfl⟩
  | inside link _ inductionHypothesis =>
    cases leads with
    | here => simp [(mem_roots_iff.mp onTop).2] at link
    | down before inside =>
      cases otherLeads with
      | here => simp [(mem_roots_iff.mp otherOnTop).2] at link
      | down otherBefore otherInside =>
        -- Both last steps come from the one parent.
        obtain rfl := Option.some.inj (link.symm.trans ((mem_inner_iff closed).mp inside))
        obtain rfl := Option.some.inj (link.symm.trans ((mem_inner_iff closed).mp otherInside))
        obtain ⟨sameRoot, sameWay⟩ := inductionHypothesis before otherBefore
        exact ⟨sameRoot, by rw [sameWay]⟩

/-- Where sets nest properly, exactly one way leads from the sets on top to every set. -/
theorem existsUnique_way (closed : nesting.Closed) (acyclic : nesting.cyclic? = none) {index : Nat}
    (bound : index < nesting.size) :
    ∃! way : Nat × List Nat,
      way.1 ∈ nesting.roots ∧ Way nesting.childLists way.1 way.2 index := by
  obtain ⟨steps, depth⟩ := (cyclic?_eq_none_iff closed).mp acyclic index bound
  obtain ⟨root, onTop, way, leads⟩ := depth.exists_way closed bound
  refine ⟨(root, way), ⟨onTop, leads⟩, ?_⟩
  rintro ⟨other, otherWay⟩ ⟨otherOnTop, otherLeads⟩
  obtain ⟨rfl, rfl⟩ := depth.way_unique closed onTop leads otherOnTop otherLeads
  rfl

/-- Positions are put in place one after the other, so they stand in order on top. -/
theorem roots_increasing (nesting : Nesting) : nesting.roots.Pairwise (· < ·) := by
  rw [roots_eq_filter]
  exact List.pairwise_lt_range.filter _

theorem childLists_increasing (nesting : Nesting) {inside : List Nat}
    (member : inside ∈ nesting.childLists) : inside.Pairwise (· < ·) := by
  rw [childLists_eq_map] at member
  obtain ⟨above, -, rfl⟩ := List.mem_map.mp member
  exact List.pairwise_lt_range.filter _

/-- Every position stands once on top or inside another one. -/
theorem roots_append_childLists_perm (closed : nesting.Closed) :
    List.Perm (nesting.roots ++ nesting.childLists.flatten) (List.range nesting.size) := by
  have lists : nesting.childLists.flatten =
      (List.range nesting.size).flatMap (inner nesting.childLists) :=
    (congrArg List.flatten nesting.childLists_eq_map_inner).trans List.flatMap_def.symm
  refine List.perm_iff_count.mpr fun index => ?_
  rw [lists, List.count_append, count_roots, List.Nodup.count List.nodup_range]
  cases link : nesting.parent? index with
  | none =>
    rw [count_flatMap_inner_of_alone closed link]
    simp
  | some parent =>
    rw [count_visited_flatMap_inner closed link, List.Nodup.count List.nodup_range]
    simp [lt_size_of_parent? link, closed index parent link]

end Nesting

/-! ### What compiled parts hold -/

/-- A compiled condition keeps what the condition says; its literal is the text, or null. -/
structure CompiledCondition.Represents (compiled : CompiledCondition) (condition : Condition) :
    Prop where
  id : compiled.id = condition.id
  property : compiled.property = condition.propertyMethod
  kwargs : compiled.kwargs = condition.propertyKwargs
  value : compiled.value = condition.value.elim .null .text

/-- A compiled set keeps what the set says, with its rule read. -/
structure CompiledConditionSet.Represents (compiled : CompiledConditionSet) (set : ConditionSet) :
    Prop where
  id : compiled.id = set.id
  name : compiled.name = set.name
  rule : Combination.ofText? set.combinationRule = some compiled.rule
  conditions : List.Forall₂ (fun condition entry => CompiledCondition.Represents entry condition)
    set.conditions compiled.conditions

/-- A compiled action keeps what the action says. -/
structure CompiledAction.Represents (compiled : CompiledAction) (action : Action) : Prop where
  id : compiled.id = action.id
  method : compiled.method = action.actionMethod
  kwargs : compiled.kwargs = action.actionKwargs

/-- A compiled block stands for a block: its sets stand at the positions of the sets of the block,
and positions form the forest that the parents of the block describe. -/
structure CompiledBlock.Represents (compiled : CompiledBlock) (block : RuleBlock) : Prop where
  id : compiled.id = block.id
  name : compiled.name = block.name
  sets : List.Forall₂ (fun set entry => CompiledConditionSet.Represents entry set)
    block.conditionSets compiled.sets
  roots_increasing : compiled.roots.Pairwise (· < ·)
  mem_roots : ∀ index : Nat, index ∈ compiled.roots ↔
    ∃ set : ConditionSet, block.conditionSets[index]? = some set ∧ set.parent = none
  children_increasing : ∀ entry ∈ compiled.sets, entry.children.Pairwise (· < ·)
  mem_children : ∀ (above : Nat) (set : ConditionSet) (entry : CompiledConditionSet),
    block.conditionSets[above]? = some set → compiled.sets[above]? = some entry →
      ∀ index : Nat, index ∈ entry.children ↔
        ∃ inner : ConditionSet, block.conditionSets[index]? = some inner ∧
          inner.parent = some set.id
  /-- All positions exist. -/
  bounded : ∀ index ∈ compiled.roots ++ compiled.sets.flatMap (·.children),
    index < compiled.sets.length
  /-- Every position is on top or inside another one, and that once. -/
  once : List.Perm (compiled.roots ++ compiled.sets.flatMap (·.children))
    (List.range compiled.sets.length)
  /-- One set on top, and one way down from it, lead to every position. -/
  reached : ∀ index < compiled.sets.length, ∃! way : Nat × List Nat,
    way.1 ∈ compiled.roots ∧ Nesting.Way (compiled.sets.map (·.children)) way.1 way.2 index
  actions : List.Forall₂ (fun action entry => CompiledAction.Represents entry action)
    block.actions compiled.actions

/-! ### What the compiler makes -/

section Compile

variable {operators : OperatorRegistry} {catalog : Catalog} {location : Location}

theorem Condition.represents_of_compile {condition : Condition} {compiled : CompiledCondition}
    (accepted : condition.compile operators catalog location = .ok compiled) :
    compiled.Represents condition := by
  obtain ⟨_, _, _, -, -, -, -, rfl⟩ := Condition.compile_eq_ok_iff.mp accepted
  refine ⟨rfl, rfl, rfl, ?_⟩
  unfold Condition.literal
  cases condition.value <;> rfl

theorem Action.represents_of_compile {action : Action} {compiled : CompiledAction}
    (accepted : action.compile catalog location = .ok compiled) : compiled.Represents action := by
  obtain ⟨-, rfl⟩ := Action.compile_eq_ok_iff.mp accepted
  exact ⟨rfl, rfl, rfl⟩

namespace RuleBlock.Links

variable {block : RuleBlock} {linked : LinkedSets}

/-- The compiled set at a position represents the set there and lists its children. -/
theorem arranged_represents (links : block.Links operators catalog location linked) {index : Nat}
    {set : ConditionSet} (found : block.conditionSets[index]? = some set) :
    ∃ entry, linked.arranged[index]? = some entry ∧ entry.Represents set ∧
      entry.children = linked.nesting.children index := by
  obtain ⟨compiled, position, linkedFound, accepted, -⟩ := links.entry found
  obtain ⟨rule, conditions, parsed, conditionsAccepted, rfl⟩ :=
    ConditionSet.compile_eq_ok_iff.mp accepted
  refine ⟨_, LinkedSets.getElem?_arranged linkedFound, ⟨rfl, rfl, parsed, ?_⟩, rfl⟩
  exact conditionsAccepted.imp fun _ _ conditionAccepted =>
    Condition.represents_of_compile conditionAccepted

theorem forall₂_arranged (links : block.Links operators catalog location linked) :
    List.Forall₂ (fun set entry => CompiledConditionSet.Represents entry set)
      block.conditionSets linked.arranged := by
  refine List.forall₂_iff_get.mpr
    ⟨by rw [links.length_eq, linked.length_arranged], fun index bound arrangedBound => ?_⟩
  obtain ⟨entry, found, represents, -⟩ :=
    links.arranged_represents (List.getElem?_eq_getElem bound)
  obtain ⟨_, rfl⟩ := List.getElem?_eq_some_iff.mp found
  exact represents

theorem mem_roots_iff (links : block.Links operators catalog location linked) {index : Nat} :
    index ∈ linked.nesting.roots ↔
      ∃ set, block.conditionSets[index]? = some set ∧ set.parent = none := by
  rw [Nesting.mem_roots_iff, links.size_nesting]
  constructor
  · rintro ⟨bound, alone⟩
    have found := List.getElem?_eq_getElem bound
    exact ⟨_, found, (links.parent?_eq_none_iff found).mp alone⟩
  · rintro ⟨set, found, alone⟩
    exact ⟨(List.getElem?_eq_some_iff.mp found).1, (links.parent?_eq_none_iff found).mpr alone⟩

theorem mem_children_iff (links : block.Links operators catalog location linked)
    (distinct : block.setIds.Nodup) {above index : Nat} {set : ConditionSet}
    (found : block.conditionSets[above]? = some set) :
    index ∈ linked.nesting.children above ↔
      ∃ inner, block.conditionSets[index]? = some inner ∧ inner.parent = some set.id := by
  rw [Nesting.mem_children_iff]
  constructor
  · intro link
    have innerFound := List.getElem?_eq_getElem (links.parent_bound link).1
    exact ⟨_, innerFound, (links.parent?_eq_some_iff distinct innerFound found).mp link⟩
  · rintro ⟨inner, innerFound, named⟩
    exact (links.parent?_eq_some_iff distinct innerFound found).mpr named

end RuleBlock.Links

/-- A block that was compiled stands for its source. -/
theorem RuleBlock.represents_of_compile {block : RuleBlock} {compiled : CompiledBlock}
    (accepted : block.compile operators catalog location = .ok compiled) :
    compiled.Represents block := by
  obtain ⟨distinct, linked, actions, links, acyclic, actionsAccepted, id, name, roots, sets,
    sameActions⟩ := RuleBlock.compile_eq_ok_iff.mp accepted
  have children : compiled.sets.map (·.children) = linked.nesting.childLists := by
    rw [sets, linked.children_arranged]
  have size : compiled.sets.length = linked.nesting.size := by
    rw [sets, linked.length_arranged, linked.size_nesting]
  have once : List.Perm (compiled.roots ++ compiled.sets.flatMap (·.children))
      (List.range compiled.sets.length) := by
    rw [List.flatMap_def, roots, children, size]
    exact Nesting.roots_append_childLists_perm links.closed
  -- The set at a position and the compiled one there are a pair of the arrangement.
  have paired : ∀ (above : Nat) (set : ConditionSet) (entry : CompiledConditionSet),
      block.conditionSets[above]? = some set → compiled.sets[above]? = some entry →
        entry.children = linked.nesting.children above := by
    intro above set entry found entryFound
    obtain ⟨_, arrangedFound, -, inside⟩ := links.arranged_represents found
    rw [sets, arrangedFound] at entryFound
    exact Option.some.inj entryFound ▸ inside
  exact {
    id, name, once
    sets := sets ▸ links.forall₂_arranged
    roots_increasing := roots ▸ linked.nesting.roots_increasing
    mem_roots := fun index => roots ▸ links.mem_roots_iff
    children_increasing := fun entry member =>
      linked.nesting.childLists_increasing
        (children ▸ List.mem_map.mpr ⟨entry, member, rfl⟩)
    mem_children := fun above set entry found entryFound index => by
      rw [paired above set entry found entryFound]
      exact links.mem_children_iff distinct found
    bounded := fun index member => List.mem_range.mp (once.mem_iff.mp member)
    reached := fun index bound => by
      rw [children, roots]
      exact Nesting.existsUnique_way links.closed acyclic (size ▸ bound)
    actions := sameActions ▸ actionsAccepted.imp fun _ _ actionAccepted =>
      Action.represents_of_compile actionAccepted }

end Compile

/-- The blocks of an accepted rule set stand for its enabled blocks, in order. -/
theorem Compiler.compile_represents {World : Type} {compiler : Compiler World} {ruleSet : RuleSet}
    {compiled : CompiledRuleSet World}
    (accepted : (compiler.compile ruleSet).1 = .ok compiled) :
    List.Forall₂ (fun block entry => CompiledBlock.Represents entry block)
      (ruleSet.ruleBlocks.filter (·.enabled)) compiled.blocks := by
  rw [compile_fst] at accepted
  obtain ⟨_, _, blocks, -, -, blocksAccepted, rfl⟩ := check_eq_ok_iff.mp accepted
  exact blocksAccepted.imp fun _ _ blockAccepted => RuleBlock.represents_of_compile blockAccepted

theorem Compiler.compile_represents_innerFirst :
    ∃ compiled block, (Compiler.ofSales.compile .innerFirst).1 = .ok compiled ∧
      compiled.blocks = [block] ∧
      List.Forall₂ (fun source entry => CompiledBlock.Represents entry source)
        (RuleSet.innerFirst.ruleBlocks.filter (·.enabled)) compiled.blocks := by
  obtain ⟨compiled, block, accepted, single, -⟩ := ofSales_accepts_innerFirst
  exact ⟨compiled, block, accepted, single, compile_represents accepted⟩

end Rulebook
