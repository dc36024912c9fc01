/-
This file ties the positions in a compiled block to the condition sets of the block it was made
from. The set at a position is the compiled form of the set at the same position of the source; its
parent's position is that of the set whose identifier it names; and the positions on top, or inside
a set, list the sets of the source without a parent, or with that parent, in the order of the
source. Sets nest properly exactly if, in the source, parents lead from every set to one without a
parent.
-/
import Rulebook.Proofs.Acceptance

namespace Rulebook

/-- Following parents from a set, inside a list of sets, ends at a set without one. -/
inductive ConditionSet.Grounded (sets : List ConditionSet) : ConditionSet → Prop where
  | onTop {set : ConditionSet} (alone : set.parent = none) : Grounded sets set
  | inside {set above : ConditionSet} (member : above ∈ sets) (link : set.parent = some above.id)
      (higher : Grounded sets above) : Grounded sets set

theorem LinkedSets.parent?_nesting {linked : LinkedSets} {index : Nat}
    {compiled : CompiledConditionSet} {position : Option Nat}
    (found : linked[index]? = some (compiled, position)) :
    linked.nesting.parent? index = position := by
  simp [nesting, Nesting.parent?, found]

/-- The set at a position takes on the positions of its children. -/
theorem LinkedSets.getElem?_arranged {linked : LinkedSets} {index : Nat}
    {compiled : CompiledConditionSet} {position : Option Nat}
    (found : linked[index]? = some (compiled, position)) :
    linked.arranged[index]? =
      some { compiled with children := linked.nesting.children index } := by
  have bound : index < linked.nesting.size := by
    rw [size_nesting]
    exact (List.getElem?_eq_some_iff.mp found).1
  have inside : linked.nesting.childLists[index]? = some (linked.nesting.children index) := by
    simp [Nesting.childLists_eq_map, bound]
  rw [arranged, List.getElem?_zipWith, found, inside]

/-- A set that took on positions was one of the sets before. -/
theorem LinkedSets.exists_of_mem_arranged {linked : LinkedSets} {entry : CompiledConditionSet}
    (member : entry ∈ linked.arranged) :
    ∃ compiled position index, (compiled, position) ∈ linked ∧
      entry = { compiled with children := linked.nesting.children index } := by
  obtain ⟨index, found⟩ := List.mem_iff_getElem?.mp member
  have bound : index < linked.length := by
    rw [← length_arranged]
    exact (List.getElem?_eq_some_iff.mp found).1
  have arrangedFound := getElem?_arranged (List.getElem?_eq_getElem bound)
  exact ⟨_, _, index, List.getElem_mem bound, Option.some.inj (found.symm.trans arrangedFound)⟩

/-- Choosing positions of a list by what stands there is choosing from the list. -/
theorem forall₂_filter_range {Item : Type} {items : List Item} {position : Nat → Bool}
    {chosen : Item → Bool}
    (same : ∀ index item, items[index]? = some item → position index = chosen item) :
    List.Forall₂ (fun index item => items[index]? = some item)
      ((List.range items.length).filter position) (items.filter chosen) := by
  induction items generalizing position with
  | nil => exact .nil
  | cons item rest inductionHypothesis =>
    have later : List.Forall₂ (fun index item => rest[index]? = some item)
        ((List.range rest.length).filter (position ∘ Nat.succ)) (rest.filter chosen) :=
      inductionHypothesis fun index other found => same (index + 1) other found
    have shifted : List.Forall₂ (fun index other => (item :: rest)[index]? = some other)
        (((List.range rest.length).filter (position ∘ Nat.succ)).map Nat.succ)
        (rest.filter chosen) := List.forall₂_map_left_iff.mpr later
    rw [List.length_cons, List.range_succ_eq_map, List.filter_cons, List.filter_cons,
      List.filter_map, same 0 item rfl]
    cases chosen item with
    | false => exact shifted
    | true => exact .cons rfl shifted

namespace RuleBlock.Links

variable {block : RuleBlock} {operators : OperatorRegistry} {catalog : Catalog}
  {location : Location} {linked : LinkedSets}

theorem length_eq (links : block.Links operators catalog location linked) :
    block.conditionSets.length = linked.length := List.Forall₂.length_eq links

/-- The set at a position, with what it became and the position of its parent. -/
theorem entry (links : block.Links operators catalog location linked) {index : Nat}
    {set : ConditionSet} (found : block.conditionSets[index]? = some set) :
    ∃ compiled position, linked[index]? = some (compiled, position) ∧
      set.compile operators catalog (location.ofSet set) = .ok compiled ∧
      set.parentPosition? block.setIds (location.ofSet set) = .ok position := by
  obtain ⟨bound, rfl⟩ := List.getElem?_eq_some_iff.mp found
  have linkedBound : index < linked.length := links.length_eq ▸ bound
  obtain ⟨accepted, placed⟩ := List.Forall₂.get links bound linkedBound
  exact ⟨_, _, List.getElem?_eq_getElem linkedBound, accepted, placed⟩

/-- The position of a parent is that of the set whose identifier is named. -/
theorem parent?_eq_some_iff (links : block.Links operators catalog location linked)
    (distinct : block.setIds.Nodup) {index parent : Nat} {set above : ConditionSet}
    (found : block.conditionSets[index]? = some set)
    (aboveFound : block.conditionSets[parent]? = some above) :
    linked.nesting.parent? index = some parent ↔ set.parent = some above.id := by
  obtain ⟨compiled, position, linkedFound, -, placed⟩ := links.entry found
  have place : block.setIds[parent]? = some above.id := by simp [aboveFound]
  rw [LinkedSets.parent?_nesting linkedFound]
  rcases ConditionSet.parentPosition?_eq_ok_iff.mp placed with
    ⟨alone, rfl⟩ | ⟨id, place', named, placed', rfl⟩
  · simp [alone]
  · have atPlace := (idxOf?_eq_some_iff_of_nodup distinct).mp placed'
    rw [named, Option.some_inj, Option.some_inj]
    constructor
    · rintro rfl
      exact Option.some.inj (atPlace.symm.trans place)
    · rintro rfl
      exact Option.some.inj
        (placed'.symm.trans ((idxOf?_eq_some_iff_of_nodup distinct).mpr place))

/-- A set has no position above it exactly if it names no parent. -/
theorem parent?_eq_none_iff (links : block.Links operators catalog location linked) {index : Nat}
    {set : ConditionSet} (found : block.conditionSets[index]? = some set) :
    linked.nesting.parent? index = none ↔ set.parent = none := by
  obtain ⟨compiled, position, linkedFound, -, placed⟩ := links.entry found
  rw [LinkedSets.parent?_nesting linkedFound]
  rcases ConditionSet.parentPosition?_eq_ok_iff.mp placed with
    ⟨alone, rfl⟩ | ⟨id, place, named, -, rfl⟩
  · simp [alone]
  · simp [named]

theorem size_nesting (links : block.Links operators catalog location linked) :
    linked.nesting.size = block.conditionSets.length := by
  rw [LinkedSets.size_nesting, links.length_eq]

/-- The positions on top are those of the sets without a parent. -/
theorem roots_forall₂ (links : block.Links operators catalog location linked) :
    List.Forall₂ (fun index set => block.conditionSets[index]? = some set)
      linked.nesting.roots (block.conditionSets.filter (·.parent.isNone)) := by
  rw [Nesting.roots_eq_filter, links.size_nesting]
  refine forall₂_filter_range fun index set found => ?_
  rw [Bool.eq_iff_iff, Option.isNone_iff_eq_none, Option.isNone_iff_eq_none]
  exact links.parent?_eq_none_iff found

/-- The positions inside a set are those of the sets that name it as their parent. -/
theorem children_forall₂ (links : block.Links operators catalog location linked)
    (distinct : block.setIds.Nodup) {index : Nat} {set : ConditionSet}
    (found : block.conditionSets[index]? = some set) :
    List.Forall₂ (fun child inner => block.conditionSets[child]? = some inner)
      (linked.nesting.children index)
      (block.conditionSets.filter (·.parent == some set.id)) := by
  unfold Nesting.children
  rw [links.size_nesting]
  refine forall₂_filter_range fun child inner childFound => ?_
  rw [Bool.eq_iff_iff, beq_iff_eq, beq_iff_eq]
  exact links.parent?_eq_some_iff distinct childFound found

/-- All parents exist, and the parent of a set is a set of the block. -/
theorem parent_bound (links : block.Links operators catalog location linked) {index parent : Nat}
    (link : linked.nesting.parent? index = some parent) :
    index < block.conditionSets.length ∧ parent < block.conditionSets.length := by
  have bound : index < block.conditionSets.length :=
    links.size_nesting ▸ Nesting.lt_size_of_parent? link
  refine ⟨bound, ?_⟩
  obtain ⟨compiled, position, linkedFound, -, placed⟩ :=
    links.entry (List.getElem?_eq_getElem bound)
  rw [LinkedSets.parent?_nesting linkedFound] at link
  rcases ConditionSet.parentPosition?_eq_ok_iff.mp placed with
    ⟨-, rfl⟩ | ⟨id, place, -, found, rfl⟩
  · exact nomatch link
  · obtain rfl := Option.some.inj link
    obtain ⟨small, -⟩ := List.idxOf?_eq_some_iff.mp found
    simpa using small

theorem closed (links : block.Links operators catalog location linked) :
    linked.nesting.Closed := fun _ _ link => links.size_nesting ▸ (links.parent_bound link).2

/-- A set stands at some depth exactly if parents lead from it to a set without one. -/
theorem depth_iff (links : block.Links operators catalog location linked)
    (distinct : block.setIds.Nodup) {index : Nat} {set : ConditionSet}
    (found : block.conditionSets[index]? = some set) :
    (∃ steps, linked.nesting.Depth index steps) ↔ set.Grounded block.conditionSets := by
  constructor
  · rintro ⟨steps, depth⟩
    induction depth generalizing set with
    | onTop alone => exact .onTop ((links.parent?_eq_none_iff found).mp alone)
    | inside link _ inductionHypothesis =>
      have aboveFound := List.getElem?_eq_getElem (links.parent_bound link).2
      exact .inside (List.mem_of_getElem? aboveFound)
        ((links.parent?_eq_some_iff distinct found aboveFound).mp link)
        (inductionHypothesis aboveFound)
  · intro grounded
    induction grounded generalizing index with
    | onTop alone => exact ⟨0, .onTop ((links.parent?_eq_none_iff found).mpr alone)⟩
    | inside member link _ inductionHypothesis =>
      obtain ⟨parent, aboveFound⟩ := List.mem_iff_getElem?.mp member
      obtain ⟨steps, depth⟩ := inductionHypothesis aboveFound
      exact ⟨steps + 1,
        .inside ((links.parent?_eq_some_iff distinct found aboveFound).mpr link) depth⟩

/-- Sets nest properly exactly if parents lead from every set to one without a parent. -/
theorem cyclic?_eq_none_iff (links : block.Links operators catalog location linked)
    (distinct : block.setIds.Nodup) :
    linked.nesting.cyclic? = none ↔
      ∀ set ∈ block.conditionSets, set.Grounded block.conditionSets := by
  rw [Nesting.cyclic?_eq_none_iff links.closed, links.size_nesting]
  constructor
  · intro depths set member
    obtain ⟨index, found⟩ := List.mem_iff_getElem?.mp member
    obtain ⟨bound, -⟩ := List.getElem?_eq_some_iff.mp found
    exact (links.depth_iff distinct found).mp (depths index bound)
  · intro grounded index bound
    have found := List.getElem?_eq_getElem bound
    exact (links.depth_iff distinct found).mpr (grounded _ (List.mem_of_getElem? found))

end RuleBlock.Links

end Rulebook
