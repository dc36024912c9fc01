/-
This file holds rule sets that are ready to run. The condition sets of a block stand in one list
and refer to each other by position: a set lists the positions of the sets inside it, and the block
lists those of the sets that are inside no other. The type of a block carries the fact that the
evaluation needs: from every position, sets nest at most as deep as there are sets.
-/
import Rulebook.Nesting
import Rulebook.Operator
import Rulebook.RuleSet
import Rulebook.Provider

namespace Rulebook

/-- A condition: what the property returns is compared with a text, or with null. -/
structure CompiledCondition where
  id : String
  property : String
  kwargs : Kwargs
  operator : Operator
  value : Value

/-- An action of a block. -/
structure CompiledAction where
  id : String
  method : String
  kwargs : Kwargs

/-- A condition set with the positions of the sets inside it. -/
structure CompiledConditionSet where
  id : String
  name : String
  rule : Combination
  conditions : List CompiledCondition
  children : List Nat := []

/-- A block: condition sets that nest properly, and the actions that run when they hold. -/
structure CompiledBlock where
  id : String
  name : String
  roots : List Nat
  sets : List CompiledConditionSet
  actions : List CompiledAction
  /-- The sets on top exist. -/
  roots_lt : ∀ index ∈ roots, index < sets.length
  /-- Sets nest at most as deep as there are sets. -/
  nests : ∀ index, index < sets.length →
    Nesting.fits (sets.map (·.children)) sets.length index = true

/-- A rule set whose names are all known: it holds the providers it names. -/
structure CompiledRuleSet (World : Type) where
  id : String
  name : String
  enabled : Bool
  signal : String
  signalKwargs : Kwargs
  stopOnFirstTrigger : Bool
  variablesProvider : String
  actionsProvider : String
  variablesSource : VariablesProvider World
  actionsSource : ActionsProvider World
  /-- The enabled blocks, in order. -/
  blocks : List CompiledBlock
  /-- How many rule sets the compiler had accepted when it accepted this one, itself included; a
  counter of 64 bits agrees with it below `2 ^ 64`. -/
  version : Nat

/-- How a compiled rule set is shown to programmers. -/
def CompiledRuleSet.describe {World : Type} (ruleSet : CompiledRuleSet World) : String :=
  "CompiledRuleSet \x7b id: " ++ Text.quoted ruleSet.id
    ++ ", name: " ++ Text.quoted ruleSet.name
    ++ ", enabled: " ++ (if ruleSet.enabled then "true" else "false")
    ++ ", signal: " ++ Text.quoted ruleSet.signal
    ++ ", blocks: " ++ toString ruleSet.blocks.length
    ++ ", compile_version: " ++ toString ruleSet.version ++ " \x7d"

/-! ### Putting sets in place -/

/-- Sets together with the positions of their parents. -/
abbrev LinkedSets := List (CompiledConditionSet × Option Nat)

namespace LinkedSets

/-- How the sets nest. -/
def nesting (linked : LinkedSets) : Nesting := ⟨linked.map (·.2)⟩

/-- The sets, each with the positions of its children. -/
def arranged (linked : LinkedSets) : List CompiledConditionSet :=
  linked.zipWith (fun entry children => { entry.1 with children }) linked.nesting.childLists

theorem size_nesting (linked : LinkedSets) : linked.nesting.size = linked.length := by
  simp [nesting, Nesting.size]

theorem length_arranged (linked : LinkedSets) : linked.arranged.length = linked.length := by
  simp [arranged, Nesting.childLists_eq_map, size_nesting]

theorem children_arranged (linked : LinkedSets) :
    linked.arranged.map (·.children) = linked.nesting.childLists := by
  have lengths : linked.nesting.childLists.length = linked.length := by
    simp [Nesting.childLists_eq_map, size_nesting]
  refine List.ext_getElem (by simp [length_arranged, lengths]) fun index _ _ => ?_
  simp [arranged]

theorem roots_lt (linked : LinkedSets) (index : Nat) (member : index ∈ linked.nesting.roots) :
    index < linked.arranged.length := by
  rw [Nesting.roots_eq_filter] at member
  have bound := List.mem_range.mp (List.mem_filter.mp member).1
  rw [size_nesting] at bound
  rw [length_arranged]
  exact bound

/-- Without a cycle the arranged sets nest at most as deep as there are sets. -/
theorem nests (linked : LinkedSets) (acyclic : linked.nesting.cyclic? = none) (index : Nat)
    (bound : index < linked.arranged.length) :
    Nesting.fits (linked.arranged.map (·.children)) linked.arranged.length index = true := by
  rw [children_arranged, length_arranged, ← size_nesting]
  rw [length_arranged, ← size_nesting] at bound
  exact linked.nesting.fits_of_cyclic?_eq_none acyclic index bound

end LinkedSets

end Rulebook
