/-
This file says that the order in which the condition sets of a block are defined does not matter for
what the block decides. Parents are named, not pointed at, so a set may come before or after the
sets inside it, and all that changes is where sets stand in the compiled block and in which order
they are evaluated.

What is asked of a block is asked of its sets one by one or of any two of them, so rearranged rule
sets compile together. The verdict of a block combines those of its sets by rules that do not look
at an order, and it is missing if one of them is; so rearranged blocks decide alike, or fail
together, though perhaps at different conditions.
-/
import Rulebook.Proofs.Verdict
import Rulebook.Proofs.WellFormed

namespace Rulebook

/-! ### Rearranged rule sets -/

/-- The second block has the condition sets of the first in another order, and all else alike. -/
structure RuleBlock.Rearranged (first second : RuleBlock) : Prop where
  others : second = { first with conditionSets := second.conditionSets }
  sets : List.Perm first.conditionSets second.conditionSets

/-- The second rule set has the blocks of the first, each rearranged, and all else alike. -/
structure RuleSet.Rearranged (first second : RuleSet) : Prop where
  others : second = { first with ruleBlocks := second.ruleBlocks }
  blocks : List.Forall₂ RuleBlock.Rearranged first.ruleBlocks second.ruleBlocks

/-- Two runs ended well with the same result, or both failed, whatever their errors tell. -/
inductive EndAlike {Error Result : Type} : Except Error Result → Except Error Result → Prop where
  | well (result : Result) : EndAlike (.ok result) (.ok result)
  | failed (error other : Error) : EndAlike (.error error) (.error other)

theorem EndAlike.of_toOption_eq {Error Result : Type} {first second : Except Error Result}
    (same : first.toOption = second.toOption) : EndAlike first second := by
  cases first with
  | error error =>
    cases second with
    | error other => exact .failed error other
    | ok result => exact nomatch same
  | ok result =>
    cases second with
    | error other => exact nomatch same
    | ok other =>
      obtain rfl := Option.some.inj same
      exact .well result

/-! ### Verdicts do not depend on the order -/

section Verdicts

variable {Item Result : Type} {items others : List Item}

theorem mapM_eq_some_iff {act : Item → Option Result} {results : List Result} :
    items.mapM act = some results ↔
      List.Forall₂ (fun item result => act item = some result) items results := by
  induction items generalizing results with
  | nil => simp [eq_comm]
  | cons item rest inductionHypothesis =>
    simp only [List.mapM_cons, Option.bind_eq_bind, Option.bind_eq_some_iff, Option.pure_def,
      Option.some_inj, inductionHypothesis, List.forall₂_cons_left_iff]
    constructor
    · rintro ⟨result, acted, results, restActed, rfl⟩
      exact ⟨result, results, acted, restActed, rfl⟩
    · rintro ⟨result, results, acted, restActed, rfl⟩
      exact ⟨result, acted, results, restActed, rfl⟩

/-- In another order the same results come, in another order, or there are none either. -/
theorem exists_mapM_of_perm (perm : items.Perm others) {act : Item → Option Result}
    {results : List Result} (acted : others.mapM act = some results) :
    ∃ permuted, items.mapM act = some permuted ∧ permuted.Perm results := by
  obtain ⟨permuted, itemsActed, same⟩ :=
    List.perm_comp_forall₂ perm (mapM_eq_some_iff.mp acted)
  exact ⟨permuted, mapM_eq_some_iff.mpr itemsActed, same⟩

/-- What is made of the results without looking at their order does not depend on the order. -/
theorem bind_mapM_perm {Second : Type} (perm : items.Perm others) (act : Item → Option Result)
    {next : List Result → Option Second}
    (orderless : ∀ first second : List Result, first.Perm second → next first = next second) :
    items.mapM act >>= next = others.mapM act >>= next := by
  cases othersActed : others.mapM act with
  | some results =>
    obtain ⟨permuted, itemsActed, same⟩ := exists_mapM_of_perm perm othersActed
    rw [itemsActed]
    exact orderless permuted results same
  | none =>
    cases itemsActed : items.mapM act with
    | none => rfl
    | some permuted =>
      obtain ⟨results, acted, -⟩ := exists_mapM_of_perm perm.symm itemsActed
      exact nomatch othersActed.symm.trans acted

end Verdicts

theorem Combination.combine_perm (rule : Combination) {first second : List Bool}
    (perm : first.Perm second) : rule.combine first = rule.combine second := by
  cases rule with
  | all => exact perm.all_eq
  | any => exact perm.any_eq

/-- The verdict of a set does not depend on the order of the sets around it. -/
theorem ConditionSet.verdict?_perm {first second : List ConditionSet} (perm : first.Perm second)
    (operators : OperatorRegistry) (answers : Answers) (levels : Nat) (set : ConditionSet) :
    ConditionSet.verdict? first operators answers levels set =
      ConditionSet.verdict? second operators answers levels set := by
  induction levels generalizing set with
  | zero => rfl
  | succ levels inductionHypothesis =>
    rw [ConditionSet.verdict?, ConditionSet.verdict?, funext inductionHypothesis]
    refine bind_congr fun rule => bind_congr fun own => ?_
    refine bind_mapM_perm (perm.filter _) _ fun inner others same => ?_
    exact congrArg some (rule.combine_perm (same.append_left own))

/-! ### Rearranged blocks -/

/-- A way up stays one where sets are added or stand elsewhere. -/
theorem ConditionSet.Grounded.mono {sets others : List ConditionSet} (within : sets ⊆ others)
    {set : ConditionSet} (grounded : set.Grounded sets) : set.Grounded others := by
  induction grounded with
  | onTop alone => exact .onTop alone
  | inside member link _ inductionHypothesis =>
    exact .inside (within member) link inductionHypothesis

variable {World : Type}

namespace RuleBlock.Rearranged

variable {first second : RuleBlock}

theorem symm (rearranged : first.Rearranged second) : second.Rearranged first where
  others := by rw [rearranged.others]
  sets := rearranged.sets.symm

theorem enabled_eq (rearranged : first.Rearranged second) : first.enabled = second.enabled := by
  rw [rearranged.others]

theorem actions_eq (rearranged : first.Rearranged second) : first.actions = second.actions := by
  rw [rearranged.others]

/-- What is asked of a block is asked of its sets in no order. -/
theorem wellFormed {operators : OperatorRegistry} {vars : VariablesProvider World}
    {actions : ActionsProvider World} (rearranged : first.Rearranged second)
    (wellFormed : first.WellFormed operators vars actions) :
    second.WellFormed operators vars actions := by
  have sets (set : ConditionSet) : set ∈ second.conditionSets ↔ set ∈ first.conditionSets :=
    rearranged.sets.symm.mem_iff
  exact {
    distinct := (rearranged.sets.pairwise_iff Ne.symm).mp wellFormed.distinct
    rules := fun set member => wellFormed.rules set ((sets set).mp member)
    conditions := fun set member => wellFormed.conditions set ((sets set).mp member)
    parents := fun set member parent named => by
      obtain ⟨above, aboveMember, same⟩ :=
        wellFormed.parents set ((sets set).mp member) parent named
      exact ⟨above, (sets above).mpr aboveMember, same⟩
    grounded := fun set member =>
      (wellFormed.grounded set ((sets set).mp member)).mono rearranged.sets.subset
    actions := rearranged.actions_eq ▸ wellFormed.actions }

/-- Rearranged blocks have one verdict, or none. -/
theorem verdict?_eq (rearranged : first.Rearranged second) (operators : OperatorRegistry)
    (answers : Answers) :
    first.verdict? operators answers = second.verdict? operators answers := by
  have perm := rearranged.sets
  unfold RuleBlock.verdict?
  rw [perm.length_eq, funext (ConditionSet.verdict?_perm perm operators answers _)]
  exact bind_mapM_perm (perm.filter _) _ fun results others same => congrArg some same.all_eq

/-- The compiled forms of rearranged blocks end alike on the same answers, in any two worlds. -/
theorem endAlike {operators : OperatorRegistry} {catalog otherCatalog : Catalog}
    {location otherLocation : Location} {compiled other : CompiledBlock}
    (rearranged : first.Rearranged second)
    (accepted : first.compile operators catalog location = .ok compiled)
    (otherAccepted : second.compile operators otherCatalog otherLocation = .ok other)
    {vars : VariablesInstance World} {answers : Answers} (alike : vars.AnswersBy answers)
    (place otherPlace : Location) (before otherBefore : World) :
    EndAlike ((compiled.allConditionsTrue vars place).perform before).1
      ((other.allConditionsTrue vars otherPlace).perform otherBefore).1 := by
  have decided := CompiledBlock.allConditionsTrue_decides accepted alike place before
  have otherDecided :=
    CompiledBlock.allConditionsTrue_decides otherAccepted alike otherPlace otherBefore
  refine .of_toOption_eq ?_
  rw [decided, otherDecided, rearranged.verdict?_eq]

end RuleBlock.Rearranged

/-! ### Rearranged rule sets are compiled alike -/

namespace RuleSet.Rearranged

variable {first second : RuleSet}

theorem symm (rearranged : first.Rearranged second) : second.Rearranged first where
  others := by rw [rearranged.others]
  blocks := rearranged.blocks.flip.imp fun _ _ => RuleBlock.Rearranged.symm

/-- The enabled blocks are rearranged one by one. -/
theorem enabledBlocks (rearranged : first.Rearranged second) :
    List.Forall₂ RuleBlock.Rearranged (first.ruleBlocks.filter (·.enabled))
      (second.ruleBlocks.filter (·.enabled)) :=
  forall₂_enabled (fun _ _ blocks => blocks.enabled_eq) rearranged.blocks

theorem wellFormed {operators : OperatorRegistry} {providers : ProviderRegistry World}
    (rearranged : first.Rearranged second) (wellFormed : first.WellFormed operators providers) :
    second.WellFormed operators providers := by
  obtain ⟨vars, actions, varsFound, actionsFound, blocks⟩ := wellFormed
  rw [rearranged.others]
  refine ⟨vars, actions, varsFound, actionsFound, fun block member enabled => ?_⟩
  have pairs := (List.forall₂_and_left _ _).mpr ⟨blocks, rearranged.blocks⟩
  obtain ⟨source, sourceWellFormed, blockRearranged⟩ := exists_of_forall₂ pairs.flip block member
  exact blockRearranged.wellFormed (sourceWellFormed (blockRearranged.enabled_eq.trans enabled))

end RuleSet.Rearranged

/-- Rule sets whose blocks are rearranged compile together. Their blocks correspond, and on
variables that answer alike every time two blocks that correspond decide alike or fail together. -/
theorem Compiler.rearranged_decides_alike {compiler : Compiler World} {first second : RuleSet}
    (rearranged : first.Rearranged second) :
    ((∃ compiled, (compiler.compile first).1 = .ok compiled) ↔
      ∃ compiled, (compiler.compile second).1 = .ok compiled) ∧
    ∀ compiled other, (compiler.compile first).1 = .ok compiled →
      (compiler.compile second).1 = .ok other →
        List.Forall₂ (fun block otherBlock =>
            ∀ (Any : Type) (vars : VariablesInstance Any) (answers : Answers),
              vars.AnswersBy answers →
                ∀ (place otherPlace : Location) (before otherBefore : Any),
                  EndAlike ((block.allConditionsTrue vars place).perform before).1
                    ((otherBlock.allConditionsTrue vars otherPlace).perform otherBefore).1)
          compiled.blocks other.blocks := by
  simp only [compile_fst]
  constructor
  · rw [exists_check_iff, exists_check_iff]
    exact ⟨rearranged.wellFormed, rearranged.symm.wellFormed⟩
  · intro compiled other accepted otherAccepted
    obtain ⟨_, _, blocks, -, -, blocksAccepted, rfl⟩ := check_eq_ok_iff.mp accepted
    obtain ⟨_, _, otherBlocks, -, -, otherBlocksAccepted, rfl⟩ := check_eq_ok_iff.mp otherAccepted
    -- From a compiled block back to its source, across to the rearranged one, and forth again.
    have across := exists_forall₂_forall₂_iff.mp
      ⟨_, blocksAccepted.flip, rearranged.enabledBlocks⟩
    have pairs := exists_forall₂_forall₂_iff.mp ⟨_, across, otherBlocksAccepted⟩
    refine pairs.imp fun block otherBlock sources => ?_
    obtain ⟨otherSource, ⟨source, blockAccepted, blockRearranged⟩, otherBlockAccepted⟩ := sources
    exact fun _ _ _ => blockRearranged.endAlike blockAccepted otherBlockAccepted

/-- The rule set with the sets of its block the other way around, the outer one first. -/
def RuleSet.outerFirst : RuleSet :=
  { RuleSet.innerFirst with
    ruleBlocks := RuleSet.innerFirst.ruleBlocks.map fun block =>
      { block with conditionSets := block.conditionSets.reverse } }

theorem Compiler.rearranged_decides_alike_outerFirst :
    RuleSet.innerFirst.Rearranged .outerFirst ∧
      ∃ compiled other, (Compiler.ofSales.compile .innerFirst).1 = .ok compiled ∧
        (Compiler.ofSales.compile .outerFirst).1 = .ok other ∧
        List.Forall₂ (fun block otherBlock => ∀ (place : Location) (before : Unit),
            EndAlike
              ((block.allConditionsTrue ⟨fun _ _ => pure (.text "sale")⟩ place).perform before).1
              ((otherBlock.allConditionsTrue ⟨fun _ _ => pure (.text "sale")⟩ place).perform
                before).1)
          compiled.blocks other.blocks := by
  have rearranged : RuleSet.innerFirst.Rearranged .outerFirst :=
    ⟨rfl, .cons ⟨rfl, (List.reverse_perm _).symm⟩ .nil⟩
  obtain ⟨compiled, _, accepted, -, -⟩ := ofSales_accepts_innerFirst
  obtain ⟨other, otherAccepted⟩ := (rearranged_decides_alike rearranged).1.mp ⟨compiled, accepted⟩
  refine ⟨rearranged, compiled, other, accepted, otherAccepted, ?_⟩
  refine ((rearranged_decides_alike rearranged).2 compiled other accepted otherAccepted).imp ?_
  exact fun block otherBlock alike place before =>
    alike Unit _ (fun _ _ => .ok (.text "sale")) (fun _ _ _ => rfl) place place before before

end Rulebook
