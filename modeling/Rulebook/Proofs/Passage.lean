/-
This file follows a trigger on its way through a rule set. A trigger makes its two instances and
then goes through the blocks, and what it does there is a list of calls.

A trigger that ends well made the calls for all blocks, or for those up to the first that held, and
its outcome tells which. A trigger that fails made the calls of the same order up to and including
the one that failed; its error names the place of that call. Both are said twice over: block by
block, with the worlds in between, and as one list of calls that leads from the world in which the
instances were made to the world in which the trigger leaves off.
-/
import Rulebook.Proofs.Calls

namespace Rulebook

variable {World : Type}

/-! ### Through a rule set -/

/-- What a trigger works with: the instances it made, the world it made them in, and the blocks it
has gone through, with whether they held. -/
structure Passage (World : Type) where
  vars : VariablesInstance World
  actions : ActionsInstance World
  ready : World
  finished : List (CompiledBlock × Bool)

namespace Passage

/-- A trigger made its instances, went through blocks to their ends and has the blocks `left`
before it. -/
structure Reaches (passage : Passage World) (ruleSet : CompiledRuleSet World) (args : EventArgs)
    (before : World) (left : List CompiledBlock) (after : World) : Prop where
  /-- One instance of the variables is made and then one of the actions, from the same
  arguments. -/
  starts : ∃ made,
    (ruleSet.variablesSource.construct args).perform before = (.ok passage.vars, made) ∧
    (ruleSet.actionsSource.construct args).perform made = (.ok passage.actions, passage.ready)
  /-- The blocks are gone through in the order in which they were defined. -/
  finishes : Finishes ruleSet.id passage.vars passage.actions passage.finished passage.ready after
  blocks : ruleSet.blocks = passage.finished.map (·.1) ++ left

/-- A trigger went through its blocks to the end and tells what it did. -/
structure Completes (passage : Passage World) (ruleSet : CompiledRuleSet World) (args : EventArgs)
    (before : World) (outcome : TriggerOutcome) (after : World) : Prop where
  reaches : ∃ left, passage.Reaches ruleSet args before left after ∧
    EndsAt ruleSet.stopOnFirstTrigger passage.finished left outcome.stoppedEarly
  /-- After the instances were made, the calls for the blocks are all that was done. -/
  performs : Effect.perform
    (forM (callsFor passage.finished) (Call.perform ruleSet.id passage.vars passage.actions))
    passage.ready = (.ok (), after)
  ruleSetId : outcome.ruleSetId = ruleSet.id
  skipped : outcome.skipped = false
  blocks : outcome.blocks = passage.finished.map BlockOutcome.ofEntry
  actionsRun : (outcome.blocks.map (·.actionsRun)).sum =
    (callsFor passage.finished).countP Call.isAction

end Passage

namespace CompiledRuleSet

variable {ruleSet : CompiledRuleSet World} {args : EventArgs} {before after : World}

/-- The trigger of a rule set that is not enabled does nothing and says so. -/
theorem trigger_of_not_enabled (disabled : ruleSet.enabled = false) :
    ruleSet.trigger args = pure { ruleSetId := ruleSet.id, skipped := true } := by
  unfold trigger
  rw [disabled]
  rfl

/-- In a rule set that was compiled, the calls for the conditions of a block meet every condition of
every set once. -/
theorem conditionCalls_perm {compiler : Compiler World} {source : RuleSet}
    (accepted : (compiler.compile source).1 = .ok ruleSet) {block : CompiledBlock}
    (member : block ∈ ruleSet.blocks) :
    List.Perm block.conditionCalls
      (block.sets.flatMap fun set => set.conditions.map (Call.evaluate block set)) := by
  obtain ⟨_, _, _, compiled⟩ := Compiler.exists_compile_of_mem accepted member
  have once := (CompiledBlock.listing_perm compiled).map
    fun entry => Call.evaluate block entry.1 entry.2
  simp only [List.map_flatMap, List.map_map] at once
  exact once

/-- A trigger that ends well does nothing if the rule set is not enabled. Otherwise it makes its
instances and goes through the blocks in order: all of them, or those up to the first that holds if
the rule set stops there. The calls for a block are those for all its conditions, each once, and
then, if it holds, those for its actions; the outcome tells which blocks held and how many actions
ran. -/
theorem trigger_completes {outcome : TriggerOutcome}
    (ended : (ruleSet.trigger args).perform before = (.ok outcome, after)) :
    (ruleSet.enabled = false →
      after = before ∧ outcome = { ruleSetId := ruleSet.id, skipped := true, blocks := [] }) ∧
    (ruleSet.enabled = true →
      ∃ passage : Passage World, passage.Completes ruleSet args before outcome after) ∧
    ∀ (compiler : Compiler World) (source : RuleSet),
      (compiler.compile source).1 = .ok ruleSet → ∀ block ∈ ruleSet.blocks,
        List.Perm block.conditionCalls
          (block.sets.flatMap fun set => set.conditions.map (Call.evaluate block set)) := by
  refine ⟨fun disabled => ?_, fun enabled => ?_, fun compiler source accepted block member =>
    conditionCalls_perm accepted member⟩
  · rw [trigger_of_not_enabled disabled] at ended
    obtain ⟨done, rfl⟩ := Prod.mk.inj ended
    exact ⟨rfl, (Except.ok.inj done).symm⟩
  · unfold trigger at ended
    rw [if_pos enabled] at ended
    obtain ⟨vars, made, varsMade, ended⟩ := Effect.perform_bind_eq_ok_iff.mp ended
    obtain ⟨actions, ready, actionsMade, ended⟩ := Effect.perform_bind_eq_ok_iff.mp ended
    obtain ⟨⟨blocks, stopped⟩, reached, ran, last⟩ := Effect.perform_bind_eq_ok_iff.mp ended
    obtain ⟨done, rfl⟩ := Prod.mk.inj last
    obtain rfl := Except.ok.inj done
    obtain ⟨finished, left, shape, finishes, rfl, ends⟩ := finishes_of_runBlocks ran
    have starts := And.intro (Effect.perform_located_eq_ok_iff.mp varsMade)
      (Effect.perform_located_eq_ok_iff.mp actionsMade)
    exact ⟨⟨vars, actions, ready, finished⟩, {
      reaches := ⟨left, ⟨⟨made, starts⟩, finishes, shape⟩, ends⟩
      performs := finishes.performs
      ruleSetId := rfl
      skipped := rfl
      blocks := rfl
      actionsRun := sum_actionsRun finished }⟩

/-- A rule set that writes down in the world what is asked of its instances. It has one block with
one condition, which holds, and the actions of the given methods, of which `break` fails. -/
def recording (methods : List String) : CompiledRuleSet (List String) where
  id := "recording"
  name := "recording"
  enabled := true
  signal := ""
  signalKwargs := []
  stopOnFirstTrigger := true
  variablesProvider := "variables"
  actionsProvider := "actions"
  variablesSource := {
    properties := []
    construct := fun _ => do
      Effect.change (· ++ ["variables"])
      return ⟨fun property _ => do
        Effect.change (· ++ [property])
        return .bool true⟩ }
  actionsSource := {
    actions := []
    construct := fun _ => do
      Effect.change (· ++ ["actions"])
      return ⟨fun method _ _ => do
        Effect.change (· ++ [method])
        if method = "break" then throw (.failed "broken")⟩ }
  blocks := [{
    id := "block"
    name := "block"
    roots := [0]
    sets := [⟨"set", "set", .all, [⟨"condition", "ready", [], ⟨"truth", fun left _ =>
      .ok left.isTruthy⟩, .null⟩], []⟩]
    actions := methods.map fun method => ⟨method, method, []⟩
    roots_lt := by decide
    nests := by decide }]
  version := 1

theorem trigger_completes_recording :
    let outcome : TriggerOutcome :=
      { ruleSetId := "recording", stoppedEarly := true, blocks := [⟨"block", true, 2⟩] }
    let world := ["variables", "actions", "ready", "first", "second"]
    ((recording ["first", "second"]).trigger {}).perform [] = (.ok outcome, world) ∧
      ∃ passage : Passage (List String),
        passage.Completes (recording ["first", "second"]) {} [] outcome world :=
  ⟨rfl, (trigger_completes rfl).2.1 rfl⟩

/-- How a trigger stops: making an instance fails, or it reaches a block and there a condition or an
action fails. The error names the failing step and no other, and the world is as that step left
it. -/
inductive Stops (ruleSet : CompiledRuleSet World) (args : EventArgs) (before : World) :
    RuleError → World → Prop where
  /-- The first thing that is made is the instance of the variables. -/
  | variables {fault : ProviderError} {after : World}
      (fails : (ruleSet.variablesSource.construct args).perform before = (.error fault, after)) :
      Stops ruleSet args before
        (.located (.providerConstruction ruleSet.variablesProvider fault.message)
          { ruleSet := some ruleSet.id }) after
  /-- The second one is the instance of the actions. -/
  | actions {vars : VariablesInstance World} {made : World} {fault : ProviderError} {after : World}
      (madeFirst : (ruleSet.variablesSource.construct args).perform before = (.ok vars, made))
      (fails : (ruleSet.actionsSource.construct args).perform made = (.error fault, after)) :
      Stops ruleSet args before
        (.located (.providerConstruction ruleSet.actionsProvider fault.message)
          { ruleSet := some ruleSet.id }) after
  /-- In the block that is reached the conditions up to the failing one are evaluated, and no action
  is run. -/
  | condition {passage : Passage World} {block : CompiledBlock} {left : List CompiledBlock}
      {earlier later : List Call} {set : CompiledConditionSet} {condition : CompiledCondition}
      {current reached after : World} {error : RuleError}
      (reaches : passage.Reaches ruleSet args before (block :: left) current)
      (goesOn : ruleSet.stopOnFirstTrigger = true → ∀ entry ∈ passage.finished, entry.2 = false)
      (cut : block.conditionCalls = earlier ++ .evaluate block set condition :: later)
      (inside : set ∈ block.sets ∧ condition ∈ set.conditions)
      (went : Effect.perform (forM earlier (Call.perform ruleSet.id passage.vars passage.actions))
        current = (.ok (), reached))
      (fails : ((Call.evaluate block set condition).perform ruleSet.id passage.vars
        passage.actions).perform reached = (.error error, after))
      (performs : Effect.perform
        (forM (callsFor passage.finished ++ (earlier ++ [.evaluate block set condition]))
          (Call.perform ruleSet.id passage.vars passage.actions)) passage.ready =
            (.error error, after))
      (place : error.location? = some {
        ruleSet := some ruleSet.id
        block := some block.id
        conditionSet := some set.id
        condition := some condition.id }) :
      Stops ruleSet args before error after
  /-- The block that is reached holds, and its actions up to the failing one are run. -/
  | action {passage : Passage World} {block : CompiledBlock} {left : List CompiledBlock}
      {earlier later : List CompiledAction} {action : CompiledAction}
      {current decided reached after : World} {error : RuleError}
      (reaches : passage.Reaches ruleSet args before (block :: left) current)
      (goesOn : ruleSet.stopOnFirstTrigger = true → ∀ entry ∈ passage.finished, entry.2 = false)
      (holds : (block.allConditionsTrue passage.vars (block.place ruleSet.id)).perform current =
        (.ok true, decided))
      (cut : block.actions = earlier ++ action :: later)
      (went : Effect.perform (forM (earlier.map (Call.run block))
        (Call.perform ruleSet.id passage.vars passage.actions)) decided = (.ok (), reached))
      (fails : ((Call.run block action).perform ruleSet.id passage.vars passage.actions).perform
        reached = (.error error, after))
      (performs : Effect.perform
        (forM (callsFor passage.finished ++
            (block.conditionCalls ++ (earlier ++ [action]).map (Call.run block)))
          (Call.perform ruleSet.id passage.vars passage.actions)) passage.ready =
            (.error error, after))
      (place : error.location? = some {
        ruleSet := some ruleSet.id
        block := some block.id
        action := some action.id }) :
      Stops ruleSet args before error after

/-- A block that fails at its conditions fails at one of them. -/
theorem Stops.of_evaluation {passage : Passage World} {block : CompiledBlock}
    {left : List CompiledBlock} {current : World} {error : RuleError}
    (reaches : passage.Reaches ruleSet args before (block :: left) current)
    (goesOn : ruleSet.stopOnFirstTrigger = true → ∀ entry ∈ passage.finished, entry.2 = false)
    (failed : (block.allConditionsTrue passage.vars (block.place ruleSet.id)).perform current =
      (.error error, after)) :
    ruleSet.Stops args before error after := by
  have conditionsFailed : Effect.perform
      (forM block.conditionCalls (Call.perform ruleSet.id passage.vars passage.actions)) current =
        (.error error, after) := by
    rw [CompiledBlock.forM_conditionCalls]
    exact Effect.perform_silent_eq_error_iff.mpr failed
  obtain ⟨earlier, call, later, reached, cut, went, fails⟩ :=
    Effect.perform_forM_eq_error_iff.mp conditionsFailed
  have member : call ∈ block.conditionCalls := by
    rw [cut]
    exact List.mem_append_right _ List.mem_cons_self
  obtain ⟨⟨set, condition⟩, listed, rfl⟩ := List.mem_map.mp member
  have wentSoFar := Effect.perform_forM_append_eq_ok_iff.mpr
    ⟨current, reaches.finishes.performs, went⟩
  have performs := Effect.perform_forM_eq_error_iff.mpr ⟨_, _, [], reached, rfl, wentSoFar, fails⟩
  rw [List.append_assoc] at performs
  exact .condition reaches goesOn cut (CompiledBlock.mem_listing listed) went fails performs
    (Call.location_of_error fails)

/-- A block that holds and fails at its actions fails at one of them. -/
theorem Stops.of_actions {passage : Passage World} {block : CompiledBlock}
    {left : List CompiledBlock} {current decided : World} {error : RuleError}
    (reaches : passage.Reaches ruleSet args before (block :: left) current)
    (goesOn : ruleSet.stopOnFirstTrigger = true → ∀ entry ∈ passage.finished, entry.2 = false)
    (holds : (block.allConditionsTrue passage.vars (block.place ruleSet.id)).perform current =
      (.ok true, decided))
    (failed : Effect.perform
      (forM block.actionCalls (Call.perform ruleSet.id passage.vars passage.actions)) decided =
        (.error error, after)) :
    ruleSet.Stops args before error after := by
  rw [CompiledBlock.actionCalls, List.forM_map] at failed
  obtain ⟨earlier, action, later, reached, cut, went, fails⟩ :=
    Effect.perform_forM_eq_error_iff.mp failed
  rw [← List.forM_map] at went
  have wentInBlock := Effect.perform_forM_append_eq_ok_iff.mpr
    ⟨decided, CompiledBlock.perform_conditionCalls passage.actions holds, went⟩
  have wentSoFar := Effect.perform_forM_append_eq_ok_iff.mpr
    ⟨current, reaches.finishes.performs, wentInBlock⟩
  have performs := Effect.perform_forM_eq_error_iff.mpr ⟨_, _, [], reached, rfl, wentSoFar, fails⟩
  rw [List.append_assoc, List.append_assoc, ← List.map_singleton, ← List.map_append] at performs
  exact .action reaches goesOn holds cut went fails performs (Call.location_of_error fails)

/-- A trigger that fails stops at the step that failed, and its error names that step. -/
theorem trigger_stops {error : RuleError}
    (failed : (ruleSet.trigger args).perform before = (.error error, after)) :
    ruleSet.enabled = true ∧ ruleSet.Stops args before error after := by
  have enabled : ruleSet.enabled = true := by
    by_contra disabled
    rw [trigger_of_not_enabled (Bool.eq_false_iff.mpr disabled)] at failed
    exact nomatch failed
  refine ⟨enabled, ?_⟩
  unfold trigger at failed
  rw [if_pos enabled] at failed
  rcases Effect.perform_bind_eq_error_iff.mp failed with
    varsFailed | ⟨vars, made, varsMade, failed⟩
  · obtain ⟨fault, fails, rfl⟩ := Effect.perform_located_eq_error_iff.mp varsFailed
    exact .variables fails
  have varsMade := Effect.perform_located_eq_ok_iff.mp varsMade
  rcases Effect.perform_bind_eq_error_iff.mp failed with
    actionsFailed | ⟨actions, ready, actionsMade, failed⟩
  · obtain ⟨fault, fails, rfl⟩ := Effect.perform_located_eq_error_iff.mp actionsFailed
    exact .actions varsMade fails
  have actionsMade := Effect.perform_located_eq_ok_iff.mp actionsMade
  rcases Effect.perform_bind_eq_error_iff.mp failed with blocksFailed | ⟨_, _, _, impossible⟩
  · obtain ⟨finished, block, left, current, shape, finishes, goesOn, failed⟩ :=
      finishes_of_runBlocks_error blocksFailed
    have reaches : Passage.Reaches ⟨vars, actions, ready, finished⟩ ruleSet args before
        (block :: left) current := ⟨⟨made, varsMade, actionsMade⟩, finishes, shape⟩
    rcases CompiledBlock.run_eq_error_iff.mp failed with
      evaluationFailed | ⟨decided, holds, actionFailed⟩
    · exact .of_evaluation reaches goesOn evaluationFailed
    · exact .of_actions reaches goesOn holds actionFailed
  · exact nomatch impossible

theorem trigger_stops_recording :
    let error : RuleError := .located (.providerFailed "break" "broken") {
      ruleSet := some "recording"
      block := some "block"
      action := some "break" }
    let world := ["variables", "actions", "ready", "first", "break"]
    ((recording ["first", "break", "last"]).trigger {}).perform [] = (.error error, world) ∧
      (recording ["first", "break", "last"]).Stops {} [] error world :=
  ⟨rfl, (trigger_stops rfl).2⟩

end CompiledRuleSet

end Rulebook
