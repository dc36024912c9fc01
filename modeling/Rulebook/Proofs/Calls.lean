/-
This file takes what a trigger does in its blocks apart into calls: it evaluates a condition, or it
runs an action. In which order is fixed in advance, up to what the blocks turn out to be: for every
block first all its conditions and then, if the block held, its actions.

Blocks that are gone through to their ends made exactly these calls, and no call can be undone, so
the world at the end is the one that the calls lead to, taken in order from the world at the start,
whatever the instances do to it. A block that fails does so at one call, and the error names the
place of that call.
-/
import Mathlib.Algebra.GroupWithZero.Nat
import Rulebook.Proofs.Evaluation

namespace Rulebook

variable {World : Type}

/-! ### Calls -/

/-- What a trigger does in a block: it evaluates a condition of a set, or it runs an action. -/
inductive Call where
  | evaluate (block : CompiledBlock) (set : CompiledConditionSet) (condition : CompiledCondition)
  | run (block : CompiledBlock) (action : CompiledAction)

namespace Call

/-- Whether the call runs an action. -/
def isAction : Call → Bool
  | .evaluate .. => false
  | .run .. => true

/-- The place of a call in a rule set: for a condition its block and the set that holds it, for an
action its block only. -/
def location (ruleSetId : String) : Call → Location
  | .evaluate block set condition => {
      ruleSet := some ruleSetId
      block := some block.id
      conditionSet := some set.id
      condition := some condition.id }
  | .run block action => {
      ruleSet := some ruleSetId
      block := some block.id
      action := some action.id }

/-- Makes a call on the instances of a trigger. -/
def perform (ruleSetId : String) (vars : VariablesInstance World)
    (actions : ActionsInstance World) : Call → Effect World RuleError Unit
  | .evaluate block set condition =>
    (CompiledBlock.evaluateIn vars { ruleSet := some ruleSetId, block := some block.id }
      (set, condition)).silent
  | .run block action =>
    action.run vars actions (location ruleSetId (.run block action))

end Call

namespace CompiledBlock

/-- The calls for the conditions of a block, in order. -/
def conditionCalls (block : CompiledBlock) : List Call :=
  block.listing.map fun entry => .evaluate block entry.1 entry.2

/-- The calls for the actions of a block, in order. -/
def actionCalls (block : CompiledBlock) : List Call := block.actions.map (.run block)

/-- The calls for a block: all its conditions and then, if it holds, its actions. -/
def calls (block : CompiledBlock) (holds : Bool) : List Call :=
  block.conditionCalls ++ if holds then block.actionCalls else []

/-- The place of a block in a rule set. -/
def place (block : CompiledBlock) (ruleSetId : String) : Location :=
  { ruleSet := some ruleSetId, block := some block.id }

end CompiledBlock

/-! ### The places of errors -/

/-- A condition that fails names itself and the place it was given. -/
theorem CompiledCondition.location_of_error {condition : CompiledCondition}
    {vars : VariablesInstance World} {location : Location} {before after : World}
    {error : RuleError}
    (failed : (condition.evaluate vars location).perform before = (.error error, after)) :
    error.location? = some { location with condition := some condition.id } := by
  unfold evaluate at failed
  rcases Effect.perform_bind_eq_error_iff.mp failed with
    readFailed | ⟨left, reached, -, compareFailed⟩
  · obtain ⟨cause, -, rfl⟩ := Effect.perform_located_eq_error_iff.mp readFailed
    rfl
  · split at compareFailed
    · exact nomatch compareFailed
    · obtain rfl := Except.error.inj (Prod.mk.inj compareFailed).1
      rfl

/-- A call that fails names its own place. -/
theorem Call.location_of_error {call : Call} {ruleSetId : String} {vars : VariablesInstance World}
    {actions : ActionsInstance World} {before after : World} {error : RuleError}
    (failed : (call.perform ruleSetId vars actions).perform before = (.error error, after)) :
    error.location? = some (call.location ruleSetId) := by
  cases call with
  | evaluate block set condition =>
    exact CompiledCondition.location_of_error (Effect.perform_silent_eq_error_iff.mp failed)
  | run block action =>
    obtain ⟨cause, -, rfl⟩ := Effect.perform_located_eq_error_iff.mp failed
    rfl

/-! ### Through one block -/

namespace CompiledBlock

variable {block : CompiledBlock} {ruleSetId : String} {vars : VariablesInstance World}
  {actions : ActionsInstance World} {before after : World}

theorem forM_conditionCalls :
    (forM block.conditionCalls (Call.perform ruleSetId vars actions)) =
      (block.allConditionsTrue vars (block.place ruleSetId)).silent := by
  rw [silent_allConditionsTrue, conditionCalls, List.forM_map]
  rfl

/-- The conditions of a block that was evaluated were all evaluated. -/
theorem perform_conditionCalls {holds : Bool} (actions : ActionsInstance World)
    (evaluated : (block.allConditionsTrue vars (block.place ruleSetId)).perform before =
      (.ok holds, after)) :
    Effect.perform (forM block.conditionCalls (Call.perform ruleSetId vars actions)) before =
      (.ok (), after) := by
  rw [forM_conditionCalls]
  exact Effect.perform_silent_eq_ok_iff.mpr ⟨holds, evaluated⟩

theorem forM_actionCalls :
    (forM block.actionCalls (Call.perform ruleSetId vars actions)) =
      block.actions.forM fun action =>
        action.run vars actions { block.place ruleSetId with action := some action.id } := by
  rw [actionCalls, List.forM_map]
  rfl

/-- A block that is run to its end evaluates its conditions and then, if they hold, runs its
actions. -/
theorem run_eq_ok_iff {outcome : BlockOutcome} :
    (block.run vars actions (block.place ruleSetId)).perform before = (.ok outcome, after) ↔
      ∃ holds decided,
        (block.allConditionsTrue vars (block.place ruleSetId)).perform before =
          (.ok holds, decided) ∧
        Effect.perform (forM (if holds then block.actionCalls else [])
          (Call.perform ruleSetId vars actions)) decided = (.ok (), after) ∧
        outcome = ⟨block.id, holds, if holds then block.actions.length else 0⟩ := by
  unfold run
  rw [Effect.perform_bind_eq_ok_iff]
  refine exists_congr fun holds => exists_congr fun decided => and_congr_right fun _ => ?_
  cases holds with
  | false => simp [eq_comm, and_comm]
  | true =>
    simp only [if_true, forM_actionCalls]
    rw [Effect.perform_bind_eq_ok_iff]
    constructor
    · rintro ⟨⟨⟩, reached, went, ended⟩
      obtain ⟨done, rfl⟩ := Prod.mk.inj ended
      exact ⟨went, (Except.ok.inj done).symm⟩
    · rintro ⟨went, rfl⟩
      exact ⟨(), after, went, rfl⟩

/-- A block that fails does so at a condition, or holds and fails at an action. -/
theorem run_eq_error_iff {error : RuleError} :
    (block.run vars actions (block.place ruleSetId)).perform before = (.error error, after) ↔
      (block.allConditionsTrue vars (block.place ruleSetId)).perform before =
          (.error error, after) ∨
        ∃ decided,
          (block.allConditionsTrue vars (block.place ruleSetId)).perform before =
            (.ok true, decided) ∧
          Effect.perform (forM block.actionCalls (Call.perform ruleSetId vars actions)) decided =
            (.error error, after) := by
  unfold run
  rw [Effect.perform_bind_eq_error_iff]
  refine or_congr_right ?_
  rw [forM_actionCalls]
  constructor
  · rintro ⟨holds, decided, evaluated, failed⟩
    cases holds with
    | false => exact nomatch failed
    | true =>
      rcases Effect.perform_bind_eq_error_iff.mp failed with actionFailed | ⟨_, _, _, impossible⟩
      · exact ⟨decided, evaluated, actionFailed⟩
      · exact nomatch impossible
  · rintro ⟨decided, evaluated, failed⟩
    exact ⟨true, decided, evaluated, Effect.perform_bind_of_error failed⟩

end CompiledBlock

/-! ### Through several blocks -/

/-- Blocks are gone through one after another, each to its end, from one world to another. For every
block first all its conditions are evaluated; they tell whether it holds; and if it does its actions
are run. -/
inductive Finishes (ruleSetId : String) (vars : VariablesInstance World)
    (actions : ActionsInstance World) : List (CompiledBlock × Bool) → World → World → Prop where
  | none {world : World} : Finishes ruleSetId vars actions [] world world
  | block {block : CompiledBlock} {holds : Bool} {rest : List (CompiledBlock × Bool)}
      {before decided acted after : World}
      (conditions : Effect.perform
        (forM block.conditionCalls (Call.perform ruleSetId vars actions)) before =
          (.ok (), decided))
      (decision : (block.allConditionsTrue vars (block.place ruleSetId)).perform before =
        (.ok holds, decided))
      (acts : Effect.perform (forM (if holds then block.actionCalls else [])
        (Call.perform ruleSetId vars actions)) decided = (.ok (), acted))
      (others : Finishes ruleSetId vars actions rest acted after) :
      Finishes ruleSetId vars actions ((block, holds) :: rest) before after

/-- The calls for blocks that held or did not. -/
def callsFor (finished : List (CompiledBlock × Bool)) : List Call :=
  finished.flatMap fun entry => entry.1.calls entry.2

/-- What the outcome of a trigger tells of a block. -/
def BlockOutcome.ofEntry (entry : CompiledBlock × Bool) : BlockOutcome :=
  ⟨entry.1.id, entry.2, if entry.2 then entry.1.actions.length else 0⟩

/-- The calls for the blocks lead from one world to the other. -/
theorem Finishes.performs {ruleSetId : String} {vars : VariablesInstance World}
    {actions : ActionsInstance World} {finished : List (CompiledBlock × Bool)}
    {before after : World} (finishes : Finishes ruleSetId vars actions finished before after) :
    Effect.perform (forM (callsFor finished) (Call.perform ruleSetId vars actions)) before =
      (.ok (), after) := by
  induction finishes with
  | none => rfl
  | block conditions _ acts _ inductionHypothesis =>
    rw [callsFor, List.flatMap_cons]
    refine Effect.perform_forM_append_eq_ok_iff.mpr ⟨_, ?_, inductionHypothesis⟩
    exact Effect.perform_forM_append_eq_ok_iff.mpr ⟨_, conditions, acts⟩

/-- As many actions are reported as calls for actions were made. -/
theorem sum_actionsRun (finished : List (CompiledBlock × Bool)) :
    ((finished.map BlockOutcome.ofEntry).map (·.actionsRun)).sum =
      (callsFor finished).countP Call.isAction := by
  induction finished with
  | nil => rfl
  | cons entry rest inductionHypothesis =>
    obtain ⟨block, holds⟩ := entry
    have none? : block.conditionCalls.countP Call.isAction = 0 := by
      simp [CompiledBlock.conditionCalls, List.countP_eq_zero, Call.isAction]
    have all : block.actionCalls.countP Call.isAction = block.actions.length := by
      rw [CompiledBlock.actionCalls, List.countP_map]
      exact List.countP_eq_length.mpr fun _ _ => rfl
    rw [callsFor, List.flatMap_cons, List.countP_append, ← callsFor, ← inductionHypothesis,
      List.map_cons, List.map_cons, List.sum_cons, CompiledBlock.calls, List.countP_append, none?]
    cases holds with
    | false => simp [BlockOutcome.ofEntry]
    | true => simp [BlockOutcome.ofEntry, all]

/-- Where a run over blocks ends: after the last one, or after the first one that held if the rule
set stops there. -/
structure EndsAt (stop : Bool) (finished : List (CompiledBlock × Bool))
    (left : List CompiledBlock) (stopped : Bool) : Prop where
  all : stop = false ∨ (∀ entry ∈ finished, entry.2 = false) → left = []
  first : stop = true → (∃ entry ∈ finished, entry.2 = true) →
    ∃ earlier block, finished = earlier ++ [(block, true)] ∧ ∀ entry ∈ earlier, entry.2 = false
  flag : stopped = true ↔ stop = true ∧ ∃ entry ∈ finished, entry.2 = true

theorem EndsAt.cons {stop stopped holds : Bool} {finished : List (CompiledBlock × Bool)}
    {left : List CompiledBlock} (ends : EndsAt stop finished left stopped) (block : CompiledBlock)
    (goesOn : (holds && stop) = false) : EndsAt stop ((block, holds) :: finished) left stopped where
  all few := ends.all (few.imp_right fun none? entry member =>
    none? entry (List.mem_cons_of_mem _ member))
  first stops := by
    obtain rfl : holds = false := by simpa [stops] using goesOn
    rintro ⟨entry, member, held⟩
    rcases List.mem_cons.mp member with rfl | later
    · exact nomatch held
    · obtain ⟨earlier, last, shape, none?⟩ := ends.first stops ⟨entry, later, held⟩
      refine ⟨(block, false) :: earlier, last, by rw [shape]; rfl, fun other inside => ?_⟩
      rcases List.mem_cons.mp inside with rfl | deeper
      · rfl
      · exact none? other deeper
  flag := by
    rw [ends.flag]
    refine and_congr_right fun stops => ?_
    obtain rfl : holds = false := by simpa [stops] using goesOn
    simp

/-- A run over blocks that ends well went through blocks up to its end. -/
theorem finishes_of_runBlocks {stop stopped : Bool} {ruleSetId : String}
    {vars : VariablesInstance World} {actions : ActionsInstance World}
    {blocks : List CompiledBlock} {outcomes : List BlockOutcome} {before after : World}
    (ended : (runBlocks stop vars actions { ruleSet := some ruleSetId } blocks).perform before =
      (.ok (outcomes, stopped), after)) :
    ∃ finished left, blocks = finished.map (·.1) ++ left ∧
      Finishes ruleSetId vars actions finished before after ∧
      outcomes = finished.map BlockOutcome.ofEntry ∧ EndsAt stop finished left stopped := by
  induction blocks generalizing outcomes before with
  | nil =>
    obtain ⟨done, rfl⟩ := Prod.mk.inj ended
    obtain ⟨rfl, rfl⟩ := Prod.mk.inj (Except.ok.inj done)
    exact ⟨[], [], rfl, .none, rfl, fun _ => rfl, fun _ => nofun, by simp⟩
  | cons block rest inductionHypothesis =>
    unfold runBlocks at ended
    obtain ⟨outcome, acted, blockRan, ended⟩ := Effect.perform_bind_eq_ok_iff.mp ended
    obtain ⟨holds, decided, evaluated, acts, rfl⟩ := CompiledBlock.run_eq_ok_iff.mp blockRan
    have conditions := CompiledBlock.perform_conditionCalls actions evaluated
    by_cases here : (holds && stop) = true
    · obtain ⟨rfl, rfl⟩ := Bool.and_eq_true_iff.mp here
      obtain ⟨done, rfl⟩ := Prod.mk.inj ended
      obtain ⟨rfl, rfl⟩ := Prod.mk.inj (Except.ok.inj done)
      refine ⟨[(block, true)], rest, rfl, .block conditions evaluated acts .none, rfl, ?_, ?_, ?_⟩
      · simp
      · exact fun _ _ => ⟨[], block, rfl, nofun⟩
      · simp
    · rw [if_neg here] at ended
      obtain ⟨⟨others, _⟩, reached, restRan, last⟩ := Effect.perform_bind_eq_ok_iff.mp ended
      obtain ⟨done, rfl⟩ := Prod.mk.inj last
      obtain ⟨rfl, rfl⟩ := Prod.mk.inj (Except.ok.inj done)
      obtain ⟨finished, left, rfl, finishes, rfl, ends⟩ := inductionHypothesis restRan
      exact ⟨(block, holds) :: finished, left, rfl, .block conditions evaluated acts finishes, rfl,
        ends.cons block (Bool.eq_false_iff.mpr here)⟩

/-- A run over blocks that fails went through some blocks to their ends and failed in the next. -/
theorem finishes_of_runBlocks_error {stop : Bool} {ruleSetId : String}
    {vars : VariablesInstance World} {actions : ActionsInstance World}
    {blocks : List CompiledBlock} {error : RuleError} {before after : World}
    (ended : (runBlocks stop vars actions { ruleSet := some ruleSetId } blocks).perform before =
      (.error error, after)) :
    ∃ finished block left current, blocks = finished.map (·.1) ++ block :: left ∧
      Finishes ruleSetId vars actions finished before current ∧
      (stop = true → ∀ entry ∈ finished, entry.2 = false) ∧
      (block.run vars actions (block.place ruleSetId)).perform current = (.error error, after) := by
  induction blocks generalizing before with
  | nil => exact nomatch ended
  | cons block rest inductionHypothesis =>
    unfold runBlocks at ended
    rcases Effect.perform_bind_eq_error_iff.mp ended with failed | ⟨outcome, acted, blockRan, ended⟩
    · exact ⟨[], block, rest, before, rfl, .none, nofun, failed⟩
    · obtain ⟨holds, decided, evaluated, acts, rfl⟩ := CompiledBlock.run_eq_ok_iff.mp blockRan
      have conditions := CompiledBlock.perform_conditionCalls actions evaluated
      by_cases here : (holds && stop) = true
      · rw [if_pos here] at ended
        exact nomatch ended
      · rw [if_neg here] at ended
        rcases Effect.perform_bind_eq_error_iff.mp ended with restFailed | ⟨_, _, _, impossible⟩
        · obtain ⟨finished, failing, left, current, rfl, finishes, none?, failed⟩ :=
            inductionHypothesis restFailed
          refine ⟨(block, holds) :: finished, failing, left, current, rfl,
            .block conditions evaluated acts finishes, fun stops entry member => ?_, failed⟩
          rcases List.mem_cons.mp member with rfl | later
          · simpa [stops] using here
          · exact none? stops entry later
        · exact nomatch impossible

end Rulebook
