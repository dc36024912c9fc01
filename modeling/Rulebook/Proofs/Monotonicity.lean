/-
This file compares what a block decides for two instances of its variables. If no condition fails
under either, and each condition that holds under the first also holds under the second, then each
set that holds under the first holds under the second, and so does the block. Nothing in a block
turns results around: both ways of combining give true for more, never for less, and an empty set
gives the same in any case.

The two runs go through the same block, so they are compared step by step. From any two worlds the
steps end well with results that are related; this is kept by putting steps one after another and
by going through lists, and the induction follows the sets inside sets.
-/
import Rulebook.Proofs.Verdict

namespace Rulebook

/-! ### Two steps with related results -/

/-- From any two worlds both steps end well, and their results are related. -/
def Effect.EndsRelated {World Other Error Fault First Second : Type}
    (related : First → Second → Prop) (step : Effect World Error First)
    (other : Effect Other Fault Second) : Prop :=
  ∀ before otherBefore, ∃ result otherResult, (step.perform before).1 = .ok result ∧
    (other.perform otherBefore).1 = .ok otherResult ∧ related result otherResult

namespace Effect.EndsRelated

variable {World Other Error Fault Item First Second Third Fourth : Type}
  {related : First → Second → Prop} {relatedAfter : Third → Fourth → Prop}

theorem pure {result : First} {other : Second} (relation : related result other) :
    Effect.EndsRelated related (Pure.pure result : Effect World Error First)
      (Pure.pure other : Effect Other Fault Second) :=
  fun _ _ => ⟨result, other, rfl, rfl, relation⟩

theorem bind {step : Effect World Error First} {other : Effect Other Fault Second}
    {next : First → Effect World Error Third} {otherNext : Second → Effect Other Fault Fourth}
    (first : step.EndsRelated related other)
    (rest : ∀ result otherResult, related result otherResult →
      (next result).EndsRelated relatedAfter (otherNext otherResult)) :
    Effect.EndsRelated relatedAfter (step >>= next) (other >>= otherNext) := by
  intro before otherBefore
  obtain ⟨result, otherResult, ended, otherEnded, relation⟩ := first before otherBefore
  rw [Effect.perform_bind_of_ok (Prod.ext ended rfl),
    Effect.perform_bind_of_ok (Prod.ext otherEnded rfl)]
  exact rest result otherResult relation _ _

theorem mapM {items : List Item} {act : Item → Effect World Error First}
    {otherAct : Item → Effect Other Fault Second}
    (each : ∀ item ∈ items, (act item).EndsRelated related (otherAct item)) :
    Effect.EndsRelated (List.Forall₂ related) (items.mapM act) (items.mapM otherAct) := by
  induction items with
  | nil => exact pure .nil
  | cons item items inductionHypothesis =>
    rw [List.mapM_cons, List.mapM_cons]
    refine bind (each item List.mem_cons_self) fun _ _ relation => ?_
    refine bind (inductionHypothesis fun later member =>
      each later (List.mem_cons_of_mem item member)) fun _ _ relations => ?_
    exact pure (.cons relation relations)

end Effect.EndsRelated

/-! ### Sets that hold for more -/

/-- Where the first result is true, the second is. -/
def Grows (result other : Bool) : Prop := result = true → other = true

/-- Combining gives true for more, never for less. -/
theorem Combination.combine_grows (rule : Combination) {results others : List Bool}
    (grows : List.Forall₂ Grows results others) :
    Grows (rule.combine results) (rule.combine others) := by
  intro holds
  cases rule with
  | all =>
    refine List.all_eq_true.mpr fun other member => ?_
    obtain ⟨result, resultMember, grown⟩ := exists_mem_of_forall₂ grows.flip member
    exact grown (List.all_eq_true.mp holds result resultMember)
  | any =>
    obtain ⟨result, member, isTrue⟩ := List.any_eq_true.mp holds
    obtain ⟨other, otherMember, grown⟩ := exists_mem_of_forall₂ grows member
    exact List.any_eq_true.mpr ⟨other, otherMember, grown isTrue⟩

namespace CompiledBlock

variable {World Other : Type} {block : CompiledBlock} {vars : VariablesInstance World}
  {otherVars : VariablesInstance Other}

/-- The conditions of a block, told under two instances of its variables: both end well, and what
holds under the first holds under the second. -/
def ConditionsGrow (block : CompiledBlock) (vars : VariablesInstance World)
    (otherVars : VariablesInstance Other) : Prop :=
  ∀ set ∈ block.sets, ∀ condition ∈ set.conditions, ∀ place otherPlace,
    (condition.evaluate vars place).EndsRelated Grows (condition.evaluate otherVars otherPlace)

/-- What holds for conditions holds for the sets they are in, and for the sets around these. -/
theorem ConditionsGrow.evaluateWithin (grow : block.ConditionsGrow vars otherVars)
    {levels index : Nat}
    (fits : Nesting.fits (block.sets.map (·.children)) levels index = true)
    (place otherPlace : Location) :
    (block.evaluateWithin vars levels index fits place).EndsRelated Grows
      (block.evaluateWithin otherVars levels index fits otherPlace) := by
  induction levels generalizing index place otherPlace with
  | zero => exact absurd fits (by simp [Nesting.fits])
  | succ levels inductionHypothesis =>
    obtain ⟨bound, inside, unfolded⟩ := block.evaluateWithin_succ vars levels index fits place
    obtain ⟨_, _, otherUnfolded⟩ :=
      block.evaluateWithin_succ otherVars levels index fits otherPlace
    rw [unfolded, otherUnfolded]
    refine .bind (.mapM fun condition member => ?_)
      fun own otherOwn (ownGrows : List.Forall₂ Grows own otherOwn) =>
        .bind (.mapM fun child _ => ?_)
          fun nested otherNested (nestedGrows : List.Forall₂ Grows nested otherNested) => .pure ?_
    · exact grow _ (List.getElem_mem bound) condition member _ _
    · exact inductionHypothesis (inside child.1 child.2) _ _
    · exact Combination.combine_grows _ (List.rel_append ownGrows nestedGrows)

theorem ConditionsGrow.allConditionsTrue (grow : block.ConditionsGrow vars otherVars)
    (place otherPlace : Location) :
    (block.allConditionsTrue vars place).EndsRelated Grows
      (block.allConditionsTrue otherVars otherPlace) :=
  .bind (.mapM fun _ _ => grow.evaluateWithin _ _ _) fun _ _ grows =>
    .pure (Combination.all.combine_grows grows)

/-! ### Decisions of two runs -/

/-- Every condition of a block ends well, from one world and told at one place. -/
def NoneFails (block : CompiledBlock) (vars : VariablesInstance World) (place : Location)
    (before : World) : Prop :=
  ∀ set ∈ block.sets, ∀ condition ∈ set.conditions,
    ∃ holds, ((condition.evaluate vars place).perform before).1 = .ok holds

/-- Variables that answer alike every time let a condition end in every world as it did in one. -/
theorem evaluate_eq_ok_of_alike {answers : Answers} (alike : vars.AnswersBy answers)
    {condition : CompiledCondition} {place : Location} {before : World} {holds : Bool}
    (ended : ((condition.evaluate vars place).perform before).1 = .ok holds) :
    ∀ otherPlace otherBefore,
      ((condition.evaluate vars otherPlace).perform otherBefore).1 = .ok holds := by
  intro otherPlace otherBefore
  have decided := condition.decides alike place before
  have otherDecided := condition.decides alike otherPlace otherBefore
  rw [← decided, ended] at otherDecided
  cases otherEnded : ((condition.evaluate vars otherPlace).perform otherBefore).1 with
  | error error => rw [otherEnded] at otherDecided; exact nomatch otherDecided
  | ok other =>
    rw [otherEnded] at otherDecided
    exact congrArg Except.ok (Option.some.inj otherDecided)

theorem conditionsGrow_of_alike {answers otherAnswers : Answers} (alike : vars.AnswersBy answers)
    (otherAlike : otherVars.AnswersBy otherAnswers) {place otherPlace : Location} {before : World}
    {otherBefore : Other} (passes : block.NoneFails vars place before)
    (otherPasses : block.NoneFails otherVars otherPlace otherBefore)
    (more : ∀ set ∈ block.sets, ∀ condition ∈ set.conditions,
      ((condition.evaluate vars place).perform before).1 = .ok true →
        ((condition.evaluate otherVars otherPlace).perform otherBefore).1 = .ok true) :
    block.ConditionsGrow vars otherVars := by
  intro set setMember condition member anyPlace anyOtherPlace anyBefore anyOtherBefore
  obtain ⟨holds, ended⟩ := passes set setMember condition member
  obtain ⟨otherHolds, otherEnded⟩ := otherPasses set setMember condition member
  refine ⟨holds, otherHolds, evaluate_eq_ok_of_alike alike ended _ _,
    evaluate_eq_ok_of_alike otherAlike otherEnded _ _, ?_⟩
  rintro rfl
  exact Except.ok.inj (otherEnded.symm.trans (more set setMember condition member ended))

/-- A block that was run to its end was triggered as its conditions say. -/
theorem triggered_of_run {actions : ActionsInstance World} {place : Location} {before : World}
    {outcome : BlockOutcome} (ended : ((block.run vars actions place).perform before).1 =
      .ok outcome) :
    ((block.allConditionsTrue vars place).perform before).1 = .ok outcome.triggered := by
  obtain ⟨holds, decided, evaluated, rest⟩ :=
    Effect.perform_bind_eq_ok_iff.mp (Prod.ext ended rfl)
  rw [evaluated]
  cases holds with
  | false =>
    obtain rfl := Except.ok.inj (congrArg Prod.fst rest)
    rfl
  | true =>
    obtain ⟨_, _, _, done⟩ := Effect.perform_bind_eq_ok_iff.mp rest
    obtain rfl := Except.ok.inj (congrArg Prod.fst done)
    rfl

/-- Under variables that answer alike every time and let no condition fail, a block decides for
more where more of its conditions hold: so does each of its sets, at whatever position and depth,
and a block that is triggered under the first instance is triggered under the second. One condition
that turns from false to true is a case of this. -/
theorem decides_monotonically {answers otherAnswers : Answers} (alike : vars.AnswersBy answers)
    (otherAlike : otherVars.AnswersBy otherAnswers) {place otherPlace : Location} {before : World}
    {otherBefore : Other} (passes : block.NoneFails vars place before)
    (otherPasses : block.NoneFails otherVars otherPlace otherBefore)
    (more : ∀ set ∈ block.sets, ∀ condition ∈ set.conditions,
      ((condition.evaluate vars place).perform before).1 = .ok true →
        ((condition.evaluate otherVars otherPlace).perform otherBefore).1 = .ok true) :
    (∀ index (bound : index < block.sets.length) (setPlace otherSetPlace : Location),
      (block.evaluateSet index bound vars setPlace).EndsRelated Grows
        (block.evaluateSet index bound otherVars otherSetPlace)) ∧
    (∀ blockPlace otherBlockPlace,
      (block.allConditionsTrue vars blockPlace).EndsRelated Grows
        (block.allConditionsTrue otherVars otherBlockPlace)) ∧
    ∀ (actions : ActionsInstance World) (otherActions : ActionsInstance Other)
      (blockPlace otherBlockPlace : Location) (start : World) (otherStart : Other)
      (outcome otherOutcome : BlockOutcome),
      ((block.run vars actions blockPlace).perform start).1 = .ok outcome →
      ((block.run otherVars otherActions otherBlockPlace).perform otherStart).1 =
        .ok otherOutcome →
      Grows outcome.triggered otherOutcome.triggered := by
  have grow := conditionsGrow_of_alike alike otherAlike passes otherPasses more
  refine ⟨fun index bound setPlace otherSetPlace => grow.evaluateWithin _ setPlace otherSetPlace,
    grow.allConditionsTrue, ?_⟩
  intro actions otherActions blockPlace otherBlockPlace start otherStart outcome otherOutcome
    ended otherEnded
  obtain ⟨holds, otherHolds, decided, otherDecided, grows⟩ :=
    grow.allConditionsTrue blockPlace otherBlockPlace start otherStart
  rwa [← Except.ok.inj (decided.symm.trans (triggered_of_run ended)),
    ← Except.ok.inj (otherDecided.symm.trans (triggered_of_run otherEnded))]

/-- A block in which one condition is enough, or two others that are in a set of their own. -/
def oneOrTwo : CompiledBlock where
  id := "block"
  name := "block"
  roots := [0]
  sets := [
    { id := "outer"
      name := "outer"
      rule := .any
      conditions := [⟨"first", "one", [], ⟨"truth", fun left _ => .ok left.isTruthy⟩, .null⟩]
      children := [1] },
    { id := "inner"
      name := "inner"
      rule := .all
      conditions := [⟨"second", "two", [], ⟨"truth", fun left _ => .ok left.isTruthy⟩, .null⟩,
        ⟨"third", "three", [], ⟨"truth", fun left _ => .ok left.isTruthy⟩, .null⟩] }]
  actions := []
  roots_lt := by decide
  nests := by decide

/-- Variables that are true of some names. -/
def trueOf (names : List String) : VariablesInstance Unit :=
  ⟨fun property _ => pure (.bool (names.contains property))⟩

theorem decides_monotonically_oneOrTwo :
    (oneOrTwo.allConditionsTrue (trueOf ["two"]) {}).EndsRelated Grows
      (oneOrTwo.allConditionsTrue (trueOf ["two", "three"]) {}) := by
  have answered : ∀ names : List String, (trueOf names).AnswersBy fun property _ =>
      .ok (.bool (names.contains property)) := fun _ _ _ _ => rfl
  have asksForTruth : ∀ set ∈ oneOrTwo.sets, ∀ condition ∈ set.conditions,
      condition.operator.holds = fun left _ => .ok left.isTruthy := by simp [oneOrTwo]
  have ended : ∀ set ∈ oneOrTwo.sets, ∀ condition ∈ set.conditions, ∀ names : List String,
      ((condition.evaluate (trueOf names) {}).perform ()).1 =
        .ok (names.contains condition.property) := by
    intro set setMember condition member names
    unfold CompiledCondition.evaluate
    rw [asksForTruth set setMember condition member]
    rfl
  refine (decides_monotonically (answered _) (answered _)
    (fun set setMember condition member => ⟨_, ended set setMember condition member _⟩)
    (fun set setMember condition member => ⟨_, ended set setMember condition member _⟩)
    fun set setMember condition member holds => ?_).2.1 {} {}
  rw [ended set setMember condition member] at holds ⊢
  have isTwo : condition.property = "two" := by simpa using Except.ok.inj holds
  rw [isTwo]
  rfl

/-- The second set holds with both of its conditions, and with it the first. -/
example : [["two"], ["two", "three"]].map (fun names =>
    ((oneOrTwo.allConditionsTrue (trueOf names) {}).perform ()).1.toOption) =
      [some false, some true] := by
  decide

end CompiledBlock

end Rulebook
