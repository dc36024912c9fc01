/-
This file says what a dispatch does. A table that is built from a list of rule sets lists under
every signal the enabled ones that listen to it, in the order of the list and as often as they occur
there, so nothing is lost by looking them up.

A dispatch triggers rule sets one after another, each in the world that the one before it left,
whether that one failed or not. What comes of it is told as a relation between the rule sets, the
world before, the results and the world after. The worlds in between are hidden in it; cut anywhere
else than at its ends, a dispatch is two dispatches in a row.
-/
import Mathlib.Algebra.GroupWithZero.Nat
import Mathlib.Data.List.Induction
import Rulebook.Dispatch
import Rulebook.Proofs.Fields

namespace Rulebook

/-! ### Adding up entries -/

namespace Fields

variable {α : Type} {fields : Fields α}

/-- A name before all others is not among them. -/
theorem find?_eq_none_of_lt {name : String} (before : ∀ entry ∈ fields, name < entry.1) :
    fields.find? name = none := by
  refine Option.eq_none_iff_forall_ne_some.mpr fun entry found => ?_
  obtain ⟨pair, member, same⟩ := List.mem_map.mp (exists_find?_iff.mp ⟨entry, found⟩)
  exact String.lt_irrefl name (same ▸ before pair member)

/-- An entry that is inserted counts instead of the one that was there. -/
theorem sum_insert (sorted : fields.Sorted) (weight : α → Nat) (name : String) (entry : α) :
    ((fields.insert name entry).map fun pair => weight pair.2).sum +
        ((fields.find? name).map weight).getD 0 =
      (fields.map fun pair => weight pair.2).sum + weight entry := by
  induction fields with
  | nil => simp [insert, find?]
  | cons head rest inductionHypothesis =>
    obtain ⟨first, value⟩ := head
    obtain ⟨below, restSorted⟩ := List.pairwise_cons.mp sorted
    unfold insert
    split
    · next before =>
      have absent : find? ((first, value) :: rest) name = none := by
        refine find?_eq_none_of_lt fun pair member => ?_
        rcases List.mem_cons.mp member with rfl | inRest
        · exact before
        · exact String.lt_trans before (below pair inRest)
      rw [absent]
      simp
      omega
    · split
      · next same =>
        subst same
        rw [find?_cons_self]
        simp
        omega
      · next different =>
        have inside := inductionHypothesis restSorted
        rw [find?_cons_of_ne rest value different]
        simp only [List.map_cons, List.sum_cons]
        omega

end Fields

variable {World : Type}

/-! ### Tables -/

namespace DispatchTable

/-- A rule set is listed after the others under its signal, if it is enabled. -/
theorem ruleSetsFor_add (table : DispatchTable World) (ruleSet : CompiledRuleSet World)
    (signal : String) :
    (table.add ruleSet).ruleSetsFor signal =
      table.ruleSetsFor signal ++
        [ruleSet].filter fun ruleSet => ruleSet.enabled && ruleSet.signal == signal := by
  unfold add
  cases enabled : ruleSet.enabled with
  | false => simp [enabled]
  | true =>
    rw [if_pos rfl]
    unfold ruleSetsFor
    simp only [Fields.find?_insert]
    by_cases same : signal = ruleSet.signal
    · subst same
      simp [enabled]
    · simp [same, Ne.symm same, enabled]

theorem build_concat (earlier : List (CompiledRuleSet World)) (ruleSet : CompiledRuleSet World) :
    build (earlier ++ [ruleSet]) = (build earlier).add ruleSet := by
  unfold build
  rw [List.foldl_append, List.foldl_cons, List.foldl_nil]

/-- A table lists the enabled rule sets that listen to a signal, in order. -/
theorem ruleSetsFor_build (ruleSets : List (CompiledRuleSet World)) (signal : String) :
    (build ruleSets).ruleSetsFor signal =
      ruleSets.filter fun ruleSet => ruleSet.enabled && ruleSet.signal == signal := by
  induction ruleSets using List.reverseRecOn with
  | nil => rfl
  | append_singleton earlier ruleSet inductionHypothesis =>
    rw [build_concat, ruleSetsFor_add, inductionHypothesis, List.filter_append]

theorem sorted_add {table : DispatchTable World} (sorted : table.bySignal.Sorted)
    (ruleSet : CompiledRuleSet World) : (table.add ruleSet).bySignal.Sorted := by
  unfold add
  split
  · exact sorted.insert _ _
  · exact sorted

theorem sorted_build (ruleSets : List (CompiledRuleSet World)) :
    (build ruleSets).bySignal.Sorted := by
  induction ruleSets using List.reverseRecOn with
  | nil => exact Fields.sorted_nil
  | append_singleton earlier ruleSet inductionHypothesis =>
    rw [build_concat]
    exact sorted_add inductionHypothesis ruleSet

theorem size_eq_sum (table : DispatchTable World) :
    table.size = (table.bySignal.map fun entry => entry.2.length).sum := by
  unfold size
  rw [List.sum_eq_foldr, List.foldr_map]

theorem size_add {table : DispatchTable World} (sorted : table.bySignal.Sorted)
    (ruleSet : CompiledRuleSet World) :
    (table.add ruleSet).size = table.size + [ruleSet].countP (·.enabled) := by
  unfold add
  cases enabled : ruleSet.enabled with
  | false => simp [enabled]
  | true =>
    have counted := Fields.sum_insert sorted List.length ruleSet.signal
      (table.ruleSetsFor ruleSet.signal ++ [ruleSet])
    have listed : ((table.bySignal.find? ruleSet.signal).map List.length).getD 0 =
        (table.ruleSetsFor ruleSet.signal).length := by
      unfold ruleSetsFor
      cases table.bySignal.find? ruleSet.signal <;> rfl
    rw [listed, List.length_append] at counted
    rw [if_pos rfl, size_eq_sum, size_eq_sum]
    simp only [List.countP_singleton, enabled, if_true, List.length_singleton] at counted ⊢
    omega

/-- As many rule sets are in the table as were enabled. -/
theorem size_build (ruleSets : List (CompiledRuleSet World)) :
    (build ruleSets).size = ruleSets.countP (·.enabled) := by
  induction ruleSets using List.reverseRecOn with
  | nil => rfl
  | append_singleton earlier ruleSet inductionHypothesis =>
    rw [build_concat, size_add (sorted_build earlier), inductionHypothesis, List.countP_append]

end DispatchTable

/-! ### Triggers one after another -/

/-- The rule set is enabled, listens to the signal of the event, and finds in the arguments all the
values that it insists on. -/
def CompiledRuleSet.Concerns (ruleSet : CompiledRuleSet World) (event : Event) : Prop :=
  ruleSet.enabled = true ∧ ruleSet.signal = event.signal ∧
    ∀ entry ∈ ruleSet.signalKwargs, (event.args.value entry.1).same entry.2 = true

instance (ruleSet : CompiledRuleSet World) (event : Event) : Decidable (ruleSet.Concerns event) :=
  inferInstanceAs (Decidable (_ ∧ _ ∧ _))

/-- A list of steps runs as its first step and then the others, in the world that this one left. -/
theorem run_mapM_cons {Item Result : Type} {step : Item → StateM World Result} {item : Item}
    {others : List Item} {before reached after : World} {result : Result} {results : List Result}
    (first : (step item).run before = (result, reached))
    (rest : (others.mapM step).run reached = (results, after)) :
    ((item :: others).mapM step).run before = (result :: results, after) := by
  rw [List.mapM_cons, StateT.run_bind, first]
  show StateT.run (do
    let results ← others.mapM step
    return result :: results) reached = _
  rw [StateT.run_bind, rest]
  rfl

/-- Rule sets are triggered one after another, each in the world that the one before it left. -/
inductive Triggers (args : EventArgs) :
    List (CompiledRuleSet World) → World → List DispatchResult → World → Prop where
  | nil (world : World) : Triggers args [] world [] world
  | cons {ruleSet : CompiledRuleSet World} {others : List (CompiledRuleSet World)}
      {before reached after : World} {result : Except RuleError TriggerOutcome}
      {results : List DispatchResult}
      (performed : (ruleSet.trigger args).perform before = (result, reached))
      (rest : Triggers args others reached results after) :
      Triggers args (ruleSet :: others) before (⟨ruleSet.id, result⟩ :: results) after

namespace Triggers

variable {args : EventArgs} {ruleSets first second : List (CompiledRuleSet World)}
  {before after : World} {results : List DispatchResult}

/-- Every rule set has its entry. -/
theorem map_ruleSetId (triggers : Triggers args ruleSets before results after) :
    results.map (·.ruleSetId) = ruleSets.map (·.id) := by
  induction triggers with
  | nil => rfl
  | cons performed rest inductionHypothesis => simp [inductionHypothesis]

theorem length_eq (triggers : Triggers args ruleSets before results after) :
    results.length = ruleSets.length := by
  have same := congrArg List.length triggers.map_ruleSetId
  simpa using same

/-- The triggers can be cut between any two rule sets. -/
theorem append_iff :
    Triggers args (first ++ second) before results after ↔
      ∃ firstResults reached secondResults, results = firstResults ++ secondResults ∧
        Triggers args first before firstResults reached ∧
        Triggers args second reached secondResults after := by
  induction first generalizing before results with
  | nil =>
    constructor
    · exact fun triggers => ⟨[], before, results, rfl, .nil before, triggers⟩
    · rintro ⟨_, _, _, rfl, ⟨⟩, triggers⟩
      exact triggers
  | cons ruleSet first inductionHypothesis =>
    constructor
    · rintro ⟨⟩
      next performed rest =>
      obtain ⟨firstResults, reached, secondResults, rfl, left, right⟩ :=
        inductionHypothesis.mp rest
      exact ⟨_ :: firstResults, reached, secondResults, rfl, .cons performed left, right⟩
    · rintro ⟨_, reached, secondResults, rfl, ⟨⟩, right⟩
      next performed left =>
      exact .cons performed (inductionHypothesis.mpr ⟨_, reached, secondResults, rfl, left, right⟩)

theorem exists_of_ruleSets (args : EventArgs) (ruleSets : List (CompiledRuleSet World))
    (before : World) : ∃ results after, Triggers args ruleSets before results after := by
  induction ruleSets generalizing before with
  | nil => exact ⟨[], before, .nil before⟩
  | cons ruleSet others inductionHypothesis =>
    obtain ⟨results, after, rest⟩ :=
      inductionHypothesis ((ruleSet.trigger args).perform before).2
    exact ⟨_, after, .cons rfl rest⟩

/-- Triggering rule sets and keeping how that ended runs as the triggers do. -/
theorem run_mapM_report (triggers : Triggers args ruleSets before results after) :
    (ruleSets.mapM (CompiledRuleSet.report · args)).run before = (results, after) := by
  induction triggers with
  | nil => rfl
  | @cons ruleSet others before reached after result results performed _ inductionHypothesis =>
    have reported : (ruleSet.report args).run before = (⟨ruleSet.id, result⟩, reached) := by
      show (DispatchResult.mk ruleSet.id ((ruleSet.trigger args).perform before).1,
        ((ruleSet.trigger args).perform before).2) = _
      rw [performed]
    exact run_mapM_cons reported inductionHypothesis

end Triggers

/-! ### Dispatches -/

namespace DispatchTable

/-- A dispatch triggers the rule sets that are listed and find what they insist on. -/
theorem dispatch_run_of_triggers {table : DispatchTable World} {event : Event}
    {before after : World} {results : List DispatchResult}
    (triggers : Triggers event.args
      ((table.ruleSetsFor event.signal).filter (·.accepts event.args)) before results after) :
    (table.dispatch event).run before = (⟨event.signal, results⟩, after) := by
  unfold dispatch
  rw [StateT.run_bind, triggers.run_mapM_report]
  rfl

/-- From the table of a list of rule sets, those that the event concerns are triggered. -/
theorem matching_build (ruleSets : List (CompiledRuleSet World)) (event : Event) :
    ((build ruleSets).ruleSetsFor event.signal).filter (·.accepts event.args) =
      ruleSets.filter (·.Concerns event) := by
  rw [ruleSetsFor_build, List.filter_filter]
  refine List.filter_congr fun ruleSet _ => ?_
  rw [Bool.eq_iff_iff]
  rw [decide_eq_true_iff]
  simp [CompiledRuleSet.Concerns, CompiledRuleSet.accepts, and_comm, and_assoc]

theorem dispatch_build_run_of_triggers {ruleSets : List (CompiledRuleSet World)} {event : Event}
    {before after : World} {results : List DispatchResult}
    (triggers : Triggers event.args (ruleSets.filter (·.Concerns event)) before results after) :
    ((build ruleSets).dispatch event).run before = (⟨event.signal, results⟩, after) := by
  rw [← matching_build] at triggers
  exact dispatch_run_of_triggers triggers

end DispatchTable

end Rulebook
