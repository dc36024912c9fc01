/-
This file says what may go wrong when a rule set on sales transitions is triggered, and nothing else
does. If the event describes nothing, the variables cannot be made. Once they are made, reading a
property and running an action go well, so a failure is one of comparing: an operator on the order of
values, on the start or the end of texts, on parts or on patterns meets a value that it does not take.
The other operators take everything, and a rule set that uses only these always ends well on an event
that describes a transition.
-/
import Rulebook.Proofs.Passage
import Rulebook.Proofs.Transition

namespace Rulebook

/-! ### Operators that take everything -/

namespace Operator

/-- The identifiers of the default operators that take any two values. -/
def tolerantIds : List String := ["eq", "ne", "is", "isNot", "truth", "not"]

/-- The identifiers of the default operators on the order of values, on the start and the end of
texts, on parts, and on patterns. -/
def selectiveIds : List String :=
  ["lt", "le", "ge", "gt", "startsWith", "endsWith", "contains", "matches"]

variable {operator : Operator}

/-- A default operator that does not take two values is one of the selective ones. -/
theorem selective_of_refused (isDefault : operator ∈ defaults) {left right : Value}
    {mismatch : Mismatch} (refused : operator.holds left right = .error mismatch) :
    operator.id ∈ selectiveIds := by
  simp only [defaults, List.mem_cons, List.not_mem_nil, or_false] at isDefault
  rcases isDefault with rfl | rfl | rfl | rfl | rfl | rfl | rfl | rfl | rfl | rfl | rfl | rfl |
    rfl | rfl
  all_goals first
    | cases refused
    | simp [selectiveIds, ordering, onTexts, matchesId]

theorem not_tolerant_of_selective {id : String} (selective : id ∈ selectiveIds) :
    id ∉ tolerantIds := by
  revert id
  decide

end Operator

namespace Sales

variable {args : EventArgs}

/-! ### Conditions that cannot be compared -/

/-- The operator that the condition names is a selective one and does not take what the condition
reads of the event together with its text. -/
structure Refuses (args : EventArgs) (condition : Condition) (operator : Operator)
    (mismatch : Mismatch) : Prop where
  found : OperatorRegistry.defaults.find? condition.comparisonOperator = some operator
  selective : operator.id ∈ Operator.selectiveIds
  refused : ∃ path, path? condition.propertyMethod = some path ∧
    operator.holds (args.value ("instance." ++ path)) condition.literal = .error mismatch

namespace Loaded

/-- The error tells of a condition of the rule set that cannot be compared, with its place. -/
def Mismatched (loaded : Loaded) (args : EventArgs) (error : RuleError) : Prop :=
  ∃ block ∈ loaded.blocks, ∃ set ∈ block.conditionSets, ∃ condition ∈ set.conditions,
    ∃ operator mismatch, Refuses args condition operator mismatch ∧
      error = .located (.typeMismatch operator.id mismatch.expected mismatch.actual)
        { loaded.location with
          block := some block.id
          conditionSet := some set.id
          condition := some condition.id }

/-- All conditions that count name operators that take everything. -/
def Tolerant (loaded : Loaded) : Prop :=
  ∀ block ∈ loaded.blocks, ∀ set ∈ block.conditionSets, ∀ condition ∈ set.conditions,
    ∃ operator, OperatorRegistry.defaults.find? condition.comparisonOperator = some operator ∧
      operator.id ∈ Operator.tolerantIds

variable {loaded : Loaded}

/-- What is bound to a condition does not take what the operator that it names does not take. -/
theorem refuses_of_bind {condition : Condition} {operator bound : Operator} {place : Location}
    (found : OperatorRegistry.defaults.find? condition.comparisonOperator = some operator)
    (boundTo : operator.bind condition.literal place = .ok bound) {path : String}
    (atPath : path? condition.propertyMethod = some path) {mismatch : Mismatch}
    (refused : bound.holds (args.value ("instance." ++ path)) condition.literal =
      .error mismatch) :
    bound.id = operator.id ∧ Refuses args condition operator mismatch := by
  obtain ⟨sameId, sameHolds⟩ := Operator.holds_of_bind
    (OperatorRegistry.ReadsPatterns.defaults _ _ found) boundTo
  rw [sameHolds] at refused
  have isDefault : operator ∈ Operator.defaults :=
    OperatorRegistry.FindsOnly.defaults (fun _ member => member) _ _ found
  exact ⟨sameId, found, Operator.selective_of_refused isDefault refused, path, atPath, refused⟩

/-- A block fails only at a condition that cannot be compared. -/
theorem block_failsOnly {transition : EventArgs} (described : transition? args = some transition)
    {block : RuleBlock} (inBlocks : block ∈ loaded.blocks) {compiled : CompiledBlock}
    (accepted : block.compile .defaults catalog
      { loaded.location with block := some block.id } = .ok compiled) :
    (compiled.run (variablesTable.instanceOf transition) (actionsTable.instanceOf ())
      { loaded.location with block := some compiled.id }).FailsOnly (loaded.Mismatched args) := by
  refine CompiledBlock.run_failsOnly (fun set inBlock condition inSet => ?_)
    fun action inside => .located fun outbox cause after failed => ?_
  · obtain ⟨setOrigin, inSource, origin, inOrigin, sameSet, place, conditionAccepted⟩ :=
      CompiledBlock.exists_origin accepted inBlock inSet
    obtain ⟨property, operator, bound, offered, found, -, boundTo, rfl⟩ :=
      Condition.compile_eq_ok_iff.mp conditionAccepted
    rw [Catalog.find?_of] at offered
    obtain ⟨path, atPath⟩ := exists_path offered
    have reads (outbox : Outbox) :=
      get_performs_of_path described atPath origin.propertyKwargs outbox
    refine CompiledCondition.evaluate_failsOnly_of_given (fun outbox cause after failed => ?_)
      fun left given mismatch refused => ?_
    · exact nomatch (reads outbox).symm.trans failed
    · obtain ⟨outbox, after, given⟩ := given
      obtain ⟨same, -⟩ := Prod.mk.inj ((reads outbox).symm.trans given)
      obtain rfl := Except.ok.inj same
      obtain ⟨sameOperator, refuses⟩ := refuses_of_bind found boundTo atPath refused
      refine ⟨block, inBlocks, setOrigin, inSource, origin, inOrigin, operator, mismatch, refuses,
        ?_⟩
      rw [RuleBlock.id_of_compile accepted, sameSet, RuleFault.ofMismatch, sameOperator]
  · obtain ⟨origin, -, place, actionAccepted⟩ := CompiledBlock.exists_action accepted inside
    obtain ⟨offered, rfl⟩ := Action.compile_eq_ok_iff.mp actionAccepted
    exact nomatch (run_performs described offered outbox).symm.trans failed

/-- If the variables can be made or are not needed, a trigger fails only at a condition that cannot
be compared. -/
theorem trigger_failsOnly
    (ready : ¬ (loaded.source.enabled = true ∧ ¬ ∃ fields, Describes args fields)) :
    (loaded.compiled.trigger args).FailsOnly (loaded.Mismatched args) := by
  by_cases enabled : loaded.source.enabled = true
  · obtain ⟨fields, describes⟩ := not_not.mp fun nothing => ready ⟨enabled, nothing⟩
    have described := transition?_eq_some_iff.mpr ⟨fields, describes, rfl⟩
    rw [loaded.trigger_of_described enabled described]
    refine .bind (runBlocks_failsOnly _ fun compiled member => ?_) fun _ _ => .pure _
    obtain ⟨block, inBlocks, accepted⟩ :=
      exists_mem_of_forall₂ loaded.assembled.2.2.flip member
    exact block_failsOnly described inBlocks accepted
  · rw [CompiledRuleSet.trigger_of_not_enabled
      (loaded.enabled_eq.trans (Bool.eq_false_iff.mpr enabled))]
    exact .pure _

/-- A trigger ends in the error of the variables that cannot be made exactly if the rule set is
enabled and the event describes nothing. Otherwise it ends well or tells of a condition that cannot
be compared. No method fails or is unknown, and if all conditions name operators that take
everything, the trigger ends well on every event that describes a transition. -/
theorem trigger_errors (loaded : Loaded) (args : EventArgs) (before : Outbox) :
    let ended := ((loaded.compiled.trigger args).perform before).1
    ((∃ provider reason location,
        ended = .error (.located (.providerConstruction provider reason) location)) ↔
      loaded.source.enabled = true ∧ ¬ ∃ fields, Describes args fields) ∧
    (¬ (loaded.source.enabled = true ∧ ¬ ∃ fields, Describes args fields) →
      (∃ outcome, ended = .ok outcome) ∨
        ∃ error, ended = .error error ∧ loaded.Mismatched args error) ∧
    (∀ error, ended = .error error →
      error.kind ∉ ["provider_failed", "unknown_property", "unknown_action"]) ∧
    (loaded.Tolerant → (∃ fields, Describes args fields) → ∃ outcome, ended = .ok outcome) := by
  intro ended
  by_cases nothing : loaded.source.enabled = true ∧ ¬ ∃ fields, Describes args fields
  · have failed : ended = .error loaded.nothingDescribed := by
      show ((loaded.compiled.trigger args).perform before).1 = _
      rw [loaded.trigger_of_undescribed nothing.1 (transition?_eq_none_iff.mpr nothing.2)]
      rfl
    refine ⟨iff_of_true ⟨_, _, _, failed⟩ nothing, fun ready => absurd nothing ready, ?_,
      fun _ described => absurd described nothing.2⟩
    intro error ends
    obtain rfl := Except.error.inj (failed.symm.trans ends)
    have kind : loaded.nothingDescribed.kind = "provider_construction" := rfl
    rw [kind]
    decide
  · have only : ∀ error, ended = .error error → loaded.Mismatched args error :=
      fun error failed => trigger_failsOnly nothing before error _ (Prod.ext failed rfl)
    refine ⟨iff_of_false ?_ nothing, fun _ => ?_, fun error failed => ?_, fun tolerant _ => ?_⟩
    · rintro ⟨provider, reason, location, failed⟩
      obtain ⟨_, _, _, _, _, _, _, _, _, same⟩ := only _ failed
      exact nomatch same
    · cases ends : ended with
      | ok outcome => exact .inl ⟨outcome, rfl⟩
      | error error => exact .inr ⟨error, rfl, only error ends⟩
    · obtain ⟨_, _, _, _, _, _, _, _, _, rfl⟩ := only error failed
      simp [RuleError.kind, RuleFault.kind]
    · cases ends : ended with
      | ok outcome => exact ⟨outcome, rfl⟩
      | error error =>
        obtain ⟨block, inBlocks, set, inBlock, condition, inSet, operator, mismatch, refuses, -⟩ :=
          only error ends
        obtain ⟨other, found, takesAll⟩ := tolerant block inBlocks set inBlock condition inSet
        obtain rfl := Option.some.inj (refuses.found.symm.trans found)
        exact absurd takesAll (Operator.not_tolerant_of_selective refuses.selective)

end Loaded

end Sales

/-- A rule set whose conditions name operators that take everything, one of them by a dotted
identifier. -/
def RuleSet.spotMoves : RuleSet :=
  { RuleSet.spotChanges with
    ruleBlocks := [{
      id := "block"
      name := "block"
      enabled := true
      conditionSets := [{
        id := "set"
        name := "set"
        conditions := [
          ⟨"spot", "get_spot_id", [], "ne", some "7"⟩,
          ⟨"target", "get_target_name", [], "operator.truth", none⟩] }]
      actions := [⟨"log", "create_system_change_log", []⟩] }] }

theorem Sales.Loaded.trigger_errors_spotMoves :
    ∃ loaded : Loaded, loaded.source = .spotMoves ∧ ∀ before : Outbox,
      (∃ outcome, ((loaded.compiled.trigger ⟨.map [("instance", .map [])]⟩).perform before).1 =
        .ok outcome) ∧
      ∃ provider reason location,
        ((loaded.compiled.trigger ⟨.map [("instance", .null)]⟩).perform before).1 =
          .error (.located (.providerConstruction provider reason) location) := by
  obtain ⟨loaded, isSource⟩ := Loaded.exists_of_isOk
    (show ((compilerAt 0).compile .spotMoves).1.isOk = true by decide +kernel)
  have tolerant : loaded.Tolerant := by
    have found (id canonical : String) (named : (OperatorRegistry.defaults.find? id).map (·.id) =
        some canonical) (takesAll : canonical ∈ Operator.tolerantIds) :
        ∃ operator, OperatorRegistry.defaults.find? id = some operator ∧
          operator.id ∈ Operator.tolerantIds := by
      obtain ⟨operator, isFound, rfl⟩ := Option.map_eq_some_iff.mp named
      exact ⟨operator, isFound, takesAll⟩
    have blocks : loaded.blocks = RuleSet.spotMoves.ruleBlocks := by
      unfold Loaded.blocks
      rw [isSource]
      rfl
    rw [Loaded.Tolerant, blocks]
    simp only [RuleSet.spotMoves, forall_eq, List.mem_cons, List.not_mem_nil, or_false,
      forall_eq_or_imp]
    exact ⟨found _ "ne" (by decide +kernel) (by decide),
      found _ "truth" (by decide +kernel) (by decide)⟩
  refine ⟨loaded, isSource, fun before => ⟨?_, ?_⟩⟩
  · exact (loaded.trigger_errors ⟨.map [("instance", .map [])]⟩ before).2.2.2 tolerant
      ⟨[], _, rfl, rfl⟩
  · refine (loaded.trigger_errors ⟨.map [("instance", .null)]⟩ before).1.mpr ⟨?_, ?_⟩
    · rw [isSource]
      rfl
    · rintro ⟨fields, outer, same, described⟩
      obtain rfl := Json.map.inj same
      exact nomatch described

end Rulebook
