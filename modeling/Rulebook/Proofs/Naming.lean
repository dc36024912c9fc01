/-
This file says whose name the error of an unknown method tells. A provider that answers to its
contract calls a method unknown only if it was asked for it and does not offer it. An action has
variables in its hands, though, and may pass on what they told it.

The error goes to whoever asked. A condition asks for its property and for nothing else, so the
error of an unknown property tells the property of the condition at its place. An action is asked
for by its method, but the error that comes back may be the one that it passes on: the error of an
unknown action tells the method of the action at its place, or else a property that the variables
do not offer, as though there should have been an action of that name.

When a rule set is accepted its conditions and actions were found among what the providers offer,
and tables find them again when they are asked. What is left there is the second kind of error, in
which the method at the place is one that the table has.
-/
import Rulebook.Proofs.Tables

namespace Rulebook

variable {World : Type}

/-! ### Providers that answer to their contract -/

/-- From some world, the step ends in the error that the method of this name is unknown. -/
def Effect.Misses {Result : Type} (step : Effect World ProviderError Result) (name : String) :
    Prop :=
  ∃ before after, step.perform before = (.error (.unknownMethod name), after)

theorem Effect.eq_of_misses_throw {Result : Type} {asked name : String}
    (missed : (throw (.unknownMethod asked) : Effect World ProviderError Result).Misses name) :
    name = asked := by
  obtain ⟨before, after, failed⟩ := missed
  exact (ProviderError.unknownMethod.inj (Except.error.inj (Prod.mk.inj failed).1)).symm

/-- Some question to the variables ends in the error that the method of this name is unknown. -/
def VariablesInstance.Misses (vars : VariablesInstance World) (name : String) : Prop :=
  ∃ property kwargs, (vars.get property kwargs).Misses name

/-- Variables call a property unknown only if they were asked for it and do not offer it. -/
def VariablesInstance.Honest (vars : VariablesInstance World) (provider : VariablesProvider World) :
    Prop :=
  ∀ property kwargs name, (vars.get property kwargs).Misses name →
    name = property ∧ provider.property? property = none

/-- Actions call an action unknown only if they were asked for it and do not offer it, unless they
pass on what the variables told them. -/
def ActionsInstance.Honest (actions : ActionsInstance World) (provider : ActionsProvider World)
    (vars : VariablesInstance World) : Prop :=
  ∀ method kwargs name, (actions.run method vars kwargs).Misses name →
    (name = method ∧ method ∉ provider.actions) ∨ vars.Misses name

namespace CompiledRuleSet

/-- All instances that the providers of a rule set may give for an event answer to their
contract. -/
def Honest (ruleSet : CompiledRuleSet World) (args : EventArgs) : Prop :=
  ∀ vars, (ruleSet.variablesSource.construct args).MayGive vars →
    vars.Honest ruleSet.variablesSource ∧
      ∀ actions, (ruleSet.actionsSource.construct args).MayGive actions →
        actions.Honest ruleSet.actionsSource vars

/-! ### What stands at a place -/

/-- At this place there is a condition that reads the property. -/
def ReadsAt (ruleSet : CompiledRuleSet World) (property : String) (location : Location) : Prop :=
  ∃ block ∈ ruleSet.blocks, ∃ set ∈ block.sets, ∃ condition ∈ set.conditions,
    condition.property = property ∧
      location = { ruleSet := some ruleSet.id, block := some block.id, conditionSet := some set.id
                   condition := some condition.id }

/-- At this place there is an action that runs the method. -/
def RunsAt (ruleSet : CompiledRuleSet World) (method : String) (location : Location) : Prop :=
  ∃ block ∈ ruleSet.blocks, ∃ action ∈ block.actions,
    action.method = method ∧
      location = { ruleSet := some ruleSet.id, block := some block.id, action := some action.id }

instance (ruleSet : CompiledRuleSet World) (method : String) (location : Location) :
    Decidable (ruleSet.RunsAt method location) :=
  inferInstanceAs (Decidable (∃ block ∈ ruleSet.blocks, ∃ action ∈ block.actions,
    action.method = method ∧
      location = { ruleSet := some ruleSet.id, block := some block.id, action := some action.id }))

/-- The variables do not offer the property, and those made for the event say so. -/
def LacksProperty (ruleSet : CompiledRuleSet World) (args : EventArgs) (name : String) : Prop :=
  ruleSet.variablesSource.property? name = none ∧
    ∃ vars, (ruleSet.variablesSource.construct args).MayGive vars ∧ vars.Misses name

/-- What the name in an error about an unknown method is the name of. -/
structure TellsName (ruleSet : CompiledRuleSet World) (args : EventArgs) (error : RuleError) :
    Prop where
  property : ∀ name location, error = .located (.unknownProperty name) location →
    ruleSet.ReadsAt name location ∧ ruleSet.variablesSource.property? name = none
  action : ∀ name location, error = .located (.unknownAction name) location →
    (ruleSet.RunsAt name location ∧ name ∉ ruleSet.actionsSource.actions) ∨
      ∃ method, ruleSet.RunsAt method location ∧ ruleSet.LacksProperty args name

/-- The only error about an unknown method is that of an action which passes on that the variables
lack a property; its own method is offered. -/
structure TellsLackingOnly (ruleSet : CompiledRuleSet World) (args : EventArgs)
    (error : RuleError) : Prop where
  property : ∀ name location, error ≠ .located (.unknownProperty name) location
  action : ∀ name location, error = .located (.unknownAction name) location →
    ∃ method, ruleSet.RunsAt method location ∧ method ∈ ruleSet.actionsSource.actions ∧
      ruleSet.LacksProperty args name

/-! ### The name in an error of a trigger -/

variable {ruleSet : CompiledRuleSet World} {args : EventArgs}

theorem tellsName_ofProperty {property : String} {location : Location} {cause : ProviderError}
    (reads : ruleSet.ReadsAt property location)
    (missed : ∀ name, cause = .unknownMethod name →
      name = property ∧ ruleSet.variablesSource.property? property = none) :
    ruleSet.TellsName args (.located (.ofProperty property cause) location) := by
  cases cause with
  | unknownMethod asked =>
    obtain ⟨rfl, absent⟩ := missed asked rfl
    refine ⟨fun name place told => ?_, nofun⟩
    cases told
    exact ⟨reads, absent⟩
  | invalidEvent reason => exact ⟨nofun, nofun⟩
  | failed reason => exact ⟨nofun, nofun⟩

theorem tellsName_ofAction {method : String} {location : Location} {cause : ProviderError}
    (runs : ruleSet.RunsAt method location)
    (missed : ∀ name, cause = .unknownMethod name →
      (name = method ∧ method ∉ ruleSet.actionsSource.actions) ∨
        ruleSet.LacksProperty args name) :
    ruleSet.TellsName args (.located (.ofAction method cause) location) := by
  cases cause with
  | unknownMethod asked =>
    refine ⟨nofun, fun name place told => ?_⟩
    cases told
    rcases missed asked rfl with ⟨rfl, absent⟩ | lacks
    · exact Or.inl ⟨runs, absent⟩
    · exact Or.inr ⟨method, runs, lacks⟩
  | invalidEvent reason => exact ⟨nofun, nofun⟩
  | failed reason => exact ⟨nofun, nofun⟩

/-- Variables that answer to their contract lack what they call unknown. -/
theorem lacksProperty_of_misses {vars : VariablesInstance World}
    (given : (ruleSet.variablesSource.construct args).MayGive vars)
    (honest : vars.Honest ruleSet.variablesSource) {name : String} (missed : vars.Misses name) :
    ruleSet.LacksProperty args name := by
  obtain ⟨property, kwargs, asked⟩ := missed
  obtain ⟨rfl, absent⟩ := honest property kwargs name asked
  exact ⟨absent, vars, given, name, kwargs, asked⟩

/-- On providers that answer to their contract, the error of an unknown property tells the property
of a condition, and the error of an unknown action tells the method of an action or passes on that a
property is lacking. -/
theorem trigger_failsOnly_tellsName (honest : ruleSet.Honest args) :
    (ruleSet.trigger args).FailsOnly (ruleSet.TellsName args) := by
  refine trigger_failsOnly (fun _ => ⟨nofun, nofun⟩) (fun _ => ⟨nofun, nofun⟩) ?_
  intro vars varsGiven actions actionsGiven block member
  obtain ⟨varsHonest, actionsHonest⟩ := honest vars varsGiven
  refine CompiledBlock.run_failsOnly (fun set inBlock condition inSet => ?_) fun action inside => ?_
  · refine CompiledCondition.evaluate_failsOnly (fun world cause after failed => ?_)
      fun _ _ _ => ⟨nofun, nofun⟩
    refine tellsName_ofProperty ⟨block, member, set, inBlock, condition, inSet, rfl, rfl⟩ ?_
    rintro name rfl
    exact varsHonest _ _ name ⟨world, after, failed⟩
  · refine .located fun world cause after failed => ?_
    refine tellsName_ofAction ⟨block, member, action, inside, rfl, rfl⟩ ?_
    rintro name rfl
    exact (actionsHonest actions actionsGiven _ _ name ⟨world, after, failed⟩).imp_right
      (lacksProperty_of_misses varsGiven varsHonest)

end CompiledRuleSet

/-! ### Rule sets that were accepted -/

namespace Compiler

variable {compiler : Compiler World} {source : RuleSet} {ruleSet : CompiledRuleSet World}
  {args : EventArgs}

/-- The blocks of an accepted rule set were made with what its own providers offer. -/
theorem made_with_sources (accepted : (compiler.compile source).1 = .ok ruleSet)
    {block : CompiledBlock} (member : block ∈ ruleSet.blocks) :
    ∃ (origin : RuleBlock) (place : Location), origin.compile compiler.operators
      (Catalog.of ruleSet.variablesSource ruleSet.actionsSource) place = .ok block := by
  have checked := accepted
  rw [compile_fst] at checked
  obtain ⟨vars, actions, -, varsFound, actionsFound, -⟩ := check_eq_ok_iff.mp checked
  obtain ⟨rfl, rfl, blocks⟩ := made_with_providers varsFound actionsFound accepted
  obtain ⟨origin, -, -, blockAccepted⟩ := blocks block member
  exact ⟨origin, _, blockAccepted⟩

theorem exists_property_of_readsAt (accepted : (compiler.compile source).1 = .ok ruleSet)
    {name : String} {location : Location} (reads : ruleSet.ReadsAt name location) :
    ∃ property, ruleSet.variablesSource.property? name = some property := by
  obtain ⟨block, member, set, inBlock, condition, inSet, rfl, -⟩ := reads
  obtain ⟨_, _, blockAccepted⟩ := made_with_sources accepted member
  obtain ⟨_, _, conditionAccepted⟩ := CompiledBlock.exists_condition blockAccepted inBlock inSet
  obtain ⟨property, -, -, offered, -, -, -, rfl⟩ := Condition.compile_eq_ok_iff.mp conditionAccepted
  rw [Catalog.find?_of] at offered
  exact ⟨property, offered⟩

theorem mem_actions_of_runsAt (accepted : (compiler.compile source).1 = .ok ruleSet)
    {method : String} {location : Location} (runs : ruleSet.RunsAt method location) :
    method ∈ ruleSet.actionsSource.actions := by
  obtain ⟨block, member, action, inside, rfl, -⟩ := runs
  obtain ⟨_, _, blockAccepted⟩ := made_with_sources accepted member
  obtain ⟨_, -, _, actionAccepted⟩ := CompiledBlock.exists_action blockAccepted inside
  obtain ⟨offered, rfl⟩ := Action.compile_eq_ok_iff.mp actionAccepted
  exact offered

/-- In an accepted rule set every method at a place is offered, so only what is passed on is
left. -/
theorem tellsLackingOnly_of_tellsName (accepted : (compiler.compile source).1 = .ok ruleSet)
    {error : RuleError} (tells : ruleSet.TellsName args error) :
    ruleSet.TellsLackingOnly args error where
  property name location told := by
    obtain ⟨reads, absent⟩ := tells.property name location told
    obtain ⟨property, offered⟩ := exists_property_of_readsAt accepted reads
    exact nomatch absent.symm.trans offered
  action name location told := by
    rcases tells.action name location told with ⟨runs, absent⟩ | ⟨method, runs, lacks⟩
    · exact absurd (mem_actions_of_runsAt accepted runs) absent
    · exact ⟨method, runs, mem_actions_of_runsAt accepted runs, lacks⟩

end Compiler

/-! ### Tables of methods -/

/-- Variables of a table whose properties know their names answer to their contract. -/
theorem VariablesTable.instanceOf_honest {State : Type} {table : VariablesTable World State}
    (known : table.NamesKnown) (state : State) :
    (table.instanceOf state).Honest table.toProvider := by
  intro property kwargs name missed
  have unoffered : table.accessors.find? property = none := by
    cases found : table.accessors.find? property with
    | none => rfl
    | some accessor =>
      obtain ⟨before, after, failed⟩ := missed
      have knows := get_namesKnown known ⟨accessor, found⟩ state kwargs
      exact absurd rfl (knows before _ after failed name)
  constructor
  · simp only [instanceOf, unoffered] at missed
    exact Effect.eq_of_misses_throw missed
  · cases offered : table.toProvider.property? property with
    | none => rfl
    | some descriptor =>
      obtain ⟨accessor, found⟩ := exists_accessor offered
      cases unoffered.symm.trans found

namespace ActionsTable

variable {State VarsState : Type} {table : ActionsTable World State}
  {varsTable : VariablesTable World VarsState}

/-- On variables of another table, an action that is in the table calls a method unknown only if the
variables do. -/
def PassesOn (table : ActionsTable World State) (varsTable : VariablesTable World VarsState) :
    Prop :=
  ∀ method body, table.bodies.find? method = some body → ∀ state varsState kwargs name,
    (body state (varsTable.instanceOf varsState) kwargs).Misses name →
      (varsTable.instanceOf varsState).Misses name

theorem PassesOn.action (passes : table.PassesOn varsTable) {method : String}
    {body : ActionBody World State}
    (entered : ∀ state varsState kwargs name,
      (body state (varsTable.instanceOf varsState) kwargs).Misses name →
        (varsTable.instanceOf varsState).Misses name) :
    (table.action method body).PassesOn varsTable :=
  Fields.forall_find?_insert passes entered

theorem instanceOf_honest (passes : table.PassesOn varsTable) (state : State)
    (varsState : VarsState) :
    (table.instanceOf state).Honest table.toProvider (varsTable.instanceOf varsState) := by
  intro method kwargs name missed
  cases found : table.bodies.find? method with
  | some body =>
    simp only [instanceOf, found] at missed
    exact Or.inr (passes method body found state varsState kwargs name missed)
  | none =>
    refine Or.inl ⟨?_, fun offered => ?_⟩
    · simp only [instanceOf, found] at missed
      exact Effect.eq_of_misses_throw missed
    · obtain ⟨body, entered⟩ := Fields.exists_find?_iff.mpr offered
      cases found.symm.trans entered

end ActionsTable

theorem CompiledRuleSet.honest_of_tables {VarsState ActionsState : Type}
    {ruleSet : CompiledRuleSet World} {vars : VariablesTable World VarsState}
    {actions : ActionsTable World ActionsState}
    (sameVars : ruleSet.variablesSource = vars.toProvider)
    (sameActions : ruleSet.actionsSource = actions.toProvider) (known : vars.NamesKnown)
    (passes : actions.PassesOn vars) (args : EventArgs) : ruleSet.Honest args := by
  unfold Honest
  rw [sameVars, sameActions]
  intro varsInstance varsGiven
  obtain ⟨varsState, -, rfl⟩ := VariablesTable.exists_state varsGiven
  refine ⟨VariablesTable.instanceOf_honest known varsState, fun actionsInstance actionsGiven => ?_⟩
  obtain ⟨actionsState, -, rfl⟩ := ActionsTable.exists_state actionsGiven
  exact ActionsTable.instanceOf_honest passes actionsState varsState

/-- The name in the error of an unknown property is the property of the condition at its place. The
name in the error of an unknown action is the method of the action at its place, or a property that
the action found lacking; in a rule set that was accepted with tables of methods only the latter is
left. -/
theorem CompiledRuleSet.trigger_tells_name :
    (∀ (ruleSet : CompiledRuleSet World) (args : EventArgs), ruleSet.Honest args →
      (ruleSet.trigger args).FailsOnly (ruleSet.TellsName args)) ∧
    ∀ {VarsState ActionsState : Type} (compiler : Compiler World) (source : RuleSet)
      (ruleSet : CompiledRuleSet World) (vars : VariablesTable World VarsState)
      (actions : ActionsTable World ActionsState),
      compiler.providers.variablesByName.find? source.variablesProvider = some vars.toProvider →
      compiler.providers.actionsByName.find? source.actionsProvider = some actions.toProvider →
      vars.NamesKnown → actions.PassesOn vars → (compiler.compile source).1 = .ok ruleSet →
        ∀ args, (ruleSet.trigger args).FailsOnly (ruleSet.TellsLackingOnly args) := by
  refine ⟨fun ruleSet args honest => trigger_failsOnly_tellsName honest, ?_⟩
  intro _ _ compiler source ruleSet vars actions varsFound actionsFound known passes accepted args
  obtain ⟨sameVars, sameActions, -⟩ :=
    Compiler.made_with_providers varsFound actionsFound accepted
  have honest := honest_of_tables sameVars sameActions known passes args
  exact fun before error after failed => Compiler.tellsLackingOnly_of_tellsName accepted
    (trigger_failsOnly_tellsName honest before error after failed)

/-! ### An action that reads a property that is lacking -/

/-- Actions with one that reads the property that it is told, and passes on what goes wrong. -/
def ActionsTable.reading : ActionsTable Unit Unit :=
  ActionsTable.action { build := fun _ => pure () } "read" fun _ vars kwargs =>
    (vars.get (((kwargs.find? "property").map Value.toText).getD "") kwargs).silent

/-- A compiler that knows this action, and variables with a note. -/
def Compiler.reading : Compiler Unit where
  operators := .defaults
  providers := {
    variablesByName := [("notes", (VariablesTable.saying "a note").toProvider)]
    actionsByName := [("access", ActionsTable.reading.toProvider)] }

/-- A rule set whose action reads a property that no variables have. -/
def RuleSet.readsLacking : RuleSet where
  id := "rules"
  name := "rules"
  variablesProvider := "notes"
  actionsProvider := "access"
  enabled := true
  ruleBlocks := [{
    id := "block"
    name := "block"
    enabled := true
    conditionSets := []
    actions := [⟨"action", "read", [("property", .text "get_missing")]⟩] }]
  createdAt := ⟨0, 0⟩
  updatedAt := ⟨0, 0⟩

/-- The place of its action. -/
def RuleSet.readsLackingPlace : Location :=
  { ruleSet := some "rules", block := some "block", action := some "action" }

theorem ActionsTable.reading_passesOn (text : String) :
    reading.PassesOn (VariablesTable.saying text) := by
  refine .action nofun fun state varsState kwargs name missed => ?_
  obtain ⟨before, after, failed⟩ := missed
  exact ⟨_, kwargs, before, after, Effect.perform_silent_eq_error_iff.mp failed⟩

theorem Compiler.reading_finds_variables : reading.providers.variablesByName.find? "notes" =
    some (VariablesTable.saying "a note").toProvider := Fields.find?_cons_self [] _ _

theorem Compiler.reading_finds_actions : reading.providers.actionsByName.find? "access" =
    some ActionsTable.reading.toProvider := Fields.find?_cons_self [] _ _

theorem Compiler.honest_of_reading {ruleSet : CompiledRuleSet Unit}
    (accepted : (reading.compile .readsLacking).1 = .ok ruleSet) (args : EventArgs) :
    ruleSet.Honest args := by
  obtain ⟨sameVars, sameActions, -⟩ :=
    made_with_providers reading_finds_variables reading_finds_actions accepted
  exact CompiledRuleSet.honest_of_tables sameVars sameActions (VariablesTable.saying_namesKnown _)
    (ActionsTable.reading_passesOn _) args

theorem CompiledRuleSet.trigger_tells_name_readsLacking :
    ∃ ruleSet, (Compiler.reading.compile .readsLacking).1 = .ok ruleSet ∧
      ∀ args, (ruleSet.trigger args).FailsOnly (ruleSet.TellsName args) ∧
        (ruleSet.trigger args).FailsOnly (ruleSet.TellsLackingOnly args) := by
  have accepts : (Compiler.reading.compile .readsLacking).1.isOk = true := by decide +kernel
  obtain ⟨ruleSet, accepted⟩ := exists_of_isOk accepts
  refine ⟨ruleSet, accepted, fun args => ⟨?_, ?_⟩⟩
  · exact trigger_tells_name.1 ruleSet args (Compiler.honest_of_reading accepted args)
  · exact trigger_tells_name.2 Compiler.reading .readsLacking ruleSet _ _
      Compiler.reading_finds_variables Compiler.reading_finds_actions
      (VariablesTable.saying_namesKnown _) (ActionsTable.reading_passesOn _) accepted args

/-- On tables that answer to their contract, the error of an unknown action tells a name that is no
action's at its place; the action that runs there is one that the table has. -/
theorem CompiledRuleSet.trigger_tells_another_name :
    (VariablesTable.saying "a note").NamesKnown ∧
      ActionsTable.reading.PassesOn (VariablesTable.saying "a note") ∧
      ∃ ruleSet, (Compiler.reading.compile .readsLacking).1 = .ok ruleSet ∧
        ruleSet.Honest ⟨.null⟩ ∧
        ((ruleSet.trigger ⟨.null⟩).perform ()).1 =
          .error (.located (.unknownAction "get_missing") RuleSet.readsLackingPlace) ∧
        ruleSet.RunsAt "read" RuleSet.readsLackingPlace ∧
        "read" ∈ ruleSet.actionsSource.actions ∧
        ¬ ruleSet.RunsAt "get_missing" RuleSet.readsLackingPlace := by
  have ends : (match (Compiler.reading.compile .readsLacking).1 with
      | .ok ruleSet => decide (((ruleSet.trigger ⟨.null⟩).perform ()).1 =
            .error (.located (.unknownAction "get_missing") RuleSet.readsLackingPlace) ∧
          ruleSet.RunsAt "read" RuleSet.readsLackingPlace ∧
          "read" ∈ ruleSet.actionsSource.actions ∧
          ¬ ruleSet.RunsAt "get_missing" RuleSet.readsLackingPlace)
      | .error _ => false) = true := by decide +kernel
  refine ⟨VariablesTable.saying_namesKnown _, ActionsTable.reading_passesOn _, ?_⟩
  cases accepted : (Compiler.reading.compile .readsLacking).1 with
  | error error =>
    rw [accepted] at ends
    exact nomatch ends
  | ok ruleSet =>
    rw [accepted] at ends
    exact ⟨ruleSet, rfl, Compiler.honest_of_reading accepted _, of_decide_eq_true ends⟩

end Rulebook
