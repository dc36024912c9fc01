/-
This file says that rule sets cannot reach one another through a dispatch. A world is divided into
the memory of the variables that one trigger works with, that of its actions, and what all triggers
share. Providers are blind to what is shared if they only write to it: from given memories their
steps end in one way and write one list of things, whatever was shared before. An instance that is
made has a fresh memory, so nothing is handed on to it either.

From these steps a trigger is put together, so a trigger of blind providers comes to one end and
writes one list of things, whatever the world is. This is the point: the end and the list belong to
the rule set and the arguments of the event alone. A dispatch of such rule sets shows the end of each
of them and writes their lists one after another. Other rule sets may stand anywhere between them,
or be taken out or replaced; whether they fail and what they do to the world makes no difference.
-/
import Mathlib.Logic.Equiv.Defs
import Rulebook.Proofs.Dispatch
import Rulebook.Proofs.Tables

namespace Rulebook

/-- A world in three parts: the memories of the variables and of the actions of one trigger, and
what triggers share. What is shared is changed by writing to it. -/
structure Division (World Vars Actions Shared Write : Type) where
  parts : World ≃ Vars × Actions × Shared
  write : Shared → Write → Shared

namespace Division

variable {World Vars Actions Shared Write : Type}

/-- The world of these parts. -/
def world (division : Division World Vars Actions Shared Write) (vars : Vars) (actions : Actions)
    (shared : Shared) : World :=
  division.parts.symm (vars, actions, shared)

/-- What is shared after some writes, the first of them first. -/
def written (division : Division World Vars Actions Shared Write) (shared : Shared)
    (writes : List Write) : Shared :=
  writes.foldl division.write shared

theorem written_append (division : Division World Vars Actions Shared Write) (shared : Shared)
    (first second : List Write) :
    division.written shared (first ++ second) =
      division.written (division.written shared first) second :=
  List.foldl_append

/-- What is shared in a world. -/
def shared (division : Division World Vars Actions Shared Write) (world : World) : Shared :=
  (division.parts world).2.2

@[simp] theorem shared_world (division : Division World Vars Actions Shared Write) (vars : Vars)
    (actions : Actions) (shared : Shared) :
    division.shared (division.world vars actions shared) = shared := by
  unfold Division.shared world
  rw [Equiv.apply_symm_apply]

theorem exists_world (division : Division World Vars Actions Shared Write) (world : World) :
    ∃ vars actions, world = division.world vars actions (division.shared world) :=
  ⟨_, _, (division.parts.symm_apply_apply world).symm⟩

end Division

variable {World Vars Actions Shared Write : Type}
  (division : Division World Vars Actions Shared Write)

/-! ### Blind steps -/

/-- From given memories the step ends in one way and leaves and writes the same, whatever is
shared. -/
def Effect.Blind {Error Result : Type} (step : Effect World Error Result) : Prop :=
  ∀ vars actions, ∃ outcome varsAfter actionsAfter writes, ∀ shared,
    step.perform (division.world vars actions shared) =
      (outcome, division.world varsAfter actionsAfter (division.written shared writes))

/-- Whatever the world is, the step ends in this way and writes this. -/
def Effect.ComesTo {Error Result : Type} (step : Effect World Error Result)
    (outcome : Except Error Result) (writes : List Write) : Prop :=
  ∀ before, ∃ after, step.perform before = (outcome, after) ∧
    division.shared after = division.written (division.shared before) writes

variable {division}

namespace Effect.Blind

variable {Error First Second Item : Type}

theorem pure (result : First) :
    Effect.Blind division (Pure.pure result : Effect World Error First) :=
  fun vars actions => ⟨_, vars, actions, [], fun _ => rfl⟩

theorem throw (error : Error) :
    Effect.Blind division (MonadExcept.throw error : Effect World Error First) :=
  fun vars actions => ⟨_, vars, actions, [], fun _ => rfl⟩

theorem bind {step : Effect World Error First} {next : First → Effect World Error Second}
    (first : step.Blind division) (rest : ∀ result, (next result).Blind division) :
    Effect.Blind division (step >>= next) := by
  intro vars actions
  obtain ⟨error | result, varsReached, actionsReached, writes, performed⟩ := first vars actions
  · exact ⟨_, varsReached, actionsReached, writes, fun shared =>
      perform_bind_of_error (performed shared)⟩
  · obtain ⟨outcome, varsAfter, actionsAfter, others, performedNext⟩ :=
      rest result varsReached actionsReached
    refine ⟨outcome, varsAfter, actionsAfter, writes ++ others, fun shared => ?_⟩
    rw [perform_bind_of_ok (performed shared), performedNext, division.written_append]

theorem located {step : Effect World Error First} (blind : step.Blind division)
    (fault : Error → RuleFault) (location : Location) :
    Effect.Blind division (Effect.located fault location step) := by
  intro vars actions
  obtain ⟨outcome, varsAfter, actionsAfter, writes, performed⟩ := blind vars actions
  refine ⟨outcome.mapError fun cause => .located (fault cause) location, varsAfter, actionsAfter,
    writes, fun shared => ?_⟩
  rw [perform_located, performed]

theorem keptInSequence : KeptInSequence fun Result (step : Effect World Error Result) =>
    step.Blind division where
  pure := pure
  bind := bind

theorem mapM {items : List Item} {act : Item → Effect World Error First}
    (each : ∀ item ∈ items, (act item).Blind division) :
    Effect.Blind division (items.mapM act) := keptInSequence.mapM each

theorem forM {items : List Item} {act : Item → Effect World Error Unit}
    (each : ∀ item ∈ items, (act item).Blind division) :
    Effect.Blind division (ForM.forM items act) := keptInSequence.forM each

end Effect.Blind

/-! ### Blind providers -/

variable (division)

/-- Every property is read by a blind step. -/
def VariablesInstance.Blind (vars : VariablesInstance World) : Prop :=
  ∀ property kwargs, (vars.get property kwargs).Blind division

/-- The actions are blind on blind variables. -/
def ActionsInstance.Blind (actions : ActionsInstance World) : Prop :=
  ∀ vars : VariablesInstance World, vars.Blind division →
    ∀ action kwargs, (actions.run action vars kwargs).Blind division

/-- Blind variables are made with a memory that does not depend on the world, or never. -/
def VariablesProvider.Blind (provider : VariablesProvider World) : Prop :=
  ∀ args, (∃ error writes, (provider.construct args).ComesTo division (.error error) writes) ∨
    ∃ made memory writes, VariablesInstance.Blind division made ∧ ∀ vars actions shared,
      (provider.construct args).perform (division.world vars actions shared) =
        (.ok made, division.world memory actions (division.written shared writes))

/-- Blind actions are made with a memory that does not depend on the world, or never. The variables
keep theirs. -/
def ActionsProvider.Blind (provider : ActionsProvider World) : Prop :=
  ∀ args, (∃ error writes, (provider.construct args).ComesTo division (.error error) writes) ∨
    ∃ made memory writes, ActionsInstance.Blind division made ∧ ∀ vars actions shared,
      (provider.construct args).perform (division.world vars actions shared) =
        (.ok made, division.world vars memory (division.written shared writes))

/-- The rule set holds blind providers. -/
def CompiledRuleSet.Blind (ruleSet : CompiledRuleSet World) : Prop :=
  ruleSet.variablesSource.Blind division ∧ ruleSet.actionsSource.Blind division

variable {division}

/-! ### Blind blocks -/

section Blocks

variable {vars : VariablesInstance World} {actions : ActionsInstance World}

theorem CompiledCondition.evaluate_blind (blind : vars.Blind division)
    (condition : CompiledCondition) (location : Location) :
    (condition.evaluate vars location).Blind division := by
  refine .bind (.located (blind _ _) _ _) fun left => ?_
  split
  · exact .pure _
  · exact .throw _

namespace CompiledBlock

theorem evaluateWithin_blind (blind : vars.Blind division) (block : CompiledBlock)
    (levels index : Nat) (fits : Nesting.fits (block.sets.map (·.children)) levels index = true)
    (location : Location) : (block.evaluateWithin vars levels index fits location).Blind division := by
  induction levels generalizing index location with
  | zero => exact absurd fits (by simp [Nesting.fits])
  | succ levels inductionHypothesis =>
    obtain ⟨bound, inside, unfolded⟩ := block.evaluateWithin_succ vars levels index fits location
    rw [unfolded]
    refine .bind (.mapM fun condition _ => condition.evaluate_blind blind _) fun own => ?_
    refine .bind (.mapM fun child _ => ?_) fun nested => .pure _
    exact inductionHypothesis child.1 (inside child.1 child.2) _

theorem allConditionsTrue_blind (blind : vars.Blind division) (block : CompiledBlock)
    (location : Location) : (block.allConditionsTrue vars location).Blind division := by
  refine .bind (.mapM fun root _ => ?_) fun results => .pure _
  exact block.evaluateWithin_blind blind _ _ _ _

theorem run_blind (blind : vars.Blind division) (actionsBlind : actions.Blind division)
    (block : CompiledBlock) (location : Location) :
    (block.run vars actions location).Blind division := by
  refine .bind (block.allConditionsTrue_blind blind location) fun holds => ?_
  split
  · refine .bind (.forM fun action _ => ?_) fun _ => .pure _
    exact .located (actionsBlind vars blind _ _) _ _
  · exact .pure _

end CompiledBlock

theorem runBlocks_blind (blind : vars.Blind division) (actionsBlind : actions.Blind division)
    (stop : Bool) (location : Location) (blocks : List CompiledBlock) :
    (runBlocks stop vars actions location blocks).Blind division := by
  induction blocks with
  | nil => exact .pure _
  | cons block rest inductionHypothesis =>
    refine .bind (block.run_blind blind actionsBlind _) fun outcome => ?_
    split
    · exact .pure _
    · exact .bind inductionHypothesis fun _ => .pure _

end Blocks

/-! ### Blind triggers -/

namespace Effect.ComesTo

variable {Error First Second : Type} {writes : List Write}

theorem located {step : Effect World Error First} {outcome : Except Error First}
    (comes : step.ComesTo division outcome writes) (fault : Error → RuleFault)
    (location : Location) :
    Effect.ComesTo division (Effect.located fault location step)
      (outcome.mapError fun cause => .located (fault cause) location) writes := by
  intro before
  obtain ⟨after, performed, written⟩ := comes before
  exact ⟨after, by rw [perform_located, performed], written⟩

/-- After a step that fails, nothing more comes of it. -/
theorem bind_error {step : Effect World Error First} {next : First → Effect World Error Second}
    {error : Error} (comes : step.ComesTo division (.error error) writes) :
    Effect.ComesTo division (step >>= next) (.error error) writes := by
  intro before
  obtain ⟨after, performed, written⟩ := comes before
  exact ⟨after, perform_bind_of_error performed, written⟩

/-- What comes of a step that makes variables, and of what follows on their memory. -/
theorem bind_of_fresh {step : Effect World Error First} {next : First → Effect World Error Second}
    {made : First} {memory : Vars} {others : List Write} {outcome : Except Error Second}
    (performed : ∀ vars actions shared, step.perform (division.world vars actions shared) =
      (.ok made, division.world memory actions (division.written shared writes)))
    (rest : ∀ actions shared, ∃ after,
      (next made).perform (division.world memory actions shared) = (outcome, after) ∧
        division.shared after = division.written shared others) :
    Effect.ComesTo division (step >>= next) outcome (writes ++ others) := by
  intro before
  obtain ⟨vars, actions, parts⟩ := division.exists_world before
  obtain ⟨after, followed, written⟩ :=
    rest actions (division.written (division.shared before) writes)
  refine ⟨after, ?_, ?_⟩
  · rw [parts, perform_bind_of_ok (performed vars actions _), followed]
  · rw [written, division.written_append]

end Effect.ComesTo

namespace CompiledRuleSet

variable {ruleSet : CompiledRuleSet World}

/-- What comes of a trigger once its variables are made. -/
theorem exists_rest_comesTo {vars : VariablesInstance World} (varsBlind : vars.Blind division)
    (actionsBlind : ruleSet.actionsSource.Blind division) (args : EventArgs) (memory : Vars) :
    ∃ outcome writes, ∀ old shared, ∃ after,
      Effect.perform (do
          let actions ← ruleSet.constructActions args
          let (blocks, stoppedEarly) ←
            runBlocks ruleSet.stopOnFirstTrigger vars actions ruleSet.location ruleSet.blocks
          return ({ ruleSetId := ruleSet.id, stoppedEarly, blocks } : TriggerOutcome))
        (division.world memory old shared) = (outcome, after) ∧
      division.shared after = division.written shared writes := by
  rcases actionsBlind args with
    ⟨error, writes, fails⟩ | ⟨actions, actionsMemory, writes, actionsMade, made⟩
  · refine ⟨.error (.located (.providerConstruction ruleSet.actionsProvider error.message)
      ruleSet.location), writes, fun old shared => ?_⟩
    obtain ⟨after, performed, written⟩ := fails (division.world memory old shared)
    rw [division.shared_world] at written
    refine ⟨after, Effect.perform_bind_of_error ?_, written⟩
    exact Effect.perform_located_eq_error_iff.mpr ⟨error, performed, rfl⟩
  · have blocks : Effect.Blind division (do
        let (blocks, stoppedEarly) ←
          runBlocks ruleSet.stopOnFirstTrigger vars actions ruleSet.location ruleSet.blocks
        return ({ ruleSetId := ruleSet.id, stoppedEarly, blocks } : TriggerOutcome)) :=
      .bind (runBlocks_blind varsBlind actionsMade _ _ _) fun _ => .pure _
    obtain ⟨outcome, varsAfter, actionsAfter, others, performed⟩ := blocks memory actionsMemory
    refine ⟨outcome, writes ++ others, fun old shared =>
      ⟨division.world varsAfter actionsAfter
        (division.written (division.written shared writes) others), ?_, ?_⟩⟩
    · have madeNow : (ruleSet.constructActions args).perform (division.world memory old shared) =
          (.ok actions, division.world memory actionsMemory (division.written shared writes)) :=
        Effect.perform_located_eq_ok_iff.mpr (made memory old shared)
      rw [Effect.perform_bind_of_ok madeNow]
      exact performed _
    · rw [division.shared_world, division.written_append]

/-- A trigger of a rule set with blind providers comes to one end, with one list of writes. -/
theorem Blind.exists_trigger_comesTo (blind : ruleSet.Blind division) (args : EventArgs) :
    ∃ outcome writes, (ruleSet.trigger args).ComesTo division outcome writes := by
  obtain ⟨varsBlind, actionsBlind⟩ := blind
  unfold trigger
  split
  · rcases varsBlind args with ⟨error, writes, fails⟩ | ⟨vars, memory, writes, varsMade, made⟩
    · exact ⟨_, writes, .bind_error (fails.located _ _)⟩
    · obtain ⟨outcome, others, rest⟩ := exists_rest_comesTo varsMade actionsBlind args memory
      refine ⟨outcome, writes ++ others, .bind_of_fresh (fun old actions shared => ?_) rest⟩
      exact Effect.perform_located_eq_ok_iff.mpr (made old actions shared)
  · exact ⟨_, [], fun before => ⟨before, rfl, rfl⟩⟩

end CompiledRuleSet

/-! ### Dispatches of blind rule sets -/

variable (division) in
/-- Whatever the world is, a trigger of the rule set shows this result and writes this. -/
def CompiledRuleSet.Shows (args : EventArgs) (ruleSet : CompiledRuleSet World)
    (entry : DispatchResult × List Write) : Prop :=
  entry.1.ruleSetId = ruleSet.id ∧ (ruleSet.trigger args).ComesTo division entry.1.result entry.2

namespace Triggers

variable {args : EventArgs} {ruleSets : List (CompiledRuleSet World)}
  {entries : List (DispatchResult × List Write)}

/-- Every blind rule set has an entry of its own. -/
theorem exists_shows (blind : ∀ ruleSet ∈ ruleSets, ruleSet.Blind division) (args : EventArgs) :
    ∃ entries, List.Forall₂ (CompiledRuleSet.Shows division args) ruleSets entries := by
  refine exists_forall₂ fun ruleSet member => ?_
  obtain ⟨outcome, writes, comes⟩ := (blind ruleSet member).exists_trigger_comesTo args
  exact ⟨(⟨ruleSet.id, outcome⟩, writes), rfl, comes⟩

/-- The entries are shown and the lists are written one after another. -/
theorem exists_of_shows (shown : List.Forall₂ (CompiledRuleSet.Shows division args) ruleSets entries)
    (before : World) :
    ∃ after, Triggers args ruleSets before (entries.map (·.1)) after ∧
      division.shared after = division.written (division.shared before) (entries.flatMap (·.2)) := by
  induction shown generalizing before with
  | nil => exact ⟨before, .nil before, rfl⟩
  | @cons ruleSet entry others entries shows _ inductionHypothesis =>
    obtain ⟨sameId, comes⟩ := shows
    obtain ⟨reached, performed, written⟩ := comes before
    obtain ⟨after, triggers, writtenAfter⟩ := inductionHypothesis reached
    have own : entry.1 = ⟨ruleSet.id, entry.1.result⟩ := by rw [← sameId]
    refine ⟨after, ?_, ?_⟩
    · rw [List.map_cons, own]
      exact .cons performed triggers
    · rw [writtenAfter, written, List.flatMap_cons, division.written_append]

end Triggers

/-- A dispatch triggers the rule sets that the event concerns, one after another, and reports how
each of them ended. If those before and those after some others are blind, they have entries of
their own, which they show whatever stands between them. -/
theorem DispatchTable.dispatch_isolates (division : Division World Vars Actions Shared Write)
    (event : Event) :
    (∀ (ruleSets : List (CompiledRuleSet World)) (before : World), ∃ results after,
      ((build ruleSets).dispatch event).run before = (⟨event.signal, results⟩, after) ∧
        Triggers event.args (ruleSets.filter (·.Concerns event)) before results after) ∧
    ∀ earlier later : List (CompiledRuleSet World),
      (∀ ruleSet ∈ earlier ++ later, ruleSet.Blind division) →
      ∃ first last : List (DispatchResult × List Write),
        List.Forall₂ (CompiledRuleSet.Shows division event.args)
          (earlier.filter (·.Concerns event)) first ∧
        List.Forall₂ (CompiledRuleSet.Shows division event.args)
          (later.filter (·.Concerns event)) last ∧
        ∀ middle before, ∃ own reached left after,
          ((build (earlier ++ middle ++ later)).dispatch event).run before =
            (⟨event.signal, first.map (·.1) ++ own ++ last.map (·.1)⟩, after) ∧
          division.shared reached =
            division.written (division.shared before) (first.flatMap (·.2)) ∧
          Triggers event.args (middle.filter (·.Concerns event)) reached own left ∧
          division.shared after =
            division.written (division.shared left) (last.flatMap (·.2)) := by
  constructor
  · intro ruleSets before
    obtain ⟨results, after, triggers⟩ := Triggers.exists_of_ruleSets event.args
      (ruleSets.filter (·.Concerns event)) before
    exact ⟨results, after, dispatch_build_run_of_triggers triggers, triggers⟩
  · intro earlier later blind
    have earlierBlind : ∀ ruleSet ∈ earlier.filter (·.Concerns event), ruleSet.Blind division :=
      fun ruleSet member =>
        blind ruleSet (List.mem_append_left later (List.mem_of_mem_filter member))
    have laterBlind : ∀ ruleSet ∈ later.filter (·.Concerns event), ruleSet.Blind division :=
      fun ruleSet member =>
        blind ruleSet (List.mem_append_right earlier (List.mem_of_mem_filter member))
    obtain ⟨first, firstShown⟩ := Triggers.exists_shows earlierBlind event.args
    obtain ⟨last, lastShown⟩ := Triggers.exists_shows laterBlind event.args
    refine ⟨first, last, firstShown, lastShown, fun middle before => ?_⟩
    obtain ⟨reached, ahead, written⟩ := Triggers.exists_of_shows firstShown before
    obtain ⟨own, left, between⟩ :=
      Triggers.exists_of_ruleSets event.args (middle.filter (·.Concerns event)) reached
    obtain ⟨after, behind, writtenAfter⟩ := Triggers.exists_of_shows lastShown left
    refine ⟨own, reached, left, after, dispatch_build_run_of_triggers ?_, written, between,
      writtenAfter⟩
    rw [List.filter_append, List.filter_append]
    exact Triggers.append_iff.mpr ⟨_, left, _, rfl,
      Triggers.append_iff.mpr ⟨_, reached, _, rfl, ahead, between⟩, behind⟩

/-! ### Sales transitions -/

namespace Sales

/-- The outbox is shared by all triggers, and nothing else is in the world. -/
def sharedOutbox : Division Outbox Unit Unit Outbox (Message ⊕ ChangeLogEntry) where
  parts := ⟨fun outbox => ((), (), outbox), fun parts => parts.2.2, fun _ => rfl, fun _ => rfl⟩
  write outbox
    | .inl message => { outbox with messages := outbox.messages ++ [message] }
    | .inr entry => { outbox with changeLog := outbox.changeLog ++ [entry] }

/-- Putting something into the outbox is only writing. -/
theorem change_blind (update : Outbox → Outbox) (write : Message ⊕ ChangeLogEntry)
    (writes : ∀ outbox, update outbox = sharedOutbox.write outbox write) :
    (Effect.change update : Effect Outbox ProviderError Unit).Blind sharedOutbox :=
  fun vars actions => ⟨.ok (), vars, actions, [write], fun shared =>
    congrArg (Prod.mk _) (writes shared)⟩

theorem variablesTable_blind : variablesTable.toProvider.Blind sharedOutbox := by
  intro args
  cases described : transition? args with
  | none =>
    rw [construct_of_undescribed described]
    exact .inl ⟨_, [], fun before => ⟨before, rfl, rfl⟩⟩
  | some transition =>
    rw [construct_of_described described]
    refine .inr ⟨_, (), [], fun property kwargs => ?_, fun _ _ _ => rfl⟩
    cases found : (variablesTable : VariablesTable Outbox EventArgs).accessors.find? property with
    | none =>
      simp only [VariablesTable.instanceOf, found]
      exact .throw _
    | some accessor =>
      obtain ⟨value, told⟩ := exists_read_eq_pure property accessor found transition kwargs
      rw [VariablesTable.get_of_accessor found, told]
      exact .pure value

theorem actionsTable_blind : actionsTable.toProvider.Blind sharedOutbox := by
  intro args
  refine .inr ⟨actionsTable.instanceOf (), (), [], fun vars blind action kwargs => ?_,
    fun _ _ _ => rfl⟩
  have bodies : ∀ name body, actionsTable.bodies.find? name = some body →
      (body () vars kwargs).Blind sharedOutbox := by
    refine Fields.forall_find?_insert (Fields.forall_find?_insert nofun ?_) ?_
    · exact change_blind _ (.inl (messageOf kwargs)) fun _ => rfl
    · refine .bind (blind _ _) fun spotId => .bind (blind _ _) fun sourceName =>
        .bind (blind _ _) fun targetName => ?_
      exact change_blind _ (.inr ⟨spotId, sourceName, targetName⟩) fun _ => rfl
  cases found : actionsTable.bodies.find? action with
  | none =>
    simp only [ActionsTable.instanceOf, found]
    exact .throw _
  | some body =>
    simp only [ActionsTable.instanceOf, found]
    exact bodies action body found

end Sales

theorem DispatchTable.dispatch_isolates_spotChanges :
    ∃ ruleSet, (Sales.compiler.compile .spotChanges).1 = .ok ruleSet ∧ ∀ event : Event,
      ∃ first last : List (DispatchResult × List (Sales.Message ⊕ Sales.ChangeLogEntry)),
        List.Forall₂ (CompiledRuleSet.Shows Sales.sharedOutbox event.args)
          ([ruleSet].filter (·.Concerns event)) first ∧
        List.Forall₂ (CompiledRuleSet.Shows Sales.sharedOutbox event.args)
          ([ruleSet].filter (·.Concerns event)) last ∧
        ∀ middle before, ∃ own reached left after,
          ((build ([ruleSet] ++ middle ++ [ruleSet])).dispatch event).run before =
            (⟨event.signal, first.map (·.1) ++ own ++ last.map (·.1)⟩, after) ∧
          Sales.sharedOutbox.shared reached =
            Sales.sharedOutbox.written (Sales.sharedOutbox.shared before)
              (first.flatMap (·.2)) ∧
          Triggers event.args (middle.filter (·.Concerns event)) reached own left ∧
          Sales.sharedOutbox.shared after =
            Sales.sharedOutbox.written (Sales.sharedOutbox.shared left)
              (last.flatMap (·.2)) := by
  have accepts : (Sales.compiler.compile .spotChanges).1.isOk = true := by decide +kernel
  cases accepted : (Sales.compiler.compile .spotChanges).1 with
  | error error =>
    rw [accepted] at accepts
    exact nomatch accepts
  | ok ruleSet =>
    obtain ⟨sameVars, sameActions, -⟩ := Compiler.made_with_providers
      (Fields.find?_cons_self [] _ _) (Fields.find?_cons_self [] _ _) accepted
    have blind : ruleSet.Blind Sales.sharedOutbox :=
      ⟨sameVars ▸ Sales.variablesTable_blind, sameActions ▸ Sales.actionsTable_blind⟩
    refine ⟨ruleSet, rfl, fun event => ?_⟩
    refine (dispatch_isolates Sales.sharedOutbox event).2 [ruleSet] [ruleSet] ?_
    simpa using blind

end Rulebook
