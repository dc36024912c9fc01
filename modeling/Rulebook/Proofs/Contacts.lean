/-
This file notes what a trigger does to its providers. Providers can be made to note every contact:
that an instance is made, that a property is read or that an action is run, each with what came of
it and with the world after it. They do the same as before, and the notes stand beside the world.

A trigger on providers that take notes ends as the one on the providers themselves and leaves the
same world, and it only ever adds to the notes; so they tell what any trigger does, in order. Of the
actions among the contacts more is said: an evaluation has none, and a block has at most its own, in
their order and from the first one on.
-/
import Rulebook.Proofs.Evaluation

namespace Rulebook

variable {World : Type}

/-! ### Contacts and notes -/

/-- An action that is run: its method and its arguments. -/
abbrev Deed := String × Kwargs

/-- What providers and their instances are asked to do, and what came of it. -/
inductive Contact where
  | makeVariables (args : EventArgs) (made : Except ProviderError Unit)
  | makeActions (args : EventArgs) (made : Except ProviderError Unit)
  | read (property : String) (kwargs : Kwargs) (answer : Except ProviderError Value)
  | act (deed : Deed) (done : Except ProviderError Unit)

/-- The action that a contact runs. -/
def Contact.deed? : Contact → Option Deed
  | .act deed _ => some deed
  | _ => none

/-- Contacts in order, each with the world after it. -/
abbrev Notes (World : Type) := List (Contact × World)

/-- The actions among noted contacts. -/
def Notes.deeds (notes : Notes World) : List Deed := notes.filterMap fun note => note.1.deed?

theorem Notes.deeds_append (notes more : Notes World) :
    Notes.deeds (notes ++ more) = Notes.deeds notes ++ Notes.deeds more := List.filterMap_append

theorem Notes.deeds_singleton (contact : Contact) (world : World) :
    Notes.deeds [(contact, world)] = contact.deed?.toList := by
  cases contact <;> rfl

/-! ### Providers that take notes -/

/-- A step of a provider that is noted when it is over. -/
def Effect.noting {Result : Type} (contact : Except ProviderError Result → Contact)
    (step : Effect World ProviderError Result) :
    Effect (World × Notes World) ProviderError Result :=
  ExceptT.mk fun before =>
    let (ended, after) := step.perform before.1
    (ended, after, before.2 ++ [(contact ended, after)])

namespace VariablesInstance

/-- The variables, noting what is read. -/
def noted (vars : VariablesInstance World) : VariablesInstance (World × Notes World) where
  get property kwargs := Effect.noting (.read property kwargs) (vars.get property kwargs)

/-- The variables as they are without notes. -/
def plain (vars : VariablesInstance (World × Notes World)) : VariablesInstance World where
  get property kwargs := ExceptT.mk fun before =>
    let (answer, after) := (vars.get property kwargs).perform (before, [])
    (answer, after.1)

theorem plain_noted (vars : VariablesInstance World) : vars.noted.plain = vars := rfl

end VariablesInstance

/-- The actions, noting what is run. What an action itself reads is a part of what it does. -/
def ActionsInstance.noted (actions : ActionsInstance World) :
    ActionsInstance (World × Notes World) where
  run method vars kwargs :=
    Effect.noting (.act (method, kwargs)) (actions.run method vars.plain kwargs)

/-- A kind of variables, noting what is made and what is read. -/
def VariablesProvider.noted (source : VariablesProvider World) :
    VariablesProvider (World × Notes World) where
  properties := source.properties
  construct args := VariablesInstance.noted <$>
    Effect.noting (fun made => .makeVariables args (made.map fun _ => ())) (source.construct args)

/-- A kind of actions, noting what is made and what is run. -/
def ActionsProvider.noted (source : ActionsProvider World) :
    ActionsProvider (World × Notes World) where
  actions := source.actions
  construct args := ActionsInstance.noted <$>
    Effect.noting (fun made => .makeActions args (made.map fun _ => ())) (source.construct args)

namespace CompiledRuleSet

/-- The rule set on providers that take notes. -/
def noted (ruleSet : CompiledRuleSet World) : CompiledRuleSet (World × Notes World) :=
  { ruleSet with
    variablesSource := ruleSet.variablesSource.noted
    actionsSource := ruleSet.actionsSource.noted }

/-- What a trigger does to its providers. -/
def notes (ruleSet : CompiledRuleSet World) (args : EventArgs) (before : World) : Notes World :=
  ((ruleSet.noted.trigger args).perform (before, [])).2.2

end CompiledRuleSet

/-! ### Steps beside notes -/

/-- Beside notes a step ends as it does without them and leaves the same world. The notes become
longer, and of how the step ends and of the actions that it noted something is true. -/
def Effect.Beside {Error Result : Type} (noting : Effect (World × Notes World) Error Result)
    (step : Effect World Error Result) (told : Except Error Result → List Deed → Prop) : Prop :=
  ∀ before notes, ∃ more,
    noting.perform (before, notes) =
      ((step.perform before).1, (step.perform before).2, notes ++ more) ∧
    told (step.perform before).1 (Notes.deeds more)

/-- No action was noted. -/
def noDeeds {Error Result : Type} (_ : Except Error Result) (deeds : List Deed) : Prop := deeds = []

/-- Nothing is told of the actions. -/
def anyDeeds {Error Result : Type} (_ : Except Error Result) (_ : List Deed) : Prop := True

namespace Effect.Beside

variable {Error First Second Item : Type}

theorem pure {result : First} {told : Except Error First → List Deed → Prop}
    (nothing : told (.ok result) []) :
    Effect.Beside (Pure.pure result : Effect (World × Notes World) Error First) (Pure.pure result)
      told :=
  fun _ notes => ⟨[], by rw [List.append_nil]; rfl, nothing⟩

theorem throw {error : Error} {told : Except Error First → List Deed → Prop}
    (nothing : told (.error error) []) :
    Effect.Beside (MonadExcept.throw error : Effect (World × Notes World) Error First)
      (MonadExcept.throw error) told :=
  fun _ notes => ⟨[], by rw [List.append_nil]; rfl, nothing⟩

theorem noting (contact : Except ProviderError First → Contact)
    (step : Effect World ProviderError First)
    {told : Except ProviderError First → List Deed → Prop}
    (alone : ∀ ended, told ended (contact ended).deed?.toList) :
    Effect.Beside (Effect.noting contact step) step told := by
  intro before notes
  refine ⟨[(contact (step.perform before).1, (step.perform before).2)], rfl, ?_⟩
  rw [Notes.deeds_singleton]
  exact alone _

/-- What a step does it does beside notes too. -/
theorem exists_more {noting : Effect (World × Notes World) Error First}
    {step : Effect World Error First} {told : Except Error First → List Deed → Prop}
    (alike : noting.Beside step told) {before after : World} {ended : Except Error First}
    (performed : step.perform before = (ended, after)) (notes : Notes World) :
    ∃ more, noting.perform (before, notes) = (ended, after, notes ++ more) ∧
      told ended (Notes.deeds more) := by
  obtain ⟨more, ends, known⟩ := alike before notes
  rw [performed] at ends known
  exact ⟨more, ends, known⟩

/-- What is told of two steps in a row is told of the first alone if that fails, and otherwise of
the actions of both. -/
theorem bind {noting : Effect (World × Notes World) Error First} {step : Effect World Error First}
    {notingNext : First → Effect (World × Notes World) Error Second}
    {next : First → Effect World Error Second} {toldFirst : Except Error First → List Deed → Prop}
    {toldNext : First → Except Error Second → List Deed → Prop}
    {told : Except Error Second → List Deed → Prop} (first : noting.Beside step toldFirst)
    (rest : ∀ result, (notingNext result).Beside (next result) (toldNext result))
    (failed : ∀ error deeds, toldFirst (.error error) deeds → told (.error error) deeds)
    (went : ∀ result deeds, toldFirst (.ok result) deeds →
      ∀ ended others, toldNext result ended others → told ended (deeds ++ others)) :
    Effect.Beside (noting >>= notingNext) (step >>= next) told := by
  intro before notes
  obtain ⟨more, ends, known⟩ := first before notes
  rw [Effect.perform_bind, Effect.perform_bind, ends]
  generalize step.perform before = performed at known
  rcases performed with ⟨error | result, reached⟩
  · exact ⟨more, rfl, failed error _ known⟩
  · obtain ⟨others, restEnds, restKnown⟩ := rest result reached (notes ++ more)
    refine ⟨more ++ others, by rw [← List.append_assoc]; exact restEnds, ?_⟩
    rw [Notes.deeds_append]
    exact went result _ known _ _ restKnown

/-- A first step without actions changes nothing about what is told. -/
theorem bind_noDeeds {noting : Effect (World × Notes World) Error First}
    {step : Effect World Error First}
    {notingNext : First → Effect (World × Notes World) Error Second}
    {next : First → Effect World Error Second} {told : Except Error Second → List Deed → Prop}
    (first : noting.Beside step noDeeds)
    (rest : ∀ result, (notingNext result).Beside (next result) told)
    (failed : ∀ error, told (.error error) []) :
    Effect.Beside (noting >>= notingNext) (step >>= next) told :=
  first.bind rest (fun error _ nothing => nothing ▸ failed error)
    fun _ _ nothing _ _ known => nothing ▸ known

theorem bind_anyDeeds {noting : Effect (World × Notes World) Error First}
    {step : Effect World Error First}
    {notingNext : First → Effect (World × Notes World) Error Second}
    {next : First → Effect World Error Second} {told : Except Error First → List Deed → Prop}
    (first : noting.Beside step told)
    (rest : ∀ result, (notingNext result).Beside (next result) anyDeeds) :
    Effect.Beside (noting >>= notingNext) (step >>= next) anyDeeds :=
  first.bind rest (fun _ _ _ => trivial) fun _ _ _ _ _ _ => trivial

theorem alikeInSequence :
    AlikeInSequence fun Result (noting : Effect (World × Notes World) Error Result) step =>
      noting.Beside step noDeeds where
  pure _ := pure rfl
  bind first rest := first.bind_noDeeds rest fun _ => rfl

theorem mapM {noting : Item → Effect (World × Notes World) Error First}
    {act : Item → Effect World Error First}
    (alike : ∀ item, (noting item).Beside (act item) noDeeds) (items : List Item) :
    Effect.Beside (items.mapM noting) (items.mapM act) noDeeds :=
  alikeInSequence.mapM noting act (List.forall₂_same.mpr fun item _ => alike item)

/-- Steps with one action each note their actions in order, up to the one that fails. -/
theorem forM {noting : Item → Effect (World × Notes World) Error Unit}
    {act : Item → Effect World Error Unit} {deed : Item → Deed}
    (alike : ∀ item, (noting item).Beside (act item) fun _ deeds => deeds = [deed item])
    (items : List Item) :
    Effect.Beside (ForM.forM items noting) (ForM.forM items act)
      fun _ deeds => deeds <+: items.map deed := by
  induction items with
  | nil => exact pure List.nil_prefix
  | cons item rest inductionHypothesis =>
    rw [List.forM_cons, List.forM_cons]
    refine (alike item).bind (fun _ => inductionHypothesis) ?_ ?_
    · rintro error _ rfl
      exact List.prefix_append [deed item] _
    · rintro _ _ rfl _ others known
      exact (List.prefix_append_right_inj [deed item]).mpr known

theorem located {noting : Effect (World × Notes World) Error First}
    {step : Effect World Error First} {told : List Deed → Prop}
    (alike : noting.Beside step fun _ => told) (fault : Error → RuleFault) (location : Location) :
    Effect.Beside (Effect.located fault location noting) (Effect.located fault location step)
      fun _ => told := by
  intro before notes
  obtain ⟨more, ends, known⟩ := alike before notes
  exact ⟨more, by rw [Effect.perform_located, Effect.perform_located, ends], known⟩

end Effect.Beside

/-! ### What a trigger does beside notes -/

theorem CompiledCondition.evaluate_beside (condition : CompiledCondition)
    (vars : VariablesInstance World) (location : Location) :
    Effect.Beside (condition.evaluate vars.noted location) (condition.evaluate vars location)
      noDeeds := by
  have reads : (vars.noted.get condition.property condition.kwargs).Beside
      (vars.get condition.property condition.kwargs) noDeeds := .noting _ _ fun _ => rfl
  refine (reads.located _ _).bind_noDeeds (fun left => ?_) fun _ => rfl
  split
  · exact .pure rfl
  · exact .throw rfl

/-- The action that a compiled action runs. -/
def CompiledAction.deed (action : CompiledAction) : Deed := (action.method, action.kwargs)

theorem CompiledAction.run_beside (action : CompiledAction) (vars : VariablesInstance World)
    (actions : ActionsInstance World) (location : Location) :
    Effect.Beside (action.run vars.noted actions.noted location) (action.run vars actions location)
      fun _ deeds => deeds = [action.deed] := by
  have runs : Effect.Beside (actions.noted.run action.method vars.noted action.kwargs)
      (actions.run action.method vars action.kwargs) fun _ deeds => deeds = [action.deed] := by
    show Effect.Beside
      (Effect.noting (.act action.deed) (actions.run action.method vars.noted.plain action.kwargs))
      (actions.run action.method vars action.kwargs) _
    rw [VariablesInstance.plain_noted]
    exact .noting _ _ fun _ => rfl
  exact runs.located _ _

namespace CompiledBlock

theorem evaluateWithin_beside (block : CompiledBlock) (vars : VariablesInstance World)
    (levels index : Nat)
    (fits : Nesting.fits (block.sets.map (·.children)) levels index = true)
    (location : Location) :
    Effect.Beside (block.evaluateWithin vars.noted levels index fits location)
      (block.evaluateWithin vars levels index fits location) noDeeds := by
  induction levels generalizing index location with
  | zero => exact absurd fits (by simp [Nesting.fits])
  | succ levels inductionHypothesis =>
    obtain ⟨_, inside, unfolded⟩ := block.evaluateWithin_succ vars levels index fits location
    obtain ⟨_, _, notedUnfolded⟩ :=
      block.evaluateWithin_succ vars.noted levels index fits location
    rw [unfolded, notedUnfolded]
    refine (Effect.Beside.mapM (fun condition => condition.evaluate_beside vars _) _).bind_noDeeds
      (fun own => ?_) fun _ => rfl
    refine (Effect.Beside.mapM (fun child => ?_) _).bind_noDeeds (fun nested => .pure rfl)
      fun _ => rfl
    exact inductionHypothesis child.1 (inside child.1 child.2) _

/-- An evaluation runs no action. -/
theorem allConditionsTrue_beside (block : CompiledBlock) (vars : VariablesInstance World)
    (location : Location) :
    Effect.Beside (block.allConditionsTrue vars.noted location)
      (block.allConditionsTrue vars location) noDeeds := by
  refine (Effect.Beside.mapM (fun root => ?_) _).bind_noDeeds (fun results => .pure rfl)
    fun _ => rfl
  exact block.evaluateWithin_beside vars _ root.1 _ location

/-- The actions of a block, in order. -/
def deeds (block : CompiledBlock) : List Deed := block.actions.map (·.deed)

/-- A block runs its actions from the first one on, and none if it is gone through and does not
hold. -/
theorem run_beside (block : CompiledBlock) (vars : VariablesInstance World)
    (actions : ActionsInstance World) (location : Location) :
    Effect.Beside (block.run vars.noted actions.noted location) (block.run vars actions location)
      fun ended deeds => deeds <+: block.deeds ∧
        ∀ outcome, ended = .ok outcome → outcome.triggered = false → deeds = [] := by
  refine (block.allConditionsTrue_beside vars location).bind_noDeeds (fun holds => ?_)
    fun _ => ⟨List.nil_prefix, fun _ _ _ => rfl⟩
  cases holds with
  | false => exact .pure ⟨List.nil_prefix, fun _ _ _ => rfl⟩
  | true =>
    have acts := Effect.Beside.forM
      (fun action : CompiledAction => action.run_beside vars actions
        { location with action := some action.id }) block.actions
    have done (outcome : BlockOutcome) :
        Effect.Beside (pure outcome : Effect (World × Notes World) RuleError BlockOutcome)
          (pure outcome) fun ended deeds => ended = .ok outcome ∧ deeds = [] := .pure ⟨rfl, rfl⟩
    refine acts.bind (fun _ => done ⟨block.id, true, block.actions.length⟩) ?_ ?_
    · exact fun error deeds run => ⟨run, fun _ impossible => nomatch impossible⟩
    · rintro _ deeds run _ _ ⟨rfl, rfl⟩
      rw [List.append_nil]
      refine ⟨run, fun outcome ended quiet => ?_⟩
      obtain rfl := Except.ok.inj ended
      exact nomatch quiet

end CompiledBlock

theorem runBlocks_beside (stop : Bool) (vars : VariablesInstance World)
    (actions : ActionsInstance World) (location : Location) (blocks : List CompiledBlock) :
    Effect.Beside (runBlocks stop vars.noted actions.noted location blocks)
      (runBlocks stop vars actions location blocks) anyDeeds := by
  induction blocks with
  | nil => exact .pure trivial
  | cons block rest inductionHypothesis =>
    refine (block.run_beside vars actions _).bind_anyDeeds fun outcome => ?_
    split
    · exact .pure trivial
    · exact inductionHypothesis.bind_anyDeeds fun _ => .pure trivial

/-! ### Making instances beside notes -/

theorem Effect.located_map {Error First Second : Type} (fault : Error → RuleFault)
    (location : Location) (present : First → Second) (step : Effect World Error First) :
    Effect.located fault location (present <$> step) =
      present <$> Effect.located fault location step := by
  refine ExceptT.ext (funext fun before => ?_)
  show (Effect.located fault location (present <$> step)).perform before =
    Effect.perform (present <$> Effect.located fault location step) before
  rw [← bind_pure_comp, ← bind_pure_comp, Effect.perform_bind, Effect.perform_located,
    Effect.perform_located, Effect.perform_bind]
  rcases step.perform before with ⟨error | result, after⟩ <;> rfl

namespace CompiledRuleSet

variable (ruleSet : CompiledRuleSet World) (args : EventArgs)

/-- Making the instance of the variables, which is noted. -/
def makeVariables : Effect (World × Notes World) RuleError (VariablesInstance World) :=
  Effect.located (fun error => .providerConstruction ruleSet.variablesProvider error.message)
    ruleSet.location
    (Effect.noting (fun made => .makeVariables args (made.map fun _ => ()))
      (ruleSet.variablesSource.construct args))

/-- Making the instance of the actions, which is noted. -/
def makeActions : Effect (World × Notes World) RuleError (ActionsInstance World) :=
  Effect.located (fun error => .providerConstruction ruleSet.actionsProvider error.message)
    ruleSet.location
    (Effect.noting (fun made => .makeActions args (made.map fun _ => ()))
      (ruleSet.actionsSource.construct args))

theorem makeVariables_beside :
    (ruleSet.makeVariables args).Beside (ruleSet.constructVariables args) noDeeds := by
  have makes : Effect.Beside
      (Effect.noting (fun made => .makeVariables args (made.map fun _ => ()))
        (ruleSet.variablesSource.construct args))
      (ruleSet.variablesSource.construct args) noDeeds := .noting _ _ fun _ => rfl
  exact makes.located _ _

theorem makeActions_beside :
    (ruleSet.makeActions args).Beside (ruleSet.constructActions args) noDeeds := by
  have makes : Effect.Beside
      (Effect.noting (fun made => .makeActions args (made.map fun _ => ()))
        (ruleSet.actionsSource.construct args))
      (ruleSet.actionsSource.construct args) noDeeds := .noting _ _ fun _ => rfl
  exact makes.located _ _

/-- On providers that take notes a trigger makes the same instances, notes that, and goes on with
them taking notes. -/
theorem trigger_noted :
    ruleSet.noted.trigger args = if ruleSet.enabled then do
        let vars ← ruleSet.makeVariables args
        let actions ← ruleSet.makeActions args
        let (blocks, stoppedEarly) ← runBlocks ruleSet.stopOnFirstTrigger vars.noted actions.noted
          ruleSet.location ruleSet.blocks
        return { ruleSetId := ruleSet.id, stoppedEarly, blocks }
      else return { ruleSetId := ruleSet.id, skipped := true } := by
  have notedVariables : ruleSet.noted.constructVariables args =
      VariablesInstance.noted <$> ruleSet.makeVariables args := Effect.located_map _ _ _ _
  have notedActions : ruleSet.noted.constructActions args =
      ActionsInstance.noted <$> ruleSet.makeActions args := Effect.located_map _ _ _ _
  unfold trigger
  simp only [notedVariables, notedActions, bind_map_left]
  rfl

/-- A trigger on providers that take notes does what the trigger does, with notes beside it. -/
theorem trigger_beside :
    Effect.Beside (ruleSet.noted.trigger args) (ruleSet.trigger args) anyDeeds := by
  rw [trigger_noted, trigger]
  by_cases enabled : ruleSet.enabled = true
  · rw [if_pos enabled, if_pos enabled]
    refine (ruleSet.makeVariables_beside args).bind_anyDeeds fun vars => ?_
    refine (ruleSet.makeActions_beside args).bind_anyDeeds fun actions => ?_
    exact (runBlocks_beside _ vars actions _ _).bind_anyDeeds fun _ => .pure trivial
  · rw [if_neg enabled, if_neg enabled]
    exact .pure trivial

/-- The notes of a trigger stand beside how it ends and the world that it leaves. -/
theorem perform_trigger_noted (before : World) :
    (ruleSet.noted.trigger args).perform (before, []) =
      (((ruleSet.trigger args).perform before).1, ((ruleSet.trigger args).perform before).2,
        ruleSet.notes args before) := by
  obtain ⟨more, ends, -⟩ := ruleSet.trigger_beside args before []
  rw [notes, ends]

end CompiledRuleSet

end Rulebook
