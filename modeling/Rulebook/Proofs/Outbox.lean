/-
This file says what whole runs leave in the outbox of sales transitions. What an event makes of a
rule set is read off the definition: the blocks are gone through in order, those that hold have their
actions executed, and a block that has no verdict ends the run where it is. Every action that is
executed leaves one thing, so what a run appends is told by four lists inside each other: the events,
the rule sets that an event concerns, the blocks that hold, and their actions.

Reading leaves the outbox alone, so between two blocks nothing is appended but what the actions leave.
This is shown for a block, then by induction on the blocks for a trigger, on the rule sets for a
dispatch, and on the events for a run. What was left before a failure stays, because no step takes
anything back.
-/
import Rulebook.Proofs.Passage
import Rulebook.Proofs.Transition
import Rulebook.Proofs.Verdict

namespace Rulebook

variable {World : Type}

/-! ### Steps without a trace -/

/-- The step leaves the world as it was, however it ends. -/
def Effect.Quiet {Error Result : Type} (step : Effect World Error Result) : Prop :=
  ∀ world, (step.perform world).2 = world

namespace Effect.Quiet

variable {Error First Second Item : Type}

theorem pure (result : First) : Effect.Quiet (Pure.pure result : Effect World Error First) :=
  fun _ => rfl

theorem throw (error : Error) :
    Effect.Quiet (MonadExcept.throw error : Effect World Error First) :=
  fun _ => rfl

theorem bind {step : Effect World Error First} {next : First → Effect World Error Second}
    (first : step.Quiet) (rest : ∀ result, (next result).Quiet) :
    Effect.Quiet (step >>= next) := by
  intro world
  have unchanged := first world
  rw [Effect.perform_bind]
  rcases ends : step.perform world with ⟨error | result, reached⟩ <;> rw [ends] at unchanged
  · exact unchanged
  · exact (rest result reached).trans unchanged

theorem located {step : Effect World Error First} (quiet : step.Quiet) (fault : Error → RuleFault)
    (location : Location) : Effect.Quiet (Effect.located fault location step) := by
  intro world
  rw [Effect.perform_located]
  exact quiet world

theorem keptInSequence :
    KeptInSequence fun Result (step : Effect World Error Result) => step.Quiet where
  pure := pure
  bind := bind

theorem forM {items : List Item} {act : Item → Effect World Error Unit}
    (each : ∀ item ∈ items, (act item).Quiet) : Effect.Quiet (ForM.forM items act) :=
  keptInSequence.forM each

theorem silent {step : Effect World Error First} (quiet : step.Quiet) : step.silent.Quiet :=
  .bind quiet fun _ => .pure ()

theorem of_silent {step : Effect World Error First} (quiet : step.silent.Quiet) : step.Quiet := by
  intro world
  have unchanged := quiet world
  rw [Effect.perform_silent] at unchanged
  exact unchanged

end Effect.Quiet

/-- A block whose properties are read without a trace is evaluated without one. -/
theorem CompiledBlock.allConditionsTrue_quiet {vars : VariablesInstance World}
    (reads : ∀ property kwargs, (vars.get property kwargs).Quiet) (block : CompiledBlock)
    (location : Location) : (block.allConditionsTrue vars location).Quiet := by
  refine .of_silent ?_
  rw [silent_allConditionsTrue]
  refine .forM fun entry _ => .silent (.bind (.located (reads _ _) _ _) fun left => ?_)
  split
  · exact .pure _
  · exact .throw _

namespace Sales

variable {args transition : EventArgs}

/-! ### The course of a rule set -/

/-- How the blocks of a rule set are gone through: which of them were finished, each with whether it
held, and the one that ended the run by a failure, if any did. -/
structure Course where
  finished : List (RuleBlock × Bool) := []
  broken : Option RuleBlock := none

namespace Course

/-- The course with one more block at its beginning. -/
def cons (entry : RuleBlock × Bool) (others : Course) : Course :=
  { others with finished := entry :: others.finished }

/-- Blocks are gone through up to the first without a verdict, and up to the first that holds if the
run stops there. -/
def through (stop : Bool) (verdict? : RuleBlock → Option Bool) : List RuleBlock → Course
  | [] => {}
  | block :: rest =>
    match verdict? block with
    | none => { broken := some block }
    | some holds => cons (block, holds) (if holds && stop then {} else through stop verdict? rest)

/-- The blocks that held, in order. -/
def triggered (course : Course) : List RuleBlock := (course.finished.filter (·.2)).map (·.1)

/-- What the actions of the blocks that held leave, in order. -/
def deliveries (course : Course) (args : EventArgs) : List Delivery :=
  course.triggered.flatMap fun block => block.actions.flatMap (Sales.deliveries args)

theorem triggered_cons (block : RuleBlock) (holds : Bool) (others : Course) :
    (others.cons (block, holds)).triggered =
      (if holds then [block] else []) ++ others.triggered := by
  cases holds <;> rfl

theorem deliveries_cons (block : RuleBlock) (holds : Bool) (others : Course) (args : EventArgs) :
    (others.cons (block, holds)).deliveries args =
      (if holds then block.actions.flatMap (Sales.deliveries args) else []) ++
        others.deliveries args := by
  unfold deliveries
  rw [triggered_cons, List.flatMap_append]
  cases holds <;> simp

/-- The blocks that were finished have the verdicts that they are told with, and the one that broke
has none. They are the first blocks, in order. -/
theorem through_decided (stop : Bool) (verdict? : RuleBlock → Option Bool)
    (blocks : List RuleBlock) :
    (∀ entry ∈ (through stop verdict? blocks).finished, verdict? entry.1 = some entry.2) ∧
      (∀ block, (through stop verdict? blocks).broken = some block → verdict? block = none) ∧
      ∃ left, blocks = (through stop verdict? blocks).finished.map (·.1) ++
        (through stop verdict? blocks).broken.toList ++ left := by
  induction blocks with
  | nil => exact ⟨nofun, nofun, [], rfl⟩
  | cons head rest inductionHypothesis =>
    obtain ⟨finished, broken, left, shape⟩ := inductionHypothesis
    unfold through
    cases decided : verdict? head with
    | none => exact ⟨nofun, fun block same => Option.some.inj same ▸ decided, rest, rfl⟩
    | some holds =>
      dsimp only
      split
      · exact ⟨fun entry member => List.mem_singleton.mp member ▸ decided, nofun, rest, rfl⟩
      · refine ⟨fun entry member => ?_, broken, left, congrArg (List.cons head) shape⟩
        rcases List.mem_cons.mp member with rfl | later
        · exact decided
        · exact finished entry later

theorem mem_of_triggered {stop : Bool} {verdict? : RuleBlock → Option Bool}
    {blocks : List RuleBlock} {block : RuleBlock}
    (held : block ∈ (through stop verdict? blocks).triggered) : block ∈ blocks := by
  obtain ⟨entry, member, rfl⟩ := List.mem_map.mp held
  have finished : entry.1 ∈ (through stop verdict? blocks).finished.map (·.1) :=
    List.mem_map_of_mem (List.mem_filter.mp member).1
  obtain ⟨left, shape⟩ := (through_decided stop verdict? blocks).2.2
  rw [shape, List.append_assoc]
  exact List.mem_append_left _ finished

/-- What is told of a block that was finished. -/
def outcomeOf (entry : RuleBlock × Bool) : BlockOutcome :=
  ⟨entry.1.id, entry.2, if entry.2 then entry.1.actions.length else 0⟩

/-- The blocks that were finished tell of the actions of those that held. -/
theorem sum_actionsRun (course : Course) :
    ((course.finished.map outcomeOf).map (·.actionsRun)).sum =
      (course.triggered.map (·.actions.length)).sum := by
  obtain ⟨finished, broken⟩ := course
  induction finished with
  | nil => rfl
  | cons entry finished inductionHypothesis =>
    obtain ⟨block, holds⟩ := entry
    simp only [List.map_cons, List.sum_cons, inductionHypothesis]
    cases holds <;> simp [outcomeOf, triggered]

/-- Where every action leaves one thing, as many things are left as there were actions. -/
theorem length_deliveries {course : Course} (single : ∀ block ∈ course.triggered,
    ∀ action ∈ block.actions, (Sales.deliveries args action).length = 1) :
    (course.deliveries args).length = (course.triggered.map (·.actions.length)).sum := by
  rw [deliveries, List.length_flatMap]
  refine congrArg List.sum (List.map_congr_left fun block held => ?_)
  rw [List.length_flatMap, List.map_congr_left (single block held)]
  simp

/-- A run ends well and tells of the blocks that were finished, or it ends in the error that the
block means which broke it. -/
def EndsIn (course : Course) (args : EventArgs) (location : Location) :
    Except RuleError (List BlockOutcome) → Prop
  | .ok outcomes => course.broken = none ∧ outcomes = course.finished.map outcomeOf
  | .error error => ∃ block, course.broken = some block ∧
      (block.meaning .defaults (answers args) block.conditionSets.length
        { location with block := some block.id }).run = some (.error error)

theorem EndsIn.cons {others : Course} {location : Location}
    {told : Except RuleError (List BlockOutcome)} (ends : others.EndsIn args location told)
    (entry : RuleBlock × Bool) :
    (others.cons entry).EndsIn args location (told.map (outcomeOf entry :: ·)) := by
  cases told with
  | error error => exact ends
  | ok outcomes => exact ⟨ends.1, congrArg (List.cons (outcomeOf entry)) ends.2⟩

end Course

/-! ### Through one block -/

section Blocks

variable {location : Location} {block : RuleBlock} {compiled : CompiledBlock}

/-- The conditions of a block are evaluated without a trace, to its verdict and as it means. -/
theorem conditions_perform (described : transition? args = some transition)
    (accepted : block.compile .defaults catalog location = .ok compiled) (place : Location)
    (outbox : Outbox) :
    ∃ ended,
      (compiled.allConditionsTrue (variablesTable.instanceOf transition) place).perform outbox =
        (ended, outbox) ∧
      ended.toOption = block.verdict? .defaults (answers args) ∧
      (block.meaning .defaults (answers args) block.conditionSets.length place).run =
        some ended := by
  have reads (property : String) (kwargs : Kwargs) :
      ((variablesTable.instanceOf transition).get property kwargs).Quiet :=
    fun outbox : Outbox => congrArg Prod.snd (get_performs described property kwargs outbox)
  exact ⟨_, Prod.ext rfl (compiled.allConditionsTrue_quiet reads place outbox),
    CompiledBlock.allConditionsTrue_decides accepted (answersBy described) place outbox,
    CompiledBlock.allConditionsTrue_endsAs OperatorRegistry.ReadsPatterns.defaults
      (answersBy described) accepted place (Nat.le_refl _) outbox⟩

/-- An action is executed and leaves its thing. -/
theorem action_performs (described : transition? args = some transition) {action : Action}
    {compiledAction : CompiledAction}
    (accepted : action.compile catalog location = .ok compiledAction) (place : Location)
    (outbox : Outbox) :
    (compiledAction.run (variablesTable.instanceOf transition) (actionsTable.instanceOf ())
        place).perform outbox =
      (.ok (), sharedOutbox.written outbox (deliveries args action)) := by
  obtain ⟨offered, rfl⟩ := Action.compile_eq_ok_iff.mp accepted
  exact Effect.perform_located_eq_ok_iff.mpr (run_performs described offered outbox)

/-- The actions of a block are executed one after another and leave their things. -/
theorem actions_perform (described : transition? args = some transition) {actions : List Action}
    {compiledActions : List CompiledAction} {placeOf : Action → Location}
    (correspond : List.Forall₂ (fun action compiledAction =>
      action.compile catalog (placeOf action) = .ok compiledAction) actions compiledActions)
    (place : CompiledAction → Location) (outbox : Outbox) :
    Effect.perform (forM compiledActions fun action =>
        action.run (variablesTable.instanceOf transition) (actionsTable.instanceOf ())
          (place action)) outbox =
      (.ok (), sharedOutbox.written outbox (actions.flatMap (deliveries args))) := by
  induction correspond generalizing outbox with
  | nil => rfl
  | @cons action compiledAction actions compiledActions accepted _ inductionHypothesis =>
    have executed := action_performs described accepted (place compiledAction) outbox
    rw [List.forM_cons, List.flatMap_cons, sharedOutbox.written_append]
    exact (Effect.perform_bind_of_ok executed).trans (inductionHypothesis _)

/-- A block with a verdict is finished: if it holds its actions leave their things. -/
theorem block_performs_of_some (described : transition? args = some transition)
    (accepted : block.compile .defaults catalog location = .ok compiled) {holds : Bool}
    (decided : block.verdict? .defaults (answers args) = some holds) (place : Location)
    (outbox : Outbox) :
    (compiled.run (variablesTable.instanceOf transition) (actionsTable.instanceOf ())
        place).perform outbox =
      (.ok (Course.outcomeOf (block, holds)),
        sharedOutbox.written outbox
          (if holds then block.actions.flatMap (deliveries args) else [])) := by
  obtain ⟨ended, evaluated, verdict, -⟩ := conditions_perform described accepted place outbox
  obtain ⟨-, -, _, -, -, correspond, -, -, -, -, rfl⟩ := RuleBlock.compile_eq_ok_iff.mp accepted
  have sameLength : compiled.actions.length = block.actions.length := correspond.length_eq.symm
  rw [decided] at verdict
  obtain rfl : ended = .ok holds := by
    cases ended with
    | error error => exact nomatch verdict
    | ok result => exact congrArg Except.ok (Option.some.inj verdict)
  unfold CompiledBlock.run
  rw [Effect.perform_bind_of_ok evaluated]
  simp only [Course.outcomeOf, ← RuleBlock.id_of_compile accepted, ← sameLength]
  cases holds with
  | false => rfl
  | true =>
    have executed := actions_perform described correspond
      (fun action => { place with action := some action.id }) outbox
    exact Effect.perform_bind_of_ok executed

/-- A block without a verdict leaves nothing and ends in the error that it means. -/
theorem block_performs_of_none (described : transition? args = some transition)
    (accepted : block.compile .defaults catalog location = .ok compiled)
    (undecided : block.verdict? .defaults (answers args) = none) (place : Location)
    (outbox : Outbox) :
    ∃ error,
      (compiled.run (variablesTable.instanceOf transition) (actionsTable.instanceOf ())
          place).perform outbox = (.error error, outbox) ∧
      (block.meaning .defaults (answers args) block.conditionSets.length place).run =
        some (.error error) := by
  obtain ⟨ended, evaluated, verdict, means⟩ := conditions_perform described accepted place outbox
  rw [undecided] at verdict
  cases ended with
  | error error => exact ⟨error, Effect.perform_bind_of_error evaluated, means⟩
  | ok result => exact nomatch verdict

/-! ### Through the blocks -/

/-- A run over blocks takes its course, leaves what the course leaves and tells of it. -/
theorem runBlocks_performs (described : transition? args = some transition) (stop : Bool)
    {blocks : List RuleBlock} {compiledBlocks : List CompiledBlock}
    (correspond : List.Forall₂ (fun block compiledBlock =>
        block.compile .defaults catalog { location with block := some block.id } =
          .ok compiledBlock)
      blocks compiledBlocks) (outbox : Outbox) :
    ∃ ended,
      (runBlocks stop (variablesTable.instanceOf transition) (actionsTable.instanceOf ()) location
          compiledBlocks).perform outbox =
        (ended, sharedOutbox.written outbox
          ((Course.through stop (·.verdict? .defaults (answers args)) blocks).deliveries args)) ∧
      (Course.through stop (·.verdict? .defaults (answers args)) blocks).EndsIn args location
        (ended.map (·.1)) := by
  induction correspond generalizing outbox with
  | nil => exact ⟨.ok ([], false), rfl, rfl, rfl⟩
  | @cons block compiledBlock blocks compiledBlocks accepted _ inductionHypothesis =>
    unfold runBlocks Course.through
    rw [RuleBlock.id_of_compile accepted]
    cases decided : block.verdict? .defaults (answers args) with
    | none =>
      obtain ⟨error, failed, means⟩ := block_performs_of_none described accepted decided
        { location with block := some block.id } outbox
      exact ⟨.error error, Effect.perform_bind_of_error failed, block, rfl, means⟩
    | some holds =>
      have finished := block_performs_of_some described accepted decided
        { location with block := some block.id } outbox
      have sameStop : ((Course.outcomeOf (block, holds)).triggered && stop) = (holds && stop) := rfl
      simp only [Course.deliveries_cons, sharedOutbox.written_append]
      rw [Effect.perform_bind_of_ok finished, sameStop]
      by_cases stops : (holds && stop) = true
      · rw [if_pos stops, if_pos stops]
        exact ⟨.ok ([Course.outcomeOf (block, holds)], true), rfl, rfl, rfl⟩
      · rw [if_neg stops, if_neg stops]
        obtain ⟨ended, performed, ends⟩ := inductionHypothesis (sharedOutbox.written outbox
          (if holds then block.actions.flatMap (deliveries args) else []))
        refine ⟨ended.map fun told => (Course.outcomeOf (block, holds) :: told.1, told.2), ?_, ?_⟩
        · rw [Effect.perform_bind, performed]
          cases ended <;> rfl
        · have told := ends.cons (block, holds)
          cases ended <;> exact told

end Blocks

/-! ### Through a rule set -/

instance (args : EventArgs) : Decidable (∃ fields, Describes args fields) :=
  decidable_of_iff ((transition? args).isSome = true) <| by
    rw [← not_iff_not, ← transition?_eq_none_iff, Option.not_isSome_iff_eq_none]

namespace Loaded

variable (loaded : Loaded)

/-- The course that the rule set takes for an event; no block is gone through if nothing is
described. -/
def course (args : EventArgs) : Course :=
  if ∃ fields, Describes args fields then
    .through loaded.source.stopOnFirstTrigger (·.verdict? .defaults (answers args)) loaded.blocks
  else {}

/-- A trigger ends as its course does, or in the error that nothing is described. -/
def EndsIn (args : EventArgs) (ended : Except RuleError TriggerOutcome) : Prop :=
  if ∃ fields, Describes args fields then
    (loaded.course args).EndsIn args loaded.location (ended.map (·.blocks))
  else ended = .error loaded.nothingDescribed

/-- The trigger of an enabled rule set takes its course, leaves what the course leaves and ends as it
does. -/
theorem trigger_performs (enabled : loaded.source.enabled = true) (args : EventArgs)
    (outbox : Outbox) :
    ∃ ended, (loaded.compiled.trigger args).perform outbox =
        (ended, sharedOutbox.written outbox ((loaded.course args).deliveries args)) ∧
      loaded.EndsIn args ended := by
  unfold EndsIn course
  by_cases describes : ∃ fields, Describes args fields
  · simp only [if_pos describes]
    obtain ⟨fields, described⟩ := describes
    have described := transition?_eq_some_iff.mpr ⟨fields, described, rfl⟩
    obtain ⟨ended, performed, ends⟩ := runBlocks_performs described
      loaded.source.stopOnFirstTrigger loaded.assembled.2.2 outbox
    rw [loaded.trigger_of_described enabled described, Effect.perform_bind, performed]
    cases ended <;> exact ⟨_, rfl, ends⟩
  · simp only [if_neg describes]
    rw [loaded.trigger_of_undescribed enabled (transition?_eq_none_iff.mpr describes)]
    exact ⟨_, rfl, rfl⟩

/-- Only actions that are offered are in the blocks of a rule set that was accepted. -/
theorem offered {block : RuleBlock} (inBlocks : block ∈ loaded.blocks) {action : Action}
    (inBlock : action ∈ block.actions) :
    action.actionMethod ∈ actionsTable.toProvider.actions := by
  obtain ⟨compiledBlock, -, accepted⟩ := exists_mem_of_forall₂ loaded.assembled.2.2 inBlocks
  obtain ⟨-, _, _, -, -, correspond, -⟩ := RuleBlock.compile_eq_ok_iff.mp accepted
  obtain ⟨compiledAction, -, actionAccepted⟩ := exists_mem_of_forall₂ correspond inBlock
  exact (Action.compile_eq_ok_iff.mp actionAccepted).1

/-- A trigger that ends well tells of as many actions as it left things. -/
theorem EndsIn.sum_actionsRun {loaded : Loaded} {outcome : TriggerOutcome}
    (ends : loaded.EndsIn args (.ok outcome)) :
    (outcome.blocks.map (·.actionsRun)).sum = ((loaded.course args).deliveries args).length := by
  unfold EndsIn at ends
  split at ends
  · next described =>
    have blocks : outcome.blocks = (loaded.course args).finished.map Course.outcomeOf := ends.2
    rw [blocks, Course.sum_actionsRun, Course.length_deliveries fun block held action inBlock => ?_]
    refine Sales.length_deliveries (loaded.offered ?_ inBlock)
    rw [course, if_pos described] at held
    exact Course.mem_of_triggered held
  · exact nomatch ends

/-- What the report of a dispatch tells of a rule set. -/
def Reported (event : Event) (loaded : Loaded) (entry : DispatchResult) : Prop :=
  entry.ruleSetId = loaded.source.id ∧ loaded.EndsIn event.args entry.result

/-- What is left of an event by rule sets, in their order. -/
def leftBy (loads : List Loaded) (event : Event) : List Delivery :=
  (loads.filter (·.compiled.Concerns event)).flatMap fun loaded =>
    (loaded.course event.args).deliveries event.args

/-- Enabled rule sets are triggered one after another, leave what their courses leave and end as
these do. -/
theorem triggers_perform {loads : List Loaded}
    (enabled : ∀ loaded ∈ loads, loaded.source.enabled = true) (event : Event) (outbox : Outbox) :
    ∃ results,
      Triggers event.args (loads.map (·.compiled)) outbox results
        (sharedOutbox.written outbox
          (loads.flatMap fun loaded => (loaded.course event.args).deliveries event.args)) ∧
      List.Forall₂ (Reported event) loads results := by
  induction loads generalizing outbox with
  | nil => exact ⟨[], .nil outbox, .nil⟩
  | cons loaded others inductionHypothesis =>
    obtain ⟨ended, performed, ends⟩ :=
      loaded.trigger_performs (enabled loaded List.mem_cons_self) event.args outbox
    obtain ⟨results, triggers, reported⟩ := inductionHypothesis
      (fun other member => enabled other (List.mem_cons_of_mem loaded member)) _
    refine ⟨⟨loaded.compiled.id, ended⟩ :: results, ?_, .cons ⟨loaded.id_eq, ends⟩ reported⟩
    rw [List.flatMap_cons, sharedOutbox.written_append]
    exact .cons performed triggers

/-- A dispatch leaves what the rule sets leave that the event concerns, and reports each of them. -/
theorem dispatch_performs (loads : List Loaded) (event : Event) (outbox : Outbox) :
    ∃ results,
      ((DispatchTable.build (loads.map (·.compiled))).dispatch event).run outbox =
        (⟨event.signal, results⟩, sharedOutbox.written outbox (leftBy loads event)) ∧
      List.Forall₂ (Reported event) (loads.filter (·.compiled.Concerns event)) results := by
  have enabled : ∀ loaded ∈ loads.filter (·.compiled.Concerns event),
      loaded.source.enabled = true := by
    intro loaded member
    have concerns := of_decide_eq_true (List.mem_filter.mp member).2
    exact loaded.enabled_eq.symm.trans concerns.1
  obtain ⟨results, triggers, reported⟩ := triggers_perform enabled event outbox
  refine ⟨results, DispatchTable.dispatch_build_run_of_triggers ?_, reported⟩
  rw [List.filter_map]
  exact triggers

/-- What a run over events leaves, and what it reports. -/
theorem run_performs (loads : List Loaded) (events : List Event) (outbox : Outbox) :
    ∃ reports,
      (events.mapM (DispatchTable.build (loads.map (·.compiled))).dispatch).run outbox =
        (reports, sharedOutbox.written outbox (events.flatMap (leftBy loads))) ∧
      List.Forall₂ (fun event report => report.signal = event.signal ∧
          List.Forall₂ (Reported event) (loads.filter (·.compiled.Concerns event)) report.results)
        events reports := by
  induction events generalizing outbox with
  | nil => exact ⟨[], rfl, .nil⟩
  | cons event others inductionHypothesis =>
    obtain ⟨results, dispatched, reported⟩ := dispatch_performs loads event outbox
    obtain ⟨reports, ran, othersReported⟩ :=
      inductionHypothesis (sharedOutbox.written outbox (leftBy loads event))
    refine ⟨⟨event.signal, results⟩ :: reports, ?_, .cons ⟨rfl, reported⟩ othersReported⟩
    rw [List.flatMap_cons, sharedOutbox.written_append]
    exact run_mapM_cons dispatched ran

end Loaded

/-! ### Whole runs -/

theorem messages_written (outbox : Outbox) (left : List Delivery) :
    (sharedOutbox.written outbox left).messages = outbox.messages ++ left.filterMap Sum.getLeft? := by
  induction left generalizing outbox with
  | nil => exact (List.append_nil _).symm
  | cons delivery others inductionHypothesis =>
    refine (inductionHypothesis _).trans ?_
    cases delivery with
    | inl message => exact List.append_assoc outbox.messages [message] _
    | inr entry => rfl

theorem changeLog_written (outbox : Outbox) (left : List Delivery) :
    (sharedOutbox.written outbox left).changeLog =
      outbox.changeLog ++ left.filterMap Sum.getRight? := by
  induction left generalizing outbox with
  | nil => exact (List.append_nil _).symm
  | cons delivery others inductionHypothesis =>
    refine (inductionHypothesis _).trans ?_
    cases delivery with
    | inl message => rfl
    | inr entry => exact List.append_assoc outbox.changeLog [entry] _

/-- A run over events appends to the outbox what the actions leave that are executed, and nothing
else: the events in order, for each the rule sets it concerns in the order in which they were loaded,
for each of these the blocks that hold, and the actions of each block, every one of which leaves one
message or one entry of the change log. The reports tell of the same blocks and of as many actions;
where a block fails, what was left before is told of by nobody and stays. -/
theorem outbox_accounts (loads : List Loaded) (events : List Event) (before : Outbox) :
    let left := events.flatMap fun event =>
      (loads.filter (·.compiled.Concerns event)).flatMap fun loaded =>
        (loaded.course event.args).triggered.flatMap fun block =>
          block.actions.flatMap (deliveries event.args)
    ∃ reports after,
      (events.mapM (DispatchTable.build (loads.map (·.compiled))).dispatch).run before =
        (reports, after) ∧
      after.messages = before.messages ++ left.filterMap Sum.getLeft? ∧
      after.changeLog = before.changeLog ++ left.filterMap Sum.getRight? ∧
      (∀ loaded ∈ loads, ∀ block ∈ loaded.blocks, ∀ action ∈ block.actions, ∀ args,
        (deliveries args action).length = 1) ∧
      List.Forall₂ (fun event report =>
          report.signal = event.signal ∧
          List.Forall₂ (fun loaded entry =>
              entry.ruleSetId = loaded.source.id ∧ loaded.EndsIn event.args entry.result ∧
              ∀ outcome, entry.result = .ok outcome →
                (outcome.blocks.map (·.actionsRun)).sum =
                  ((loaded.course event.args).deliveries event.args).length)
            (loads.filter (·.compiled.Concerns event)) report.results)
        events reports := by
  intro left
  obtain ⟨reports, ran, reported⟩ := Loaded.run_performs loads events before
  refine ⟨reports, _, ran, messages_written before left, changeLog_written before left,
    fun loaded _ block inBlocks action inBlock args =>
      length_deliveries (loaded.offered inBlocks inBlock), ?_⟩
  refine reported.imp fun event report told => ⟨told.1, told.2.imp fun loaded entry entryTold => ?_⟩
  obtain ⟨sameId, ends⟩ := entryTold
  refine ⟨sameId, ends, fun outcome ended => ?_⟩
  rw [ended] at ends
  exact ends.sum_actionsRun

end Sales

/-- A rule set whose first block sends a message and logs the spot with the number seven, and whose
second block cannot be compared if no target is named. -/
def RuleSet.spotBreaks : RuleSet :=
  { RuleSet.spotChanges with
    ruleBlocks := [{
      id := "first"
      name := "first"
      enabled := true
      conditionSets := [{
        id := "set"
        name := "set"
        conditions := [⟨"spot", "get_spot_id", [], "eq", some "7"⟩] }]
      actions := [
        ⟨"send", "send_slack_message", [("channel", .null), ("text", .bool true)]⟩,
        ⟨"log", "create_system_change_log", []⟩] }, {
      id := "second"
      name := "second"
      enabled := true
      conditionSets := [{
        id := "set"
        name := "set"
        conditions := [⟨"target", "get_target_name", [], "lt", some "b"⟩] }]
      actions := [⟨"log", "create_system_change_log", []⟩] }] }

/-- The first block sends its message and logs, and both stay although the second block fails. -/
theorem Sales.outbox_accounts_spotBreaks :
    let event : Event := ⟨"", ⟨.map [("instance", .map [("spot", .map [("id", .integer 7)])])]⟩⟩
    ∃ loaded : Loaded, loaded.source = .spotBreaks ∧
      (loaded.course event.args).broken.map (·.id) = some "second" ∧
      ∀ before, ∃ reports after,
        ([event].mapM (DispatchTable.build [loaded.compiled]).dispatch).run before =
          (reports, after) ∧
        after.messages = before.messages ++ [⟨"Dynamic Sales Transition Bot", "#sales", "true",
          "https://i.imgur.com/uxUK5.jpg"⟩] ∧
        after.changeLog.length = before.changeLog.length + 1 := by
  intro event
  obtain ⟨loaded, isSource⟩ := Loaded.exists_of_isOk
    (show ((compilerAt 0).compile .spotBreaks).1.isOk = true by decide +kernel)
  have course : loaded.course event.args =
      .through false (·.verdict? .defaults (answers event.args)) RuleSet.spotBreaks.ruleBlocks := by
    have described : ∃ fields, Describes event.args fields := ⟨_, _, rfl, rfl⟩
    rw [Loaded.course, if_pos described, Loaded.blocks, isSource]
    rfl
  have concerns : [loaded].filter (·.compiled.Concerns event) = [loaded] := by
    refine List.filter_eq_self.mpr fun other member => decide_eq_true ?_
    obtain rfl := List.mem_singleton.mp member
    rw [other.assembled.2.1]
    unfold Compiler.assemble
    rw [isSource]
    exact ⟨rfl, rfl, nofun⟩
  refine ⟨loaded, isSource, ?_, fun before => ?_⟩
  · rw [course]
    decide +kernel
  · obtain ⟨reports, after, ran, messages, changeLog, -⟩ := outbox_accounts [loaded] [event] before
    refine ⟨reports, after, ran, ?_, ?_⟩
    · rw [messages]
      simp only [List.flatMap_singleton, concerns, course]
      refine congrArg _ ?_
      decide +kernel
    · rw [changeLog, List.length_append]
      simp only [List.flatMap_singleton, concerns, course]
      refine congrArg _ ?_
      decide +kernel

end Rulebook
