/-
This file compares the trigger of a rule set that stops at the first block that holds with the
trigger of the same rule set that goes on. Stopping only cuts the trigger short: up to the point
where one stops, both do the same to their providers, whatever state those keep.

The two triggers are run side by side on providers that take notes. They make the same instances and
go through the same blocks, and after a block that held one has come to its end while the other may
only add to its notes. So if the one that goes on ends well, the other ends well earlier and reports
the blocks up to the first that held; and if the one that stops fails, no block had held before the
one it failed in, so the other fails there too, and the actions of one block are all that was run.
-/
import Rulebook.Proofs.Contacts
import Rulebook.Proofs.Passage

namespace Rulebook

variable {World : Type}

/-! ### Outcomes that are cut short -/

/-- The blocks up to the first one that held. -/
def BlockOutcome.upToTriggered : List BlockOutcome → List BlockOutcome
  | [] => []
  | outcome :: rest => if outcome.triggered then [outcome] else outcome :: upToTriggered rest

/-- What the trigger does that stops at the first block that holds. -/
def TriggerOutcome.cutShort (outcome : TriggerOutcome) : TriggerOutcome :=
  { outcome with
    stoppedEarly := outcome.anyTriggered
    blocks := BlockOutcome.upToTriggered outcome.blocks }

/-- The rule set, made to stop at the first block that holds or not to. -/
def CompiledRuleSet.stopping (ruleSet : CompiledRuleSet World) (stop : Bool) :
    CompiledRuleSet World :=
  { ruleSet with stopOnFirstTrigger := stop }

/-! ### One run cut short -/

/-- The first step does what the second one does, but may come to its end earlier: its notes are the
first ones of the other; where the other ends well it does too, with less to report; and where it
fails the other fails in the same way. -/
structure Effect.CutsShort {Error Result : Type}
    (cut whole : Effect (World × Notes World) Error Result) (shorter : Result → Result) : Prop where
  notes : ∀ before, (cut.perform before).2.2 <+: (whole.perform before).2.2
  succeeds : ∀ before result after, whole.perform before = (.ok result, after) →
    ∃ reached, cut.perform before = (.ok (shorter result), reached)
  fails : ∀ before error after, cut.perform before = (.error error, after) →
    whole.perform before = (.error error, after)

namespace Effect.CutsShort

variable {Error First Second : Type}

theorem pure {result : First} {shorter : First → First} (same : shorter result = result) :
    Effect.CutsShort (Pure.pure result : Effect (World × Notes World) Error First)
      (Pure.pure result) shorter where
  notes _ := List.prefix_refl _
  succeeds before other after ended := by
    obtain ⟨done, -⟩ := Prod.mk.inj ended
    obtain rfl := Except.ok.inj done
    exact ⟨before, by rw [same]; rfl⟩
  fails _ _ _ failed := failed

/-- The one has come to its end, the other goes on and adds to the notes. -/
theorem ended {whole : Effect (World × Notes World) Error First} {step : Effect World Error First}
    {told : Except Error First → List Deed → Prop} (beside : whole.Beside step told)
    {result : First} {shorter : First → First}
    (same : ∀ before other after, whole.perform before = (.ok other, after) →
      shorter other = result) : Effect.CutsShort (Pure.pure result) whole shorter where
  notes := by
    rintro ⟨before, notes⟩
    obtain ⟨more, ends, -⟩ := beside before notes
    rw [ends]
    exact List.prefix_append notes more
  succeeds before other after ended := ⟨before, by rw [same before other after ended]; rfl⟩
  fails _ _ _ impossible := nomatch impossible

/-- Both take the same first step. -/
theorem bind (step : Effect (World × Notes World) Error First)
    {cut whole : First → Effect (World × Notes World) Error Second} {shorter : Second → Second}
    (rest : ∀ result, (cut result).CutsShort (whole result) shorter) :
    Effect.CutsShort (step >>= cut) (step >>= whole) shorter where
  notes before := by
    rw [Effect.perform_bind, Effect.perform_bind]
    rcases step.perform before with ⟨error | result, reached⟩
    · exact List.prefix_refl _
    · exact (rest result).notes reached
  succeeds before result after ended := by
    obtain ⟨first, reached, went, ended⟩ := Effect.perform_bind_eq_ok_iff.mp ended
    rw [Effect.perform_bind_of_ok went]
    exact (rest first).succeeds reached result after ended
  fails before error after failed := by
    rcases Effect.perform_bind_eq_error_iff.mp failed with
      stepFailed | ⟨first, reached, went, failed⟩
    · exact Effect.perform_bind_of_error stepFailed
    · rw [Effect.perform_bind_of_ok went]
      exact (rest first).fails reached error after failed

/-- What is made of the results of both says no more of the shorter one. -/
theorem map {cut whole : Effect (World × Notes World) Error First} {shorter : First → First}
    (alike : cut.CutsShort whole shorter) {present : First → Second} {shorterNext : Second → Second}
    (same : ∀ result, shorterNext (present result) = present (shorter result)) :
    Effect.CutsShort (cut >>= fun result => Pure.pure (present result))
      (whole >>= fun result => Pure.pure (present result)) shorterNext where
  notes before := by
    have unchanged (step : Effect (World × Notes World) Error First) :
        (Effect.perform (step >>= fun result => Pure.pure (present result)) before).2 =
          (step.perform before).2 := by
      rw [Effect.perform_bind]
      rcases step.perform before with ⟨error | result, reached⟩ <;> rfl
    rw [unchanged, unchanged]
    exact alike.notes before
  succeeds before result after ended := by
    obtain ⟨first, reached, went, done⟩ := Effect.perform_bind_eq_ok_iff.mp ended
    obtain ⟨cutReached, cutWent⟩ := alike.succeeds before first reached went
    obtain rfl := Except.ok.inj (Prod.mk.inj done).1
    exact ⟨cutReached, by rw [same, Effect.perform_bind_of_ok cutWent]; rfl⟩
  fails before error after failed := by
    rw [Effect.perform_bind_pure_eq_error_iff] at failed ⊢
    exact alike.fails before error after failed

end Effect.CutsShort

/-! ### Through the blocks -/

/-- What a run over blocks tells when it stops at the first block that holds. -/
def upToTriggered (told : List BlockOutcome × Bool) : List BlockOutcome × Bool :=
  (BlockOutcome.upToTriggered told.1, told.1.any (·.triggered))

/-- A block that held ends the one run, and the other one only adds to its notes; after a block that
did not hold both go on. -/
theorem runBlocks_cutsShort (vars : VariablesInstance World) (actions : ActionsInstance World)
    (location : Location) (blocks : List CompiledBlock) :
    Effect.CutsShort (runBlocks true vars.noted actions.noted location blocks)
      (runBlocks false vars.noted actions.noted location blocks) upToTriggered := by
  induction blocks with
  | nil => exact .pure rfl
  | cons block rest inductionHypothesis =>
    refine .bind _ fun outcome => ?_
    rw [Bool.and_true, Bool.and_false, if_neg Bool.false_ne_true]
    by_cases triggered : outcome.triggered = true
    · rw [if_pos triggered]
      have last (told : List BlockOutcome × Bool) : Effect.Beside
          (pure (outcome :: told.1, told.2) : Effect (World × Notes World) RuleError _)
          (pure (outcome :: told.1, told.2)) anyDeeds := .pure trivial
      have goesOn := (runBlocks_beside false vars actions location rest).bind_anyDeeds last
      refine .ended goesOn fun before told after ended => ?_
      obtain ⟨others, reached, -, done⟩ := Effect.perform_bind_eq_ok_iff.mp ended
      obtain rfl := Except.ok.inj (Prod.mk.inj done).1
      simp [upToTriggered, BlockOutcome.upToTriggered, triggered]
    · rw [if_neg triggered]
      refine inductionHypothesis.map fun told => ?_
      simp [upToTriggered, BlockOutcome.upToTriggered, triggered]

/-! ### A failure after blocks that did not hold -/

/-- Blocks that did not hold run no actions, and the block that fails after them runs at most its
own, from the first one on. -/
theorem Finishes.deeds_of_error {ruleSetId : String} {vars : VariablesInstance World}
    {actions : ActionsInstance World} {finished : List (CompiledBlock × Bool)}
    {before current after : World} {block : CompiledBlock} {error : RuleError}
    (finishes : Finishes ruleSetId vars actions finished before current)
    (silent : ∀ entry ∈ finished, entry.2 = false)
    (failed : (block.run vars actions (block.place ruleSetId)).perform current =
      (.error error, after)) (stop : Bool) (left : List CompiledBlock) (notes : Notes World) :
    ∃ more,
      (runBlocks stop vars.noted actions.noted { ruleSet := some ruleSetId }
        (finished.map (·.1) ++ block :: left)).perform (before, notes) =
          (.error error, after, notes ++ more) ∧
      Notes.deeds more <+: block.deeds := by
  induction finishes generalizing notes with
  | none =>
    obtain ⟨more, ends, deeds, -⟩ :=
      (block.run_beside vars actions (block.place ruleSetId)).exists_more failed notes
    exact ⟨more, Effect.perform_bind_of_error ends, deeds⟩
  | @block other holds rest before decided acted after conditions decision acts _
      inductionHypothesis =>
    obtain rfl : holds = false := silent _ List.mem_cons_self
    have went := CompiledBlock.run_eq_ok_iff.mpr ⟨false, decided, decision, acts, rfl⟩
    obtain ⟨more, ends, -, deeds⟩ :=
      (other.run_beside vars actions (other.place ruleSetId)).exists_more went notes
    obtain ⟨others, restEnds, restDeeds⟩ := inductionHypothesis
      (fun entry member => silent entry (List.mem_cons_of_mem _ member)) failed (notes ++ more)
    refine ⟨more ++ others, ?_, ?_⟩
    · refine (Effect.perform_bind_of_ok ends).trans ?_
      rw [← List.append_assoc]
      exact Effect.perform_bind_of_error restEnds
    · rw [Notes.deeds_append, deeds _ rfl rfl]
      exact restDeeds

/-! ### Through a rule set -/

namespace CompiledRuleSet

variable (ruleSet : CompiledRuleSet World) (args : EventArgs)

/-- The triggers make the same instances and go through the same blocks. -/
theorem trigger_cutsShort :
    Effect.CutsShort ((ruleSet.stopping true).noted.trigger args)
      ((ruleSet.stopping false).noted.trigger args) TriggerOutcome.cutShort := by
  rw [trigger_noted, trigger_noted]
  by_cases enabled : ruleSet.enabled = true
  · rw [if_pos (show (ruleSet.stopping true).enabled = true from enabled),
      if_pos (show (ruleSet.stopping false).enabled = true from enabled)]
    refine .bind (ruleSet.makeVariables args) fun vars => ?_
    refine .bind (ruleSet.makeActions args) fun actions => ?_
    exact (runBlocks_cutsShort vars actions _ _).map fun told => rfl
  · rw [if_neg (show ¬ (ruleSet.stopping true).enabled = true from enabled),
      if_neg (show ¬ (ruleSet.stopping false).enabled = true from enabled)]
    exact .pure rfl

/-- How a trigger fails that stops at the first block that holds. -/
inductive FailsInOne (ruleSet : CompiledRuleSet World) (args : EventArgs) (before : World)
    (error : RuleError) (after : World) : Prop where
  /-- An instance was not made, and no action was run. -/
  | making (deeds : Notes.deeds (ruleSet.notes args before) = []) :
      FailsInOne ruleSet args before error after
  /-- The blocks up to the failing one did not hold, and all actions that were run are its own. -/
  | inside {passage : Passage World} {block : CompiledBlock} {left : List CompiledBlock}
      {current : World} (reaches : passage.Reaches ruleSet args before (block :: left) current)
      (silent : ∀ entry ∈ passage.finished, entry.2 = false)
      (fails : (block.run passage.vars passage.actions (block.place ruleSet.id)).perform current =
        (.error error, after))
      (deeds : Notes.deeds (ruleSet.notes args before) <+: block.deeds) :
      FailsInOne ruleSet args before error after

variable {ruleSet args}

/-- The instances are made and noted, and then a block fails. -/
theorem FailsInOne.of_runBlocks {vars : VariablesInstance World} {actions : ActionsInstance World}
    {before middle ready after : World} {error : RuleError} (enabled : ruleSet.enabled = true)
    (stops : ruleSet.stopOnFirstTrigger = true)
    (varsMade : (ruleSet.constructVariables args).perform before = (.ok vars, middle))
    (actionsMade : (ruleSet.constructActions args).perform middle = (.ok actions, ready))
    (failed : (runBlocks ruleSet.stopOnFirstTrigger vars actions ruleSet.location
      ruleSet.blocks).perform ready = (.error error, after)) :
    ruleSet.FailsInOne args before error after := by
  obtain ⟨finished, block, left, current, shape, finishes, silent, fails⟩ :=
    finishes_of_runBlocks_error failed
  have reaches : Passage.Reaches ⟨vars, actions, ready, finished⟩ ruleSet args before
      (block :: left) current := {
    starts := ⟨middle, Effect.perform_located_eq_ok_iff.mp varsMade,
      Effect.perform_located_eq_ok_iff.mp actionsMade⟩
    finishes := finishes
    blocks := shape }
  obtain ⟨made, makes, quiet⟩ := (ruleSet.makeVariables_beside args).exists_more varsMade []
  obtain ⟨more, makesToo, quietToo⟩ :=
    (ruleSet.makeActions_beside args).exists_more actionsMade ([] ++ made)
  obtain ⟨others, ends, deeds⟩ := finishes.deeds_of_error (silent stops) fails
    ruleSet.stopOnFirstTrigger left ([] ++ made ++ more)
  rw [← shape] at ends
  have notedFails : (ruleSet.noted.trigger args).perform (before, []) =
      (.error error, after, [] ++ made ++ more ++ others) := by
    rw [trigger_noted, if_pos enabled, Effect.perform_bind_of_ok makes,
      Effect.perform_bind_of_ok makesToo]
    exact Effect.perform_bind_of_error ends
  refine .inside reaches (silent stops) fails ?_
  rw [notes, notedFails, List.nil_append, Notes.deeds_append, Notes.deeds_append, quiet, quietToo,
    List.nil_append, List.nil_append]
  exact deeds

theorem failsInOne {before after : World} {error : RuleError}
    (stops : ruleSet.stopOnFirstTrigger = true)
    (failed : (ruleSet.trigger args).perform before = (.error error, after)) :
    ruleSet.FailsInOne args before error after := by
  have enabled : ruleSet.enabled = true := by
    by_contra disabled
    rw [trigger_of_not_enabled (Bool.eq_false_iff.mpr disabled)] at failed
    exact nomatch failed
  have noted := ruleSet.trigger_noted args
  rw [if_pos enabled] at noted
  rw [trigger, if_pos enabled] at failed
  rcases Effect.perform_bind_eq_error_iff.mp failed with
    varsFailed | ⟨vars, middle, varsMade, failed⟩
  · obtain ⟨made, makes, quiet⟩ := (ruleSet.makeVariables_beside args).exists_more varsFailed []
    refine .making ?_
    rw [notes, noted, Effect.perform_bind_of_error makes]
    exact quiet
  rcases Effect.perform_bind_eq_error_iff.mp failed with
    actionsFailed | ⟨actions, ready, actionsMade, failed⟩
  · obtain ⟨made, makes, quiet⟩ := (ruleSet.makeVariables_beside args).exists_more varsMade []
    obtain ⟨more, fails, quietToo⟩ :=
      (ruleSet.makeActions_beside args).exists_more actionsFailed ([] ++ made)
    refine .making ?_
    rw [notes, noted, Effect.perform_bind_of_ok makes, Effect.perform_bind_of_error fails]
    show Notes.deeds ([] ++ made ++ more) = []
    rw [List.nil_append, Notes.deeds_append, quiet, quietToo, List.nil_append]
  have blocksFailed := Effect.perform_bind_pure_eq_error_iff.mp failed
  exact .of_runBlocks enabled stops varsMade actionsMade blocksFailed

/-- A rule set that stops at the first block that holds does the same as one that does not, only
less of it. All that is done to the providers is noted, and the notes of the one are the first notes
of the other. If the one that goes on ends well, so does the other, and tells of the blocks up to
the first that held. If the one that stops fails, the other fails with the same error after the same
contacts, and the actions of one block are all that was run. -/
theorem stopping_cuts_short (ruleSet : CompiledRuleSet World) (args : EventArgs) (before : World) :
    (∀ stop, ((ruleSet.stopping stop).noted.trigger args).perform (before, []) =
      ((((ruleSet.stopping stop).trigger args).perform before).1,
        (((ruleSet.stopping stop).trigger args).perform before).2,
        (ruleSet.stopping stop).notes args before)) ∧
    (ruleSet.stopping true).notes args before <+: (ruleSet.stopping false).notes args before ∧
    (∀ outcome after,
      ((ruleSet.stopping false).trigger args).perform before = (.ok outcome, after) →
        ∃ reached, ((ruleSet.stopping true).trigger args).perform before =
          (.ok outcome.cutShort, reached)) ∧
    ∀ error after, ((ruleSet.stopping true).trigger args).perform before = (.error error, after) →
      ((ruleSet.stopping false).trigger args).perform before = (.error error, after) ∧
      (ruleSet.stopping false).notes args before = (ruleSet.stopping true).notes args before ∧
      (ruleSet.stopping true).FailsInOne args before error after := by
  have short := ruleSet.trigger_cutsShort args
  have notedCut := (ruleSet.stopping true).perform_trigger_noted args before
  have notedWhole := (ruleSet.stopping false).perform_trigger_noted args before
  refine ⟨fun stop => perform_trigger_noted _ args before, short.notes (before, []),
    fun outcome after ended => ?_, fun error after failed => ?_⟩
  · rw [ended] at notedWhole
    obtain ⟨reached, cutEnded⟩ := short.succeeds _ _ _ notedWhole
    rw [cutEnded] at notedCut
    obtain ⟨same, -⟩ := Prod.mk.inj notedCut
    exact ⟨_, Prod.ext same.symm rfl⟩
  · rw [failed] at notedCut
    rw [short.fails _ _ _ notedCut] at notedWhole
    obtain ⟨sameEnd, same⟩ := Prod.mk.inj notedWhole
    obtain ⟨sameWorld, sameNotes⟩ := Prod.mk.inj same
    exact ⟨Prod.ext sameEnd.symm sameWorld.symm, sameNotes.symm, failsInOne rfl failed⟩

/-- The recording rule set with its block twice. -/
def recordingTwice (methods : List String) : CompiledRuleSet (List String) :=
  { recording methods with blocks := (recording methods).blocks ++ (recording methods).blocks }

theorem stopping_cuts_short_recordingTwice :
    let cut := (recordingTwice ["first"]).stopping true
    let whole := (recordingTwice ["first"]).stopping false
    let broken := (recordingTwice ["first", "break"]).stopping true
    cut.notes {} [] <+: whole.notes {} [] ∧
      (whole.trigger {}).perform [] =
        (.ok { ruleSetId := "recording", blocks := [⟨"block", true, 1⟩, ⟨"block", true, 1⟩] },
          ["variables", "actions", "ready", "first", "ready", "first"]) ∧
      (∃ reached, (cut.trigger {}).perform [] =
        (.ok { ruleSetId := "recording", stoppedEarly := true, blocks := [⟨"block", true, 1⟩] },
          reached)) ∧
      ∃ error after, (broken.trigger {}).perform [] = (.error error, after) ∧
        broken.FailsInOne {} [] error after := by
  have first := stopping_cuts_short (recordingTwice ["first"]) {} []
  have broken := stopping_cuts_short (recordingTwice ["first", "break"]) {} []
  exact ⟨first.2.1, rfl, first.2.2.1 _ _ rfl, _, _, rfl, (broken.2.2.2 _ _ rfl).2.2⟩

example : ((recordingTwice ["first"]).stopping true).notes {} [] =
    (((recordingTwice ["first"]).stopping false).notes {} []).take 4 := rfl

end CompiledRuleSet

end Rulebook
