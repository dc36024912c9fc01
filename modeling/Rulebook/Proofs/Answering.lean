/-
This file accounts for a run over some input. Every line that is not blank gets one summary, and the
summary is that of this line alone: of an event, what the rule sets that it triggers came to, and of
anything else, an error. Whatever goes wrong with a line, the next one is answered in the world that
was left.

What is written for the summaries is cut at its newlines into one line for each, since the line of
a summary holds no control characters. A reader finds in it one object with what the summary says.
-/
import Rulebook.Proofs.Dispatch
import Rulebook.Proofs.Lines
import Rulebook.Proofs.Written
import Rulebook.Sales

namespace Rulebook

variable {World : Type}

/-! ### What becomes of a rule set -/

namespace DispatchResult

/-- The rule set, if it succeeded and one of its blocks held. -/
def triggered? (entry : DispatchResult) : Option String :=
  match entry.result with
  | .ok outcome => if outcome.blocks.any (·.triggered) then some entry.ruleSetId else none
  | .error _ => none

/-- The rule set and its error, if it failed. -/
def failure? (entry : DispatchResult) : Option String :=
  match entry.result with
  | .ok _ => none
  | .error error => some (entry.ruleSetId ++ ": " ++ error.message)

theorem triggered?_eq_none_or (entry : DispatchResult) :
    entry.triggered? = none ∨ entry.failure? = none := by
  unfold triggered? failure?
  cases entry.result with
  | ok outcome => exact .inr rfl
  | error error => exact .inl rfl

/-- Every rule set is counted among those with a block that held or among those that failed, or
neither. -/
theorem length_triggered?_add_le (results : List DispatchResult) :
    (results.filterMap triggered?).length + (results.filterMap failure?).length ≤
      results.length := by
  induction results with
  | nil => exact Nat.le_refl 0
  | cons entry rest inductionHypothesis =>
    rw [List.filterMap_cons, List.filterMap_cons, List.length_cons]
    rcases entry.triggered?_eq_none_or with nothing | nothing
    · rw [nothing]
      cases entry.failure? <;> simp only [List.length_cons] <;> omega
    · rw [nothing]
      cases entry.triggered? <;> simp only [List.length_cons] <;> omega

end DispatchResult

/-! ### Lines of summaries -/

namespace EventSummary

/-- A report is summed up by what becomes of its rule sets. -/
theorem ofReport_eq (report : DispatchReport) :
    ofReport report = {
      signal := report.signal
      ruleSets := report.results.length
      triggered := report.results.filterMap DispatchResult.triggered?
      failures := report.results.filterMap DispatchResult.failure? } := by
  have failed : (ofReport report).failures =
      report.results.filterMap DispatchResult.failure? := by
    unfold ofReport DispatchReport.failures
    rw [List.map_filterMap]
    refine congrArg (List.filterMap · report.results) (funext fun entry => ?_)
    unfold DispatchResult.failure?
    cases entry.result <;> rfl
  rw [← failed]
  rfl

/-- What a reader finds in the line of a summary, where it finds some number of rule sets. -/
def entries (summary : EventSummary) (count : Option Numeral) : List (Option String × Document) :=
  let texts (items : List String) : Document := .list (items.map fun item => .text (some item))
  [(some "signal", .text (some summary.signal)),
    (some "rule_sets", .number count),
    (some "triggered", texts summary.triggered),
    (some "failures", texts summary.failures)] ++
  summary.error.toList.map fun error => (some "error", .text (some error))

theorem document_toJson (summary : EventSummary) :
    summary.toJson.document =
      .object (summary.entries (WrittenNumber.ofInt summary.ruleSets).numeral?) := by
  have texts (items : List String) : Json.itemDocuments (items.map .text) =
      items.map fun item => .text (some item) := by
    rw [Json.itemDocuments_eq_map, List.map_map]
    rfl
  unfold toJson entries
  cases summary.error <;> simp [Json.document, Json.fieldDocuments, texts]

/-- A summary holds texts and a number of rule sets, but no doubles. -/
theorem everyReal_toJson (holds : Number → Prop) (summary : EventSummary) :
    summary.toJson.EveryReal holds := by
  have texts (items : List String) : Json.EveryItemReal holds (items.map .text) := by
    refine Json.everyItemReal_iff.mpr fun item member => ?_
    obtain ⟨text, -, rfl⟩ := List.mem_map.mp member
    trivial
  unfold toJson
  cases summary.error with
  | none => exact ⟨trivial, trivial, texts _, texts _, trivial⟩
  | some error => exact ⟨trivial, trivial, texts _, texts _, trivial, trivial⟩

/-- The line of a summary holds an object with what the summary says. -/
theorem ofText?_line (summary : EventSummary) :
    ∃ count, Document.ofText? summary.line = some (.object (summary.entries count)) ∧
      (summary.ruleSets < 2 ^ 64 → count = some (.integer summary.ruleSets)) := by
  refine ⟨(WrittenNumber.ofInt summary.ruleSets).numeral?, ?_, fun small => ?_⟩
  · rw [← document_toJson]
    exact summary.toJson.ofText?_render (summary.everyReal_toJson _)
  · exact WrittenNumber.numeral?_ofInt (by omega) (by omega)

theorem printed_line (summary : EventSummary) : Printed summary.line.toList := by
  unfold line Json.render
  rw [String.toList_ofList]
  exact Json.printed_chars _

end EventSummary

namespace Transcript

/-- What is written is cut at its newlines into the lines of the summaries; nothing follows the last
newline. -/
theorem splitOn_written (transcript : Transcript) :
    transcript.written.toList.splitOn '\n' =
      transcript.summaries.map (fun summary => summary.line.toList) ++ [[]] := by
  unfold written
  induction transcript.summaries with
  | nil => rfl
  | cons summary rest inductionHypothesis =>
    have oneLine : '\n' ∉ summary.line.toList := fun inside =>
      absurd (summary.printed_line '\n' inside) (by decide)
    rw [List.map_cons, String.join_cons, String.toList_append, String.toList_append,
      List.append_assoc]
    show (summary.line.toList ++ '\n' :: _).splitOn '\n' = _
    rw [List.splitOn_append_cons_self_of_not_mem oneLine]
    exact congrArg (List.cons _) inductionHypothesis

theorem failures_ofSummaries (summaries : List EventSummary) :
    (ofSummaries summaries).failures = summaries.countP fun summary =>
      summary.error ≠ none ∨ summary.failures ≠ [] := by
  refine List.countP_congr fun summary _ => ?_
  simp [EventSummary.isFailure, Option.isSome_iff_ne_none]

end Transcript

/-! ### Answers -/

namespace Host

/-- What is said about a line that is answered in some world, and the world that is left. -/
inductive Summarizes (host : Host World) (line : String) (before : World) :
    EventSummary → World → Prop where
  /-- The line does not hold an event. -/
  | invalid (reason : String) (unreadable : Event.ofText? line = none) :
      Summarizes host line before
        { signal := "", ruleSets := 0, triggered := [], failures := [], error := some reason } before
  /-- The line holds an event, and the rule sets are triggered. -/
  | event {event : Event} {results : List DispatchResult} {after : World}
      (read : Event.ofText? line = some event)
      (triggers : Triggers event.args
        ((host.table.ruleSetsFor event.signal).filter (·.accepts event.args)) before results after) :
      Summarizes host line before
        { signal := event.signal
          ruleSets := results.length
          triggered := results.filterMap DispatchResult.triggered?
          failures := results.filterMap DispatchResult.failure?
          error := none } after

/-- Lines are answered one after another, each in the world that the one before it left. -/
inductive Answers (host : Host World) :
    List String → World → List EventSummary → World → Prop where
  | nil (world : World) : Answers host [] world [] world
  | cons {line : String} {lines : List String} {before reached after : World}
      {summary : EventSummary} {summaries : List EventSummary}
      (first : host.Summarizes line before summary reached)
      (rest : Answers host lines reached summaries after) :
      Answers host (line :: lines) before (summary :: summaries) after

/-- A line is answered with the summary of this line. -/
theorem exists_summarizes (host : Host World) (line : String) (before : World) :
    ∃ summary after, (host.answer line).run before = (summary, after) ∧
      host.Summarizes line before summary after := by
  unfold answer summarizeLine
  cases read : Event.ofText? line with
  | none => exact ⟨_, before, rfl, .invalid _ read⟩
  | some event =>
    obtain ⟨results, after, triggers⟩ := Triggers.exists_of_ruleSets event.args
      ((host.table.ruleSetsFor event.signal).filter (·.accepts event.args)) before
    have dispatched := DispatchTable.dispatch_run_of_triggers triggers
    refine ⟨.ofReport ⟨event.signal, results⟩, after, ?_, ?_⟩
    · unfold DispatchTable.handle
      simp only [StateT.run_bind, dispatched]
      rfl
    · rw [EventSummary.ofReport_eq]
      exact .event read triggers

/-- Lines are answered one after another. -/
theorem exists_answers (host : Host World) (lines : List String) (before : World) :
    ∃ summaries after, (lines.mapM host.answer).run before = (summaries, after) ∧
      host.Answers lines before summaries after := by
  induction lines generalizing before with
  | nil => exact ⟨[], before, rfl, .nil before⟩
  | cons line rest inductionHypothesis =>
    obtain ⟨summary, reached, answered, first⟩ := host.exists_summarizes line before
    obtain ⟨summaries, after, othersAnswered, others⟩ := inductionHypothesis reached
    exact ⟨summary :: summaries, after, run_mapM_cons answered othersAnswered, .cons first others⟩

namespace Summarizes

variable {host : Host World} {line : String} {before after : World} {summary : EventSummary}

/-- A rule set is counted once at most. -/
theorem length_add_le (summarizes : host.Summarizes line before summary after) :
    summary.triggered.length + summary.failures.length ≤ summary.ruleSets := by
  cases summarizes with
  | invalid reason unreadable => exact Nat.le_refl 0
  | event read triggers => exact DispatchResult.length_triggered?_add_le _

end Summarizes

namespace Answers

variable {host : Host World} {lines : List String} {before after : World}
  {summaries : List EventSummary}

/-- Every line has its summary. -/
theorem length_eq (answers : host.Answers lines before summaries after) :
    summaries.length = lines.length := by
  induction answers with
  | nil => rfl
  | cons first rest inductionHypothesis =>
    rw [List.length_cons, List.length_cons, inductionHypothesis]

theorem exists_summarizes (answers : host.Answers lines before summaries after) :
    ∀ summary ∈ summaries, ∃ line ∈ lines, ∃ reached left,
      host.Summarizes line reached summary left := by
  induction answers with
  | nil => exact nofun
  | cons first rest inductionHypothesis =>
    intro summary member
    rcases List.mem_cons.mp member with rfl | later
    · exact ⟨_, List.mem_cons_self, _, _, first⟩
    · obtain ⟨line, inside, reached, left, summarizes⟩ := inductionHypothesis summary later
      exact ⟨line, List.mem_cons_of_mem _ inside, reached, left, summarizes⟩

end Answers

/-- A run over a text answers its lines one after another, blank ones left out, and is not broken.
What it writes are the lines of the summaries, each an object without a line break. It counts the
summaries, and those with an error or a failure; of a rule set it counts a block that held or a
failure, not both. -/
theorem run_accounts (host : Host World) (text : String) (before : World) :
    ∃ transcript after,
      (host.run false text.toUTF8).run before = (transcript, after) ∧
      transcript.broken = false ∧
      host.Answers (textLines text) before transcript.summaries after ∧
      transcript.summaries.length = (textLines text).length ∧
      transcript.written.toList.splitOn '\n' =
        transcript.summaries.map (fun summary => summary.line.toList) ++ [[]] ∧
      (∀ summary ∈ transcript.summaries,
        Printed summary.line.toList ∧
        (∃ count, Document.ofText? summary.line = some (.object (summary.entries count)) ∧
          (summary.ruleSets < 2 ^ 64 → count = some (.integer summary.ruleSets))) ∧
        summary.triggered.length + summary.failures.length ≤ summary.ruleSets) ∧
      (∀ entry : DispatchResult, entry.triggered? = none ∨ entry.failure? = none) ∧
      transcript.events = transcript.summaries.length ∧
      transcript.failures = transcript.summaries.countP fun summary =>
        summary.error ≠ none ∨ summary.failures ≠ [] := by
  obtain ⟨summaries, after, answered, answers⟩ := host.exists_answers (textLines text) before
  refine ⟨.ofSummaries summaries, after, ?_, rfl, answers, answers.length_eq,
    Transcript.splitOn_written _, ?_, DispatchResult.triggered?_eq_none_or, rfl,
    Transcript.failures_ofSummaries _⟩
  · unfold run
    rw [if_neg Bool.false_ne_true, answerLines_toUTF8, StateT.run_bind, answered]
    rfl
  · intro summary member
    obtain ⟨line, -, reached, left, summarizes⟩ := answers.exists_summarizes summary member
    exact ⟨summary.printed_line, summary.ofText?_line, summarizes.length_add_le⟩

/-- A blank line, a line that is no event, and an event. -/
def sampleText : String := " \nnothing\n\x7b\"signal\": \"moved\"\x7d\r\n"

theorem run_accounts_sampleText :
    ∃ transcript after reason,
      (({ compiler := Sales.compiler } : Host Sales.Outbox).run false sampleText.toUTF8).run {} =
        (transcript, after) ∧
      transcript.summaries = [{ signal := "", error := some reason }, { signal := "moved" }] ∧
      transcript.failures = 1 := by
  obtain ⟨⟨summaries, events, failed, broken⟩, after, ran, -, answers, -, -, -, -, -, failures⟩ :=
    run_accounts ({ compiler := Sales.compiler } : Host Sales.Outbox) sampleText {}
  have lines : textLines sampleText = ["nothing", "\x7b\"signal\": \"moved\"\x7d"] := by
    decide +kernel
  have nothing : (Event.ofText? "nothing").isSome = false := by decide +kernel
  have moved : (Event.ofText? "\x7b\"signal\": \"moved\"\x7d").map (·.signal) = some "moved" := by
    decide +kernel
  rw [lines] at answers
  obtain _ | ⟨first, _ | ⟨second, _ | _⟩⟩ := answers
  cases first with
  | event read triggers =>
    rw [read] at nothing
    exact nomatch nothing
  | invalid reason unreadable =>
    cases second with
    | invalid reason unreadable =>
      rw [unreadable] at moved
      exact nomatch moved
    | @event event results _ read triggers =>
      -- No rule set is loaded, so none is triggered.
      obtain rfl : results = [] := List.length_eq_zero_iff.mp triggers.length_eq
      rw [read] at moved
      have signal : event.signal = "moved" := Option.some.inj moved
      rw [signal] at ran failures
      exact ⟨_, after, reason, ran, rfl, failures⟩

end Host

end Rulebook
