/-
This file says how far a run over some input comes, whatever bytes the input holds and however the
handling of events ends: in time or not, or in a breakdown. No event interrupts the run, and no line
that holds something else. A line that is not valid UTF-8 does. So the input is cut in front of the
first such line. All lines before it get their summaries, blank ones left out, and those behind it
get none, events or not.
-/
import Rulebook.Proofs.Answering

namespace Rulebook

variable {World : Type}

/-! ### Replies -/

/-- Lines get their summaries one after another, each in the world that the one before it left,
where `handle` answers an event within `limit` milliseconds. -/
inductive Replies (handle : Event → StateM World Completion) (limit : Nat) :
    List String → World → List EventSummary → World → Prop where
  | nil (world : World) : Replies handle limit [] world [] world
  /-- A line that does not hold an event. -/
  | invalid {line : String} {lines : List String} {before after : World}
      {summaries : List EventSummary} (reason : String) (unreadable : Event.ofText? line = none)
      (rest : Replies handle limit lines before summaries after) :
      Replies handle limit (line :: lines) before
        ({ signal := "", error := some reason } :: summaries) after
  /-- A line that holds an event, whatever its handling came to. -/
  | event {line : String} {lines : List String} {event : Event} {completion : Completion}
      {before reached after : World} {summaries : List EventSummary}
      (read : Event.ofText? line = some event)
      (handled : (handle event).run before = (completion, reached))
      (rest : Replies handle limit lines reached summaries after) :
      Replies handle limit (line :: lines) before
        (completion.summary event.signal limit :: summaries) after

namespace Replies

variable {handle : Event → StateM World Completion} {limit : Nat} {lines : List String}
  {before after : World} {summaries : List EventSummary}

/-- Every line has its summary. -/
theorem length_eq (replies : Replies handle limit lines before summaries after) :
    summaries.length = lines.length := by
  induction replies with
  | nil => rfl
  | invalid reason unreadable rest inductionHypothesis =>
    rw [List.length_cons, List.length_cons, inductionHypothesis]
  | event read handled rest inductionHypothesis =>
    rw [List.length_cons, List.length_cons, inductionHypothesis]

/-- Summing up lines one after another is replying to them. -/
theorem exists_of_lines (handle : Event → StateM World Completion) (limit : Nat)
    (lines : List String) (before : World) :
    ∃ summaries after, (lines.mapM (summarizeLine handle limit)).run before = (summaries, after) ∧
      Replies handle limit lines before summaries after := by
  induction lines generalizing before with
  | nil => exact ⟨[], before, rfl, .nil before⟩
  | cons line rest inductionHypothesis =>
    cases read : Event.ofText? line with
    | none =>
      obtain ⟨summaries, after, answered, replies⟩ := inductionHypothesis before
      have refused : (summarizeLine handle limit line).run before =
          (.ofError "" (.invalidEvent "not an event"), before) := by
        unfold summarizeLine
        rw [read]
        rfl
      exact ⟨_, after, run_mapM_cons refused answered, .invalid _ read replies⟩
    | some event =>
      obtain ⟨summaries, after, answered, replies⟩ :=
        inductionHypothesis ((handle event).run before).2
      have summed : (summarizeLine handle limit line).run before =
          (((handle event).run before).1.summary event.signal limit,
            ((handle event).run before).2) := by
        unfold summarizeLine
        rw [read]
        rfl
      exact ⟨_, after, run_mapM_cons summed answered, .event read rfl replies⟩

end Replies

/-! ### Up to the first line that is not UTF-8 -/

/-- Lines are valid UTF-8, all of them or those in front of the first one that is not. -/
theorem exists_decoded_front (lines : List (List UInt8)) :
    ∃ (front behind : List (List UInt8)) (texts : List String),
      lines = front ++ behind ∧ front.map lineText? = texts.map some ∧
      (behind = [] ∨
        ∃ illegible rest, behind = illegible :: rest ∧ lineText? illegible = none) := by
  induction lines with
  | nil => exact ⟨[], [], [], rfl, rfl, .inl rfl⟩
  | cons line rest inductionHypothesis =>
    cases read : lineText? line with
    | none => exact ⟨[], line :: rest, [], rfl, rfl, .inr ⟨line, rest, rfl, read⟩⟩
    | some text =>
      obtain ⟨front, behind, texts, rfl, decoded, shape⟩ := inductionHypothesis
      refine ⟨line :: front, behind, text :: texts, rfl, ?_, shape⟩
      rw [List.map_cons, List.map_cons, read, decoded]

namespace Host

/-- A run over any bytes answers the lines up to the first that is not UTF-8, blank ones left out,
whatever these lines hold and however the handling of their events ends, and counts what it
answers. It is broken off there, if there is such a line. A service that handles events in time is a
case of this. -/
theorem answers_until_illegible (handle : Event → StateM World Completion) (limit : Nat)
    (input : ByteArray) (before : World) :
    (∀ host : Host World, host.table.handle = handle → host.limit = limit →
      host.run false input =
        answerLines (summarizeLine handle limit) (splitLines input.data.toList)) ∧
    ∃ (front behind : List (List UInt8)) (texts : List String) (summaries : List EventSummary)
        (after : World),
      splitLines input.data.toList = front ++ behind ∧
      front.map lineText? = texts.map some ∧
      (behind = [] ∨ ∃ illegible rest, behind = illegible :: rest ∧ lineText? illegible = none) ∧
      (answerLines (summarizeLine handle limit) (splitLines input.data.toList)).run before =
        ({ summaries
           events := summaries.length
           failures := summaries.countP (·.isFailure)
           broken := !behind.isEmpty }, after) ∧
      Replies handle limit (texts.filter (!·.isEmpty)) before summaries after := by
  constructor
  · rintro host rfl rfl
    rfl
  · obtain ⟨front, behind, texts, parts, decoded, shape⟩ :=
      exists_decoded_front (splitLines input.data.toList)
    obtain ⟨summaries, after, answered, replies⟩ :=
      Replies.exists_of_lines handle limit (texts.filter (!·.isEmpty)) before
    refine ⟨front, behind, texts, summaries, after, parts, decoded, shape, ?_, replies⟩
    have broken : answerOnto (summarizeLine handle limit) (.ofSummaries summaries) behind =
        return { Transcript.ofSummaries summaries with broken := !behind.isEmpty } := by
      rcases shape with rfl | ⟨illegible, rest, rfl, unreadable⟩
      · rfl
      · rw [answerOnto, unreadable]
        rfl
    rw [parts, answerLines_append_of_decoded _ decoded, StateT.run_bind, answered]
    exact congrArg (StateT.run · after) broken

/-- A line that holds an event. -/
def movedLine : String := "\x7b\"signal\": \"moved\"\x7d"

/-- An event, a line that is not UTF-8, and an event. -/
def interruptedInput : ByteArray :=
  (movedLine ++ "\n").toUTF8 ++ ByteArray.mk #[255, 10] ++ (movedLine ++ "\n").toUTF8

theorem splitLines_interruptedInput :
    splitLines interruptedInput.data.toList =
      [movedLine.toUTF8.data.toList, [255], movedLine.toUTF8.data.toList] := by
  decide +kernel

theorem lineText?_movedLine : lineText? movedLine.toUTF8.data.toList = some movedLine := by
  decide +kernel

theorem lineText?_illegible : lineText? [255] = none := by decide +kernel

/-- The event in front of the line that is not UTF-8 has its summary, and nothing else has one. -/
theorem answers_until_illegible_interruptedInput :
    let host : Host Sales.Outbox := { compiler := Sales.compiler }
    ∃ summary after, (host.run false interruptedInput).run {} =
      ({ summaries := [summary]
         events := 1
         failures := [summary].countP (·.isFailure)
         broken := true }, after) := by
  intro host
  obtain ⟨answers, front, behind, texts, summaries, after, parts, decoded, shape, ran, replies⟩ :=
    answers_until_illegible host.table.handle host.limit interruptedInput {}
  rw [answers host rfl rfl]
  have lines := splitLines_interruptedInput.symm.trans parts
  obtain _ | ⟨first, _ | ⟨second, others⟩⟩ := front
  · -- The first line is UTF-8, so it is not where the run is broken off.
    obtain rfl : _ = behind := lines
    rcases shape with nothing | ⟨illegible, rest, same, unreadable⟩
    · exact nomatch nothing
    · obtain ⟨rfl, -⟩ := List.cons.inj same
      exact nomatch lineText?_movedLine.symm.trans unreadable
  · obtain ⟨rfl, rfl⟩ := List.cons.inj lines
    obtain ⟨text, _ | _, rfl, read, restDecoded⟩ := List.map_eq_cons_iff.mp decoded.symm
    · obtain rfl : movedLine = text :=
        Option.some.inj (lineText?_movedLine.symm.trans read.symm)
      have once := replies.length_eq
      obtain ⟨summary, rfl⟩ := List.length_eq_one_iff.mp once
      exact ⟨summary, after, ran⟩
    · exact nomatch restDecoded
  · obtain ⟨-, rest⟩ := List.cons.inj lines
    obtain ⟨rfl, -⟩ := List.cons.inj rest
    rw [List.map_cons, List.map_cons, lineText?_illegible] at decoded
    obtain ⟨text, texts, rfl, -, more⟩ := List.map_eq_cons_iff.mp decoded.symm
    obtain ⟨other, -, -, read, -⟩ := List.map_eq_cons_iff.mp more
    exact nomatch read

/-- A run ends at a line that is not UTF-8, and the event behind it is not answered. -/
theorem run_breaks_off_at_illegible :
    let input := ByteArray.mk #[255, 10] ++ (movedLine ++ "\n").toUTF8
    splitLines input.data.toList = [[255], movedLine.toUTF8.data.toList] ∧
      lineText? movedLine.toUTF8.data.toList = some movedLine ∧
      (Event.ofText? movedLine).isSome = true ∧
      (({ compiler := Sales.compiler } : Host Sales.Outbox).run false input).run {} =
        ({ summaries := [], broken := true }, {}) := by
  intro input
  have lines : splitLines input.data.toList = [[255], movedLine.toUTF8.data.toList] := by
    decide +kernel
  refine ⟨lines, lineText?_movedLine, by decide +kernel, ?_⟩
  rw [run, if_neg Bool.false_ne_true, lines, answerLines, answerOnto, lineText?_illegible]
  rfl

end Host

end Rulebook
