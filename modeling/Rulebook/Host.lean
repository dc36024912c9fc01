/-
This file holds the service around the rules: it keeps a table, replaces it when the rule file is
loaded again, and answers events. Events come as lines of JSON; every line that is not blank gets
one summary. What goes wrong with one line stays with that line, so the next one is read all the
same; only a line that is not valid UTF-8 ends the run.
-/
import Rulebook.RuleFile

namespace Rulebook

/-! ### Errors -/

/-- What can go wrong in the service. -/
inductive HostError where
  /-- The rule file could not be read. -/
  | ruleFile (path reason : String)
  /-- The rule file does not hold rule sets. -/
  | ruleSyntax (reason : String)
  /-- A line does not hold an event. -/
  | invalidEvent (reason : String)
  /-- An event took longer than it may. -/
  | timeout (signal : String) (milliseconds : Nat)
  /-- The handling of an event broke down. -/
  | taskFailed (reason : String)
  deriving DecidableEq

namespace HostError

/-- The name of a kind of error. -/
def status : HostError → String
  | .ruleFile .. => "rules_error"
  | .ruleSyntax .. => "rules_error"
  | .invalidEvent .. => "invalid_event"
  | .timeout .. => "timeout"
  | .taskFailed .. => "task_failed"

/-- The text of an error. -/
def message : HostError → String
  | .ruleFile path reason => s!"规则文件读取失败: {path}: {reason}"
  | .ruleSyntax reason => s!"规则文件解析失败: {reason}"
  | .invalidEvent reason => s!"事件解析失败: {reason}"
  | .timeout signal milliseconds =>
    s!"事件分发超时: 信号={signal}, 超时={toString milliseconds}ms"
  | .taskFailed reason => s!"分发任务异常退出: {reason}"

end HostError

/-! ### Summaries -/

/-- What is said about a line. -/
structure EventSummary where
  signal : String
  /-- How many rule sets were triggered. -/
  ruleSets : Nat := 0
  /-- The rule sets in which a block held. -/
  triggered : List String := []
  /-- The rule sets that failed, each with its error. -/
  failures : List String := []
  error : Option String := none
  deriving DecidableEq, Inhabited

namespace EventSummary

/-- The summary of a report. -/
def ofReport (report : DispatchReport) : EventSummary where
  signal := report.signal
  ruleSets := report.results.length
  triggered := report.triggeredRuleSets
  failures := report.failures.map fun (ruleSet, error) => s!"{ruleSet}: {error.message}"

/-- The summary of an event that could not be answered. -/
def ofError (signal : String) (error : HostError) : EventSummary :=
  { signal, error := some error.message }

/-- Whether something went wrong. -/
def isFailure (summary : EventSummary) : Bool :=
  summary.error.isSome || !summary.failures.isEmpty

/-- The JSON value of a summary; the error is left out if there is none. -/
def toJson (summary : EventSummary) : Json :=
  let texts (items : List String) : Json := .list (items.map .text)
  let always : List (String × Json) := [
    ("signal", .text summary.signal),
    ("rule_sets", .integer summary.ruleSets),
    ("triggered", texts summary.triggered),
    ("failures", texts summary.failures)]
  match summary.error with
  | none => .map always
  | some error => .map (always ++ [("error", .text error)])

/-- The line that is written for a summary. -/
def line (summary : EventSummary) : String := summary.toJson.render

end EventSummary

/-! ### Answering events -/

/-- How the handling of an event ended. -/
inductive Completion where
  | finished (report : DispatchReport)
  /-- The handling broke down. -/
  | crashed (reason : String)
  /-- The handling had not ended when its time was up. -/
  | overdue

/-- The summary of an event whose handling may take some milliseconds. -/
def Completion.summary (signal : String) (limit : Nat) : Completion → EventSummary
  | .finished report => .ofReport report
  | .crashed reason => .ofError signal (.taskFailed reason)
  | .overdue => .ofError signal (.timeout signal limit)

variable {World : Type}

/-- The summary of a line, where `handle` answers an event within `limit` milliseconds. -/
def summarizeLine (handle : Event → StateM World Completion) (limit : Nat) (line : String) :
    StateM World EventSummary :=
  match Event.ofText? line with
  | none => return .ofError "" (.invalidEvent "not an event")
  | some event => do return (← handle event).summary event.signal limit

/-- Answers an event from a table, in time. -/
def DispatchTable.handle (table : DispatchTable World) (event : Event) :
    StateM World Completion := do
  return .finished (← table.dispatch event)

/-! ### Lines -/

/-- The lines of some bytes. A line ends at a newline or at the end of the bytes; nothing after the
last newline is not a line. -/
def splitLines (bytes : List UInt8) : List (List UInt8) :=
  match bytes with
  | [] => []
  | byte :: rest =>
    if byte = 10 then [] :: splitLines rest
    else
      match splitLines rest with
      | [] => [[byte]]
      | line :: lines => (byte :: line) :: lines

/-- The text of a line; none if the bytes are not UTF-8. -/
def lineText? (line : List UInt8) : Option String :=
  (String.fromUTF8? (ByteArray.mk line.toArray)).map Text.trim

/-- What a run over some input gave. -/
structure Transcript where
  summaries : List EventSummary := []
  /-- How many lines were answered. -/
  events : Nat := 0
  /-- For how many lines something went wrong. -/
  failures : Nat := 0
  /-- Whether the run ended at a line that is not UTF-8. -/
  broken : Bool := false
  deriving DecidableEq

namespace Transcript

/-- The transcript with the summary of one more line, which is counted. -/
def add (transcript : Transcript) (summary : EventSummary) : Transcript :=
  { transcript with
    summaries := transcript.summaries ++ [summary]
    events := transcript.events + 1
    failures := if summary.isFailure then transcript.failures + 1 else transcript.failures }

/-- What is written: a line for every line that was answered. -/
def written (transcript : Transcript) : String :=
  String.join (transcript.summaries.map fun summary => summary.line ++ "\n")

end Transcript

/-- Goes on answering lines in order, blank ones left out, up to one that is not UTF-8. -/
def answerOnto (answer : String → StateM World EventSummary) (transcript : Transcript) :
    List (List UInt8) → StateM World Transcript
  | [] => return transcript
  | line :: rest =>
    match lineText? line with
    | none => return { transcript with broken := true }
    | some text => do
      if text.isEmpty then answerOnto answer transcript rest
      else answerOnto answer (transcript.add (← answer text)) rest

/-- Answers lines, with a transcript of these lines only. -/
def answerLines (answer : String → StateM World EventSummary) (lines : List (List UInt8)) :
    StateM World Transcript :=
  answerOnto answer {} lines

/-! ### The service -/

/-- The service: a compiler and the table in force. -/
structure Host (World : Type) where
  compiler : Compiler World
  table : DispatchTable World := {}
  /-- How many milliseconds the handling of an event may take. -/
  limit : Nat := 5000

namespace Host

/-- What is found where the rule file should be. -/
inductive RuleSource where
  /-- Nothing that can be read, and why. -/
  | missing (reason : String)
  | bytes (content : ByteArray)

/-- Loads the rule file and puts its table into force; tells how many rule sets that has. If the
file cannot be read or does not hold rule sets, nothing changes. -/
def reload (host : Host World) (absent : Absent) (path : String) (source : RuleSource) :
    Except HostError Nat × Host World :=
  match source with
  | .missing reason => (.error (.ruleFile path reason), host)
  | .bytes content =>
    match String.fromUTF8? content with
    | none => (.error (.ruleFile path "not UTF-8"), host)
    | some text =>
      match RuleFile.ofText? absent text with
      | none => (.error (.ruleSyntax "not a list of rule sets"), host)
      | some ruleSets =>
        let (report, compiler) := host.compiler.compileAll ruleSets
        (.ok report.table.size, { host with compiler, table := report.table })

/-- Takes all rule sets out of force. -/
def teardown (host : Host World) : Host World := { host with table := {} }

/-- Answers a line. -/
def answer (host : Host World) (line : String) : StateM World EventSummary :=
  summarizeLine host.table.handle host.limit line

/-- Answers the lines of some input. Nothing is read if the service is asked to stop before. -/
def run (host : Host World) (stopped : Bool) (input : ByteArray) : StateM World Transcript :=
  if stopped then return {} else answerLines host.answer (splitLines input.data.toList)

end Host

end Rulebook
