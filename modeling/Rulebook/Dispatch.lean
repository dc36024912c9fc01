/-
This file sends events to rule sets. A table lists the enabled rule sets by the signal they listen
to. An event triggers, in the order in which they were loaded, the rule sets listed for its signal
whose demands on the arguments are met. A failure stays with its rule set: it is reported, and the
next rule set is triggered all the same.
-/
import Rulebook.Trigger

namespace Rulebook

variable {World : Type}

/-- Enabled rule sets by signal; those of one signal in the order in which they were loaded. -/
structure DispatchTable (World : Type) where
  bySignal : Fields (List (CompiledRuleSet World)) := []

namespace DispatchTable

/-- A table without rule sets. -/
def empty : DispatchTable World := {}

/-- The rule sets that listen to a signal. -/
def ruleSetsFor (table : DispatchTable World) (signal : String) : List (CompiledRuleSet World) :=
  (table.bySignal.find? signal).getD []

/-- The table with one more rule set, if that is enabled. -/
def add (table : DispatchTable World) (ruleSet : CompiledRuleSet World) : DispatchTable World :=
  if ruleSet.enabled then
    ⟨table.bySignal.insert ruleSet.signal (table.ruleSetsFor ruleSet.signal ++ [ruleSet])⟩
  else table

/-- The table of the enabled ones among some rule sets. -/
def build (ruleSets : List (CompiledRuleSet World)) : DispatchTable World :=
  ruleSets.foldl add empty

/-- The signals that rule sets listen to, in order. -/
def signals (table : DispatchTable World) : List String := table.bySignal.names

/-- The number of rule sets. -/
def size (table : DispatchTable World) : Nat :=
  table.bySignal.foldr (fun entry others => entry.2.length + others) 0

/-- Whether there is no signal at all. -/
def isEmpty (table : DispatchTable World) : Bool := table.bySignal.isEmpty

end DispatchTable

/-! ### Reports -/

/-- How the trigger of one rule set ended. -/
structure DispatchResult where
  ruleSetId : String
  result : Except RuleError TriggerOutcome

/-- How the triggers of an event ended, in order. -/
structure DispatchReport where
  signal : String
  results : List DispatchResult := []

namespace DispatchReport

/-- The rule sets that failed, each with its error. -/
def failures (report : DispatchReport) : List (String × RuleError) :=
  report.results.filterMap fun entry =>
    match entry.result with
    | .ok _ => none
    | .error error => some (entry.ruleSetId, error)

/-- Whether a rule set failed. -/
def hasFailures (report : DispatchReport) : Bool := !report.failures.isEmpty

/-- The rule sets in which a block held. -/
def triggeredRuleSets (report : DispatchReport) : List String :=
  report.results.filterMap fun entry =>
    match entry.result with
    | .ok outcome => if outcome.anyTriggered then some entry.ruleSetId else none
    | .error _ => none

end DispatchReport

/-! ### Dispatching -/

/-- Whether the arguments of an event have the values that a rule set insists on. -/
def CompiledRuleSet.accepts (ruleSet : CompiledRuleSet World) (args : EventArgs) : Bool :=
  ruleSet.signalKwargs.all fun (path, expected) => (args.value path).same expected

/-- Triggers a rule set and keeps how that ended. -/
def CompiledRuleSet.report (ruleSet : CompiledRuleSet World) (args : EventArgs) :
    StateM World DispatchResult := do
  return ⟨ruleSet.id, ← (ruleSet.trigger args).outcome⟩

/-- Sends an event to the rule sets of a table. -/
def DispatchTable.dispatch (table : DispatchTable World) (event : Event) :
    StateM World DispatchReport := do
  let matching := (table.ruleSetsFor event.signal).filter (·.accepts event.args)
  return ⟨event.signal, ← matching.mapM (·.report event.args)⟩

end Rulebook
