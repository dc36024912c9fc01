/-
This file writes what became of rule sets as JSON, for those who keep a record of it: the outcomes
of triggers and of their blocks, and what the sales actions left for delivery.
-/
import Rulebook.Sales
import Rulebook.Trigger

namespace Rulebook

/-- The JSON value of what a block did. -/
def BlockOutcome.toJson (outcome : BlockOutcome) : Json := .map [
  ("block_id", .text outcome.blockId),
  ("triggered", .bool outcome.triggered),
  ("actions_run", .integer outcome.actionsRun)]

/-- The JSON value of what a trigger did. -/
def TriggerOutcome.toJson (outcome : TriggerOutcome) : Json := .map [
  ("rule_set_id", .text outcome.ruleSetId),
  ("skipped", .bool outcome.skipped),
  ("stopped_early", .bool outcome.stoppedEarly),
  ("blocks", .list (outcome.blocks.map BlockOutcome.toJson))]

namespace Sales

/-- The JSON value of a message. -/
def Message.toJson (message : Message) : Json := .map [
  ("username", .text message.username),
  ("channel", .text message.channel),
  ("text", .text message.text),
  ("icon_url", .text message.iconUrl)]

/-- The JSON value of an entry of the change log. -/
def ChangeLogEntry.toJson (entry : ChangeLogEntry) : Json := .map [
  ("spot_id", entry.spotId.toJson),
  ("source_name", entry.sourceName.toJson),
  ("target_name", entry.targetName.toJson)]

end Sales

end Rulebook
