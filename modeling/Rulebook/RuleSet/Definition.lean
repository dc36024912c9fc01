/-
This file reads rule sets and events from JSON and writes them back. An object may leave out the
fields that have a default and may have fields of other names, which are not looked at; a field
that is repeated is an error. The fields may also be given as a list in their fixed order, without
the last ones that have a default. An identifier that is left out is a fresh one, and a time that
is left out is the present.
-/
import Rulebook.RuleSet
import Rulebook.Event

namespace Rulebook

/-- What stands for an identifier or a time that a definition leaves out. The identifier depends
on the position of the entity: its place in each enclosing list. -/
structure Absent where
  fresh : List Nat → String
  now : Timestamp

/-! ### Records -/

namespace Document

/-- The entries of an object whose names are wanted; none if one of these is repeated or a name is
not a text. -/
def wantedEntries? (names : List String) :
    List (Option String × Document) → Option (List (String × Document))
  | [] => some []
  | (none, _) :: _ => none
  | (some name, entry) :: rest => do
    let others ← wantedEntries? names rest
    if !names.contains name then some others
    else if (others.lookup name).isSome then none
    else some ((name, entry) :: others)

/-- The fields of a record: the entries of an object, or the items of a list in the order of the
names. -/
def fields? (names : List String) : Document → Option (List (String × Document))
  | .object entries => wantedEntries? names entries
  | .list items => if items.length ≤ names.length then some (names.zip items) else none
  | _ => none

/-- The text that is written. -/
def asText? : Document → Option String
  | .text characters => characters
  | _ => none

/-- The Boolean that is written. -/
def asBool? : Document → Option Bool
  | .bool value => some value
  | _ => none

/-- The items of a list that nests at most `room` deep, each read with its position and what room
is left. -/
def asList? {α : Type} (room : Nat) (read : Nat → Nat → Document → Option α) :
    Document → Option (List α)
  | .list items =>
    match room with
    | 0 => none
    | room + 1 => items.zipIdx.mapM fun (item, index) => read room index item
  | _ => none

/-- Keyword arguments: an object of values. -/
def asKwargs? (room : Nat) (document : Document) : Option Kwargs :=
  match Value.ofDocument? room document with
  | some (.map fields) => some fields
  | _ => none

end Document

/-- The fields of a record that is read. -/
abbrev Record := List (String × Document)

namespace Record

/-- A field that must be there. -/
def required {α : Type} (record : Record) (name : String) (read : Document → Option α) :
    Option α :=
  (List.lookup name record).bind read

/-- A field with a default. -/
def withDefault {α : Type} (record : Record) (name : String) (default : α)
    (read : Document → Option α) : Option α :=
  match List.lookup name record with
  | none => some default
  | some document => read document

/-- A field that may be left out or be null. -/
def optional {α : Type} (record : Record) (name : String) (read : Document → Option α) :
    Option (Option α) :=
  match List.lookup name record with
  | none => some none
  | some .null => some none
  | some document => (read document).map some

end Record

/-! ### Reading -/

/-- A record that nests at most `room` deep, read with the room left inside it. -/
def Document.asRecord? {α : Type} (names : List String) (room : Nat)
    (read : Nat → Record → Option α) (document : Document) : Option α :=
  match room with
  | 0 => none
  | room + 1 => (document.fields? names).bind (read room)

namespace Condition

/-- The names of the fields of a condition, in order. -/
def fieldNames : List String :=
  ["id", "property_method", "property_kwargs", "comparison_operator", "value"]

/-- The condition that a document defines. -/
def ofDocument? (absent : Absent) (path : List Nat) (room : Nat) (document : Document) :
    Option Condition :=
  document.asRecord? fieldNames room fun room record => do
    let id ← record.withDefault "id" (absent.fresh path) Document.asText?
    let propertyMethod ← record.required "property_method" Document.asText?
    let propertyKwargs ← record.withDefault "property_kwargs" [] (Document.asKwargs? room)
    let comparisonOperator ← record.required "comparison_operator" Document.asText?
    let value ← record.optional "value" Document.asText?
    return { id, propertyMethod, propertyKwargs, comparisonOperator, value }

end Condition

namespace Action

/-- The names of the fields of an action, in order. -/
def fieldNames : List String := ["id", "action_method", "action_kwargs"]

/-- The action that a document defines. -/
def ofDocument? (absent : Absent) (path : List Nat) (room : Nat) (document : Document) :
    Option Action :=
  document.asRecord? fieldNames room fun room record => do
    let id ← record.withDefault "id" (absent.fresh path) Document.asText?
    let actionMethod ← record.required "action_method" Document.asText?
    let actionKwargs ← record.withDefault "action_kwargs" [] (Document.asKwargs? room)
    return { id, actionMethod, actionKwargs }

end Action

namespace ConditionSet

/-- The names of the fields of a condition set, in order. -/
def fieldNames : List String := ["id", "name", "combination_rule", "parent", "conditions"]

/-- The condition set that a document defines. -/
def ofDocument? (absent : Absent) (path : List Nat) (room : Nat) (document : Document) :
    Option ConditionSet :=
  document.asRecord? fieldNames room fun room record => do
    let id ← record.withDefault "id" (absent.fresh path) Document.asText?
    let name ← record.required "name" Document.asText?
    let combinationRule ←
      record.withDefault "combination_rule" Combination.all.display Document.asText?
    let parent ← record.optional "parent" Document.asText?
    let conditions ← record.withDefault "conditions" [] <|
      Document.asList? room fun room index => Condition.ofDocument? absent (path ++ [index]) room
    return { id, name, combinationRule, parent, conditions }

end ConditionSet

namespace RuleBlock

/-- The names of the fields of a block, in order. -/
def fieldNames : List String := ["id", "name", "enabled", "condition_sets", "actions"]

/-- The block that a document defines. -/
def ofDocument? (absent : Absent) (path : List Nat) (room : Nat) (document : Document) :
    Option RuleBlock :=
  document.asRecord? fieldNames room fun room record => do
    let id ← record.withDefault "id" (absent.fresh path) Document.asText?
    let name ← record.required "name" Document.asText?
    let enabled ← record.withDefault "enabled" false Document.asBool?
    let conditionSets ← record.withDefault "condition_sets" [] <|
      Document.asList? room fun room index =>
        ConditionSet.ofDocument? absent (path ++ [0, index]) room
    let actions ← record.withDefault "actions" [] <|
      Document.asList? room fun room index => Action.ofDocument? absent (path ++ [1, index]) room
    return { id, name, enabled, conditionSets, actions }

end RuleBlock

/-- The point in time that a document writes. -/
def Document.asTimestamp? (document : Document) : Option Timestamp :=
  document.asText?.bind Timestamp.ofText?

namespace RuleSet

/-- The names of the fields of a rule set, in order. -/
def fieldNames : List String :=
  ["id", "name", "enabled", "notes", "signal", "signal_kwargs", "stop_on_first_trigger",
    "variables_provider", "actions_provider", "rule_blocks", "created_at", "updated_at"]

/-- The rule set that a document defines. -/
def ofDocument? (absent : Absent) (path : List Nat) (room : Nat) (document : Document) :
    Option RuleSet :=
  document.asRecord? fieldNames room fun room record => do
    let id ← record.withDefault "id" (absent.fresh path) Document.asText?
    let name ← record.required "name" Document.asText?
    let enabled ← record.withDefault "enabled" false Document.asBool?
    let notes ← record.optional "notes" Document.asText?
    let signal ← record.withDefault "signal" "" Document.asText?
    let signalKwargs ← record.withDefault "signal_kwargs" [] (Document.asKwargs? room)
    let stopOnFirstTrigger ← record.withDefault "stop_on_first_trigger" false Document.asBool?
    let variablesProvider ← record.required "variables_provider" Document.asText?
    let actionsProvider ← record.required "actions_provider" Document.asText?
    let ruleBlocks ← record.withDefault "rule_blocks" [] <|
      Document.asList? room fun room index => RuleBlock.ofDocument? absent (path ++ [index]) room
    let createdAt ← record.withDefault "created_at" absent.now Document.asTimestamp?
    let updatedAt ← record.withDefault "updated_at" absent.now Document.asTimestamp?
    return { id, name, enabled, notes, signal, signalKwargs, stopOnFirstTrigger,
             variablesProvider, actionsProvider, ruleBlocks, createdAt, updatedAt }

/-- The rule set that a text defines. -/
def ofText? (absent : Absent) (text : String) : Option RuleSet :=
  (Document.ofText? text).bind (ofDocument? absent [] Json.nestingLimit)

end RuleSet

namespace Event

/-- The names of the fields of an event, in order. -/
def fieldNames : List String := ["signal", "args"]

/-- The event that a document describes. -/
def ofDocument? (room : Nat) (document : Document) : Option Event :=
  document.asRecord? fieldNames room fun room record => do
    let signal ← record.required "signal" Document.asText?
    let data ← record.withDefault "args" .null (Json.ofDocument? room)
    return { signal, args := ⟨data⟩ }

/-- The event that a text describes. -/
def ofText? (text : String) : Option Event :=
  (Document.ofText? text).bind (ofDocument? Json.nestingLimit)

end Event

/-! ### Writing -/

/-- A text or null. -/
def Json.ofOptionalText : Option String → Json
  | none => .null
  | some characters => .text characters

/-- Keyword arguments as an object. -/
def Kwargs.toJson (kwargs : Kwargs) : Json := .map (Value.toJsonFields kwargs)

/-- The JSON value of a condition. -/
def Condition.toJson (condition : Condition) : Json := .map [
  ("id", .text condition.id),
  ("property_method", .text condition.propertyMethod),
  ("property_kwargs", Kwargs.toJson condition.propertyKwargs),
  ("comparison_operator", .text condition.comparisonOperator),
  ("value", Json.ofOptionalText condition.value)]

/-- The JSON value of an action. -/
def Action.toJson (action : Action) : Json := .map [
  ("id", .text action.id),
  ("action_method", .text action.actionMethod),
  ("action_kwargs", Kwargs.toJson action.actionKwargs)]

/-- The JSON value of a condition set. -/
def ConditionSet.toJson (set : ConditionSet) : Json := .map [
  ("id", .text set.id),
  ("name", .text set.name),
  ("combination_rule", .text set.combinationRule),
  ("parent", Json.ofOptionalText set.parent),
  ("conditions", .list (set.conditions.map Condition.toJson))]

/-- The JSON value of a block. -/
def RuleBlock.toJson (block : RuleBlock) : Json := .map [
  ("id", .text block.id),
  ("name", .text block.name),
  ("enabled", .bool block.enabled),
  ("condition_sets", .list (block.conditionSets.map ConditionSet.toJson)),
  ("actions", .list (block.actions.map Action.toJson))]

/-- The JSON value of a rule set. -/
def RuleSet.toJson (ruleSet : RuleSet) : Json := .map [
  ("id", .text ruleSet.id),
  ("name", .text ruleSet.name),
  ("enabled", .bool ruleSet.enabled),
  ("notes", Json.ofOptionalText ruleSet.notes),
  ("signal", .text ruleSet.signal),
  ("signal_kwargs", Kwargs.toJson ruleSet.signalKwargs),
  ("stop_on_first_trigger", .bool ruleSet.stopOnFirstTrigger),
  ("variables_provider", .text ruleSet.variablesProvider),
  ("actions_provider", .text ruleSet.actionsProvider),
  ("rule_blocks", .list (ruleSet.ruleBlocks.map RuleBlock.toJson)),
  ("created_at", .text ruleSet.createdAt.display),
  ("updated_at", .text ruleSet.updatedAt.display)]

/-- The JSON value of an event. -/
def Event.toJson (event : Event) : Json := .map [
  ("signal", .text event.signal),
  ("args", event.args.data)]

end Rulebook
