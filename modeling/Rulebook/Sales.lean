/-
This file holds the providers for sales transitions. An event describes the change of a spot from a
source stage to a target stage, under the name `instance`. The variables read that description; the
actions put messages and entries of a change log into an outbox, from which others deliver them.
-/
import Rulebook.Compiler

namespace Rulebook.Sales

/-- A message for a channel. -/
structure Message where
  username : String
  channel : String
  text : String
  iconUrl : String
  deriving DecidableEq

/-- An entry of the change log. -/
structure ChangeLogEntry where
  spotId : Value
  sourceName : Value
  targetName : Value

/-- What the actions have left for delivery, oldest first. -/
structure Outbox where
  messages : List Message := []
  changeLog : List ChangeLogEntry := []
  deriving Inhabited

/-- The name under which the variables are registered. -/
def variablesName : String := "sales_transition_variables"

/-- The name under which the actions are registered. -/
def actionsName : String := "sales_transition_actions"

/-! ### Variables -/

/-- The description of a transition in an event, which must be an object. -/
def transition? (args : EventArgs) : Option EventArgs :=
  match args.field? "instance" with
  | some (.map fields) => some ⟨.map fields⟩
  | _ => none

/-- Reads the description of a transition at a path. -/
def readAt {World : Type} (path : String) (transition : EventArgs) (_ : Kwargs) :
    Effect World ProviderError Value :=
  return transition.value path

/-- The variables of sales transitions. A spot is only compared for being the same or not. -/
def variablesTable {World : Type} : VariablesTable World EventArgs :=
  let start : VariablesTable World EventArgs := {
    build := fun args =>
      match transition? args with
      | some transition => return transition
      | none => throw (.invalidEvent "事件缺少 instance 对象") }
  start
    |>.restrictedAccessor "get_spot_id" ["eq", "ne"] (readAt "spot.id")
    |>.accessor "get_spot_market_id" (readAt "spot.market.id")
    |>.accessor "get_source_category" (readAt "source.category")
    |>.accessor "get_source_name" (readAt "source.name")
    |>.accessor "get_target_category" (readAt "target.category")
    |>.accessor "get_target_name" (readAt "target.name")

/-! ### Actions -/

/-- The text of a keyword argument; `default` if it is missing or null. -/
def kwargText (kwargs : Kwargs) (name default : String) : String :=
  match Fields.find? kwargs name with
  | none => default
  | some .null => default
  | some value => value.toText

/-- The message that keyword arguments describe. -/
def messageOf (kwargs : Kwargs) : Message where
  username := kwargText kwargs "username" "Dynamic Sales Transition Bot"
  channel := kwargText kwargs "channel" "#sales"
  text := kwargText kwargs "text" ""
  iconUrl := "https://i.imgur.com/uxUK5.jpg"

/-- Puts a message into the outbox. -/
def sendMessage (_ : Unit) (_ : VariablesInstance Outbox) (kwargs : Kwargs) :
    Effect Outbox ProviderError Unit :=
  Effect.change fun outbox => { outbox with messages := outbox.messages ++ [messageOf kwargs] }

/-- Puts an entry into the change log, with what the variables say of the transition. -/
def logChange (_ : Unit) (vars : VariablesInstance Outbox) (_ : Kwargs) :
    Effect Outbox ProviderError Unit := do
  let spotId ← vars.get "get_spot_id" []
  let sourceName ← vars.get "get_source_name" []
  let targetName ← vars.get "get_target_name" []
  Effect.change fun outbox =>
    { outbox with changeLog := outbox.changeLog ++ [⟨spotId, sourceName, targetName⟩] }

/-- The actions of sales transitions. -/
def actionsTable : ActionsTable Outbox Unit :=
  let start : ActionsTable Outbox Unit := { build := fun _ => return () }
  start
    |>.action "send_slack_message" sendMessage
    |>.action "create_system_change_log" logChange

/-- The registry of the sales providers. -/
def registry : ProviderRegistry Outbox :=
  let start : ProviderRegistry Outbox := {}
  start
    |>.registerVariables variablesName variablesTable.toProvider
    |>.registerActions actionsName actionsTable.toProvider

/-- A compiler that knows the default operators and the sales providers. -/
def compiler : Compiler Outbox := { operators := .defaults, providers := registry }

end Rulebook.Sales
