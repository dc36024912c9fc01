/-
This file says what the providers of sales transitions do, without their tables of methods. An event
describes a transition if there is an object under the name `instance`. The properties are read off
the event at fixed paths below that name; they never fail and leave the outbox alone. An action that
is offered never fails either and leaves one thing for delivery: a message or an entry of the change
log.

A rule set that is compiled against these providers holds them, so its trigger is a run over its
blocks on such variables and actions, or the error that nothing is described.
-/
import Rulebook.Proofs.Isolation
import Rulebook.Proofs.Paths

namespace Rulebook.Sales

variable {args transition : EventArgs}

/-! ### The description of a transition -/

/-- In the arguments of the event an object with these fields is under the name `instance`. -/
def Describes (args : EventArgs) (fields : Fields Json) : Prop :=
  ∃ outer, args.data = .map outer ∧ Fields.find? outer "instance" = some (.map fields)

theorem field?_instance_eq_some_iff {found : Json} :
    args.field? "instance" = some found ↔
      ∃ outer, args.data = .map outer ∧ Fields.find? outer "instance" = some found := by
  have onePart : pathParts "instance".toList = ["instance".toList] := rfl
  have noPosition : position? "instance".toList = none := by decide
  unfold EventArgs.field?
  rw [onePart, Json.descend?]
  cases data : args.data with
  | map outer =>
    cases entry : Fields.find? outer "instance" <;> simp [Json.child?, Json.descend?, entry]
  | list items =>
    rw [Json.child?, noPosition]
    simp
  | _ => simp [Json.child?]

/-- The transition of an event is the object that describes it. -/
theorem transition?_eq_some_iff :
    transition? args = some transition ↔
      ∃ fields, Describes args fields ∧ transition = ⟨.map fields⟩ := by
  unfold transition? Describes
  simp only [← field?_instance_eq_some_iff]
  split
  · next fields found => simp [found, eq_comm]
  · next other =>
    constructor
    · exact nofun
    · rintro ⟨fields, found, -⟩
      exact absurd found (other fields)

theorem transition?_eq_none_iff : transition? args = none ↔ ¬ ∃ fields, Describes args fields := by
  rw [Option.eq_none_iff_forall_ne_some]
  constructor
  · rintro none ⟨fields, describes⟩
    exact none _ (transition?_eq_some_iff.mpr ⟨fields, describes, rfl⟩)
  · intro undescribed transition described
    obtain ⟨fields, describes, -⟩ := transition?_eq_some_iff.mp described
    exact undescribed ⟨fields, describes⟩

/-- What is read in a transition is read in the event, below the name of the description. -/
theorem value_transition (described : transition? args = some transition) (path : String) :
    transition.value path = args.value ("instance." ++ path) := by
  obtain ⟨fields, describes, rfl⟩ := transition?_eq_some_iff.mp described
  exact (EventArgs.value_joined (field?_instance_eq_some_iff.mpr describes) path).symm

/-! ### Properties -/

/-- Where a property is found in the description of a transition. -/
def path? : String → Option String
  | "get_spot_id" => some "spot.id"
  | "get_spot_market_id" => some "spot.market.id"
  | "get_source_category" => some "source.category"
  | "get_source_name" => some "source.name"
  | "get_target_category" => some "target.category"
  | "get_target_name" => some "target.name"
  | _ => none

/-- What the properties are answered, whatever their arguments. -/
def answers (args : EventArgs) : Answers := fun property _ =>
  match path? property with
  | some path => .ok (args.value ("instance." ++ path))
  | none => .error (.unknownMethod property)

/-- The table reads every property at its path. -/
theorem map_read_find?_accessors (World : Type) (property : String) :
    ((variablesTable : VariablesTable World EventArgs).accessors.find? property).map (·.read) =
      (path? property).map readAt := by
  simp only [variablesTable, VariablesTable.accessor, VariablesTable.restrictedAccessor,
    Fields.find?_insert]
  fun_cases path? property
  case case7 spotId marketId sourceCategory sourceName targetCategory targetName =>
    rw [if_neg targetName, if_neg targetCategory, if_neg sourceName, if_neg sourceCategory,
      if_neg marketId, if_neg spotId]
    rfl
  all_goals simp

/-- A property is read without a trace in the world. -/
theorem get_performs {World : Type} (described : transition? args = some transition)
    (property : String) (kwargs : Kwargs) (world : World) :
    ((variablesTable.instanceOf transition).get property kwargs).perform world =
      (answers args property kwargs, world) := by
  have read := map_read_find?_accessors World property
  unfold answers
  cases found : (variablesTable : VariablesTable World EventArgs).accessors.find? property with
  | none =>
    rw [found, Option.map_none, eq_comm, Option.map_eq_none_iff] at read
    simp only [VariablesTable.instanceOf, found, read]
    rfl
  | some accessor =>
    rw [found, Option.map_some, eq_comm, Option.map_eq_some_iff] at read
    obtain ⟨path, atPath, same⟩ := read
    simp only [VariablesTable.instanceOf, found, atPath, ← same, ← value_transition described]
    rfl

theorem answersBy {World : Type} (described : transition? args = some transition) :
    VariablesInstance.AnswersBy (variablesTable.instanceOf transition : VariablesInstance World)
      (answers args) :=
  fun property kwargs world => congrArg Prod.fst (get_performs described property kwargs world)

theorem get_performs_of_path {World : Type} (described : transition? args = some transition)
    {property path : String} (atPath : path? property = some path) (kwargs : Kwargs)
    (world : World) :
    ((variablesTable.instanceOf transition).get property kwargs).perform world =
      (.ok (args.value ("instance." ++ path)), world) := by
  rw [get_performs described]
  simp only [answers, atPath]

/-- Every property that is offered has a path. -/
theorem exists_path {World : Type} {property : String} {descriptor : PropertyDescriptor}
    (offered : (variablesTable : VariablesTable World EventArgs).toProvider.property? property =
      some descriptor) : ∃ path, path? property = some path := by
  obtain ⟨accessor, found⟩ := VariablesTable.exists_accessor offered
  have read := map_read_find?_accessors World property
  rw [found, Option.map_some, eq_comm, Option.map_eq_some_iff] at read
  obtain ⟨path, atPath, -⟩ := read
  exact ⟨path, atPath⟩

/-! ### Actions -/

/-- What is left for delivery. -/
abbrev Delivery := Message ⊕ ChangeLogEntry

/-- The text of a keyword argument that is there and is not null. -/
def given? (kwargs : Kwargs) (name : String) : Option String :=
  ((Fields.find? kwargs name).filter fun value => !value.isNull).map Value.toText

/-- What is left for delivery when an action is executed for an event. -/
def deliveries (args : EventArgs) (action : Action) : List Delivery :=
  match action.actionMethod with
  | "send_slack_message" => [.inl {
      username := (given? action.actionKwargs "username").getD "Dynamic Sales Transition Bot"
      channel := (given? action.actionKwargs "channel").getD "#sales"
      text := (given? action.actionKwargs "text").getD ""
      iconUrl := "https://i.imgur.com/uxUK5.jpg" }]
  | "create_system_change_log" => [.inr {
      spotId := args.value "instance.spot.id"
      sourceName := args.value "instance.source.name"
      targetName := args.value "instance.target.name" }]
  | _ => []

theorem kwargText_eq (kwargs : Kwargs) (name default : String) :
    kwargText kwargs name default = (given? kwargs name).getD default := by
  unfold kwargText given?
  cases found : Fields.find? kwargs name with
  | none => rfl
  | some value => cases value <;> rfl

/-- The actions that are offered. -/
theorem mem_actions_iff {name : String} :
    name ∈ actionsTable.toProvider.actions ↔
      name = "create_system_change_log" ∨ name = "send_slack_message" := by
  have actions : actionsTable.toProvider.actions =
      ["create_system_change_log", "send_slack_message"] := by decide +kernel
  simp [actions]

/-- An action that is offered leaves one thing. -/
theorem length_deliveries {action : Action}
    (offered : action.actionMethod ∈ actionsTable.toProvider.actions) :
    (deliveries args action).length = 1 := by
  unfold deliveries
  rcases mem_actions_iff.mp offered with method | method <;> rw [method] <;> rfl

/-- An action that is offered is executed without an error and leaves its thing in the outbox. -/
theorem run_performs (described : transition? args = some transition) {action : Action}
    (offered : action.actionMethod ∈ actionsTable.toProvider.actions) (outbox : Outbox) :
    ((actionsTable.instanceOf ()).run action.actionMethod (variablesTable.instanceOf transition)
        action.actionKwargs).perform outbox =
      (.ok (), sharedOutbox.written outbox (deliveries args action)) := by
  have found (name : String) : actionsTable.bodies.find? name =
      if name = "create_system_change_log" then some logChange
      else if name = "send_slack_message" then some sendMessage else none := by
    simp only [actionsTable, ActionsTable.action, Fields.find?_insert]
    rfl
  unfold deliveries
  simp only [ActionsTable.instanceOf, found]
  rcases mem_actions_iff.mp offered with method | method <;> simp only [method]
  · have read (property path : String) (atPath : path? property = some path) :=
      get_performs_of_path described atPath [] outbox
    refine (Effect.perform_bind_of_ok (read "get_spot_id" "spot.id" rfl)).trans ?_
    refine (Effect.perform_bind_of_ok (read "get_source_name" "source.name" rfl)).trans ?_
    exact Effect.perform_bind_of_ok (read "get_target_name" "target.name" rfl)
  · simp only [← kwargText_eq]
    rfl

/-! ### Rule sets on these providers -/

/-- A compiler with the default operators and the sales providers that has accepted some rule sets
already. -/
def compilerAt (version : Nat) : Compiler Outbox where
  operators := .defaults
  providers := registry
  version

/-- A rule set and what such a compiler makes of it. -/
structure Loaded where
  source : RuleSet
  compiled : CompiledRuleSet Outbox
  version : Nat
  accepted : ((compilerAt version).compile source).1 = .ok compiled

/-- Every rule set that such a compiler accepts is one. -/
theorem Loaded.exists_of_isOk {source : RuleSet} {version : Nat}
    (accepts : ((compilerAt version).compile source).1.isOk = true) :
    ∃ loaded : Loaded, loaded.source = source := by
  obtain ⟨compiled, accepted⟩ := Rulebook.exists_of_isOk accepts
  exact ⟨⟨source, compiled, version, accepted⟩, rfl⟩

/-- What the sales providers offer. -/
abbrev catalog : Catalog :=
  Catalog.of (variablesTable.toProvider : VariablesProvider Outbox) actionsTable.toProvider

namespace Loaded

variable (loaded : Loaded)

/-- The place of the rule set. -/
def location : Location := { ruleSet := some loaded.source.id }

/-- The blocks that count, those that are enabled. -/
def blocks : List RuleBlock := loaded.source.ruleBlocks.filter (·.enabled)

/-- The compiled rule set is as it was defined, on the sales providers, with blocks that were made
from the blocks that count. -/
theorem assembled :
    loaded.source.variablesProvider = variablesName ∧
    loaded.compiled = (compilerAt loaded.version).assemble loaded.source variablesTable.toProvider
      actionsTable.toProvider loaded.compiled.blocks ∧
    List.Forall₂ (fun block compiledBlock =>
        block.compile .defaults catalog { loaded.location with block := some block.id } =
          .ok compiledBlock)
      loaded.blocks loaded.compiled.blocks := by
  have accepted := loaded.accepted
  rw [Compiler.compile_fst] at accepted
  obtain ⟨vars, actions, blocks, varsFound, actionsFound, correspond, assembled⟩ :=
    Compiler.check_eq_ok_iff.mp accepted
  -- Each registry has one entry, so what is found is that entry under its name.
  obtain ⟨name, rfl⟩ := Fields.find?_singleton_eq_some_iff.mp varsFound
  obtain ⟨-, rfl⟩ := Fields.find?_singleton_eq_some_iff.mp actionsFound
  have sameBlocks : loaded.compiled.blocks = blocks := by rw [assembled]; rfl
  rw [sameBlocks]
  exact ⟨name, assembled, correspond⟩

theorem id_eq : loaded.compiled.id = loaded.source.id := by
  rw [loaded.assembled.2.1]
  rfl

theorem enabled_eq : loaded.compiled.enabled = loaded.source.enabled := by
  rw [loaded.assembled.2.1]
  rfl

theorem stopOnFirstTrigger_eq :
    loaded.compiled.stopOnFirstTrigger = loaded.source.stopOnFirstTrigger := by
  rw [loaded.assembled.2.1]
  rfl

theorem variablesProvider_eq : loaded.compiled.variablesProvider = variablesName := by
  obtain ⟨name, assembled, -⟩ := loaded.assembled
  rw [assembled]
  exact name

theorem variablesSource_eq : loaded.compiled.variablesSource = variablesTable.toProvider := by
  rw [loaded.assembled.2.1]
  rfl

theorem actionsSource_eq : loaded.compiled.actionsSource = actionsTable.toProvider := by
  rw [loaded.assembled.2.1]
  rfl

theorem location_eq : loaded.compiled.location = loaded.location := by
  unfold CompiledRuleSet.location
  rw [loaded.id_eq]
  rfl

/-- The error of a trigger for an event that describes nothing. -/
def nothingDescribed : RuleError :=
  .located (.providerConstruction variablesName "事件参数无效: 事件缺少 instance 对象")
    loaded.location

/-- The trigger for an event that describes nothing is that error. -/
theorem trigger_of_undescribed (enabled : loaded.source.enabled = true)
    (undescribed : transition? args = none) :
    loaded.compiled.trigger args = throw loaded.nothingDescribed := by
  unfold CompiledRuleSet.trigger CompiledRuleSet.constructVariables
  rw [if_pos (loaded.enabled_eq.trans enabled), loaded.variablesSource_eq,
    construct_of_undescribed undescribed, loaded.variablesProvider_eq, loaded.location_eq]
  rfl

/-- The trigger for an event that describes a transition is a run over the blocks. -/
theorem trigger_of_described (enabled : loaded.source.enabled = true)
    (described : transition? args = some transition) :
    loaded.compiled.trigger args = do
      let (blocks, stoppedEarly) ← runBlocks loaded.source.stopOnFirstTrigger
        (variablesTable.instanceOf transition) (actionsTable.instanceOf ()) loaded.location
        loaded.compiled.blocks
      return { ruleSetId := loaded.source.id, stoppedEarly, blocks } := by
  unfold CompiledRuleSet.trigger CompiledRuleSet.constructVariables CompiledRuleSet.constructActions
  rw [if_pos (loaded.enabled_eq.trans enabled), loaded.variablesSource_eq,
    construct_of_described described, loaded.actionsSource_eq, loaded.location_eq, loaded.id_eq,
    loaded.stopOnFirstTrigger_eq]
  rfl

end Loaded

end Rulebook.Sales
