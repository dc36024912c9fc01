/-
This file says that all settings of the service are read one by one. Each has a place, in a group or
beside the groups, and a way to read what stands there; where nothing stands it has its built-in
value. If every one of them can be read, all are, and each is what it is read as by itself.
-/
import Rulebook.Proofs.Layers

namespace Rulebook

open Setting (groups)

namespace Settings

/-! ### Settings without settings inside -/

/-- A setting of the service that is no group. -/
inductive Leaf where
  | serviceName | environment
  | rulesPath | triggerTimeoutMs | watchRules | reloadDebounceMs
  | logLevel | jsonLogs | metricsEnabled | metricsPort
  deriving DecidableEq

namespace Leaf

/-- All settings that are no groups. -/
def all : List Leaf :=
  [serviceName, environment, rulesPath, triggerTimeoutMs, watchRules, reloadDebounceMs,
    logLevel, jsonLogs, metricsEnabled, metricsPort]

theorem mem_all (leaf : Leaf) : leaf ∈ all := by
  cases leaf <;> decide

/-- The group that a setting is in. -/
def group : Leaf → Option String
  | .serviceName | .environment => none
  | .rulesPath | .triggerTimeoutMs | .watchRules | .reloadDebounceMs => some "engine"
  | .logLevel | .jsonLogs | .metricsEnabled | .metricsPort => some "observability"

/-- The name of a setting in its group. -/
def name : Leaf → String
  | .serviceName => "service_name"
  | .environment => "environment"
  | .rulesPath => "rules_path"
  | .triggerTimeoutMs => "trigger_timeout_ms"
  | .watchRules => "watch_rules"
  | .reloadDebounceMs => "reload_debounce_ms"
  | .logLevel => "log_level"
  | .jsonLogs => "json_logs"
  | .metricsEnabled => "metrics_enabled"
  | .metricsPort => "metrics_port"

/-- The place of a setting. -/
def place (leaf : Leaf) : List String := leaf.group.toList ++ [leaf.name]

/-- Different settings have places of which none is within another. -/
theorem not_prefix_place {leaf other : Leaf} (differs : leaf ≠ other) :
    ¬ leaf.place <+: other.place := by
  have apart : ∀ leaf ∈ all, ∀ other ∈ all, leaf ≠ other → ¬ leaf.place <+: other.place := by
    decide
  exact apart leaf leaf.mem_all other other.mem_all differs

/-- The values of a setting. -/
def Kind : Leaf → Type
  | .serviceName | .environment | .rulesPath | .logLevel => String
  | .triggerTimeoutMs | .reloadDebounceMs | .metricsPort => Nat
  | .watchRules | .jsonLogs | .metricsEnabled => Bool

/-- How a setting is read. -/
def read? : (leaf : Leaf) → Setting → Option leaf.Kind
  | .serviceName | .environment | .rulesPath | .logLevel => Setting.asText?
  | .triggerTimeoutMs | .reloadDebounceMs => Setting.asCount? Setting.maxCount
  | .metricsPort => Setting.asCount? maxPort
  | .watchRules | .jsonLogs | .metricsEnabled => Setting.asFlag?

/-- The value of a setting. -/
def of (settings : Settings) : (leaf : Leaf) → leaf.Kind
  | .serviceName => settings.serviceName
  | .environment => settings.environment
  | .rulesPath => settings.engine.rulesPath
  | .triggerTimeoutMs => settings.engine.triggerTimeoutMs
  | .watchRules => settings.engine.watchRules
  | .reloadDebounceMs => settings.engine.reloadDebounceMs
  | .logLevel => settings.observability.logLevel
  | .jsonLogs => settings.observability.jsonLogs
  | .metricsEnabled => settings.observability.metricsEnabled
  | .metricsPort => settings.observability.metricsPort

/-- The settings with some values. -/
def settings (value : (leaf : Leaf) → leaf.Kind) : Settings where
  serviceName := value .serviceName
  environment := value .environment
  engine :=
    { rulesPath := value .rulesPath
      triggerTimeoutMs := value .triggerTimeoutMs
      watchRules := value .watchRules
      reloadDebounceMs := value .reloadDebounceMs }
  observability :=
    { logLevel := value .logLevel
      jsonLogs := value .jsonLogs
      metricsEnabled := value .metricsEnabled
      metricsPort := value .metricsPort }

@[simp] theorem of_settings (value : (leaf : Leaf) → leaf.Kind) (leaf : Leaf) :
    of (settings value) leaf = value leaf := by
  cases leaf <;> rfl

theorem group_mem_groups (leaf : Leaf) : ∀ name ∈ leaf.group, name ∈ groups := by
  cases leaf <;> decide

/-- Only a text, a number or a Boolean can be read. -/
theorem isSingle_of_read? {leaf : Leaf} {setting : Setting}
    (readable : (leaf.read? setting).isSome) : setting.isSingle := by
  cases setting with
  | nothing | list | table => cases leaf <;> exact absurd readable Bool.false_ne_true
  | _ => rfl

/-- A setting as it is read from all settings, where it may be missing. -/
def readIn? (leaf : Leaf) (setting : Setting) : Option leaf.Kind :=
  match setting.get? leaf.place with
  | none => some (leaf.of {})
  | some given => leaf.read? given

theorem readIn?_eq_field? (leaf : Leaf) (setting : Setting) :
    leaf.readIn? setting =
      field? (setting.inside leaf.group).entries leaf.name (leaf.of {}) leaf.read? := by
  cases found : (setting.inside leaf.group).entries.lookup leaf.name <;>
    simp [readIn?, field?, place, Setting.get?_place, found]

end Leaf

section Reading

variable {setting : Setting} {settings : Settings} {entries : List (String × Setting)}

/-- A group is read from its entries, of which it has none where it is missing. -/
theorem field?_group {α : Type} {group : String} {builtIn : α} {read : Setting → Option α}
    (known : group ∈ groups) (grouped : setting.IsGrouped)
    (missing : read (.table []) = some builtIn) :
    field? setting.entries group builtIn read =
      read (.table (setting.inside (some group)).entries) := by
  unfold field?
  rw [Setting.inside_some, Setting.get?_singleton]
  cases found : setting.entries.lookup group with
  | none => exact missing.symm
  | some inner =>
    have table := grouped group known inner ((Setting.get?_singleton setting group).trans found)
    cases inner with
    | table => rfl
    | _ => exact absurd table Bool.false_ne_true

/-- The settings of the engine are read if each of them is. -/
theorem engine?_table (each : ∀ leaf : Leaf, leaf.group = some "engine" →
      field? entries leaf.name (leaf.of {}) leaf.read? = some (leaf.of settings)) :
    engine? (.table entries) = some settings.engine := by
  have rulesPath : field? entries "rules_path" "config/rules.json" Setting.asText? =
      some settings.engine.rulesPath := each .rulesPath rfl
  have triggerTimeoutMs : field? entries "trigger_timeout_ms" 5000
      (Setting.asCount? Setting.maxCount) = some settings.engine.triggerTimeoutMs :=
    each .triggerTimeoutMs rfl
  have watchRules : field? entries "watch_rules" true Setting.asFlag? =
      some settings.engine.watchRules := each .watchRules rfl
  have reloadDebounceMs : field? entries "reload_debounce_ms" 500
      (Setting.asCount? Setting.maxCount) = some settings.engine.reloadDebounceMs :=
    each .reloadDebounceMs rfl
  simp only [engine?, fields?, Option.bind_eq_bind, Option.bind_some, rulesPath,
    triggerTimeoutMs, watchRules, reloadDebounceMs]
  rfl

/-- The settings of logs and measures are read if each of them is. -/
theorem observability?_table (each : ∀ leaf : Leaf, leaf.group = some "observability" →
      field? entries leaf.name (leaf.of {}) leaf.read? = some (leaf.of settings)) :
    observability? (.table entries) = some settings.observability := by
  have logLevel : field? entries "log_level" "info" Setting.asText? =
      some settings.observability.logLevel := each .logLevel rfl
  have jsonLogs : field? entries "json_logs" false Setting.asFlag? =
      some settings.observability.jsonLogs := each .jsonLogs rfl
  have metricsEnabled : field? entries "metrics_enabled" false Setting.asFlag? =
      some settings.observability.metricsEnabled := each .metricsEnabled rfl
  have metricsPort : field? entries "metrics_port" 9090 (Setting.asCount? maxPort) =
      some settings.observability.metricsPort := each .metricsPort rfl
  simp only [observability?, fields?, Option.bind_eq_bind, Option.bind_some, logLevel, jsonLogs,
    metricsEnabled, metricsPort]
  rfl

/-- The settings are read if each of them is, and then they are what each is read as. -/
theorem ofSetting?_of_readIn? (table : setting.isTable) (grouped : setting.IsGrouped)
    (each : ∀ leaf : Leaf, leaf.readIn? setting = some (leaf.of settings)) :
    ofSetting? setting = some settings := by
  simp only [Leaf.readIn?_eq_field?] at each
  have engine : field? setting.entries "engine" {} engine? = some settings.engine := by
    have missing : engine? (.table []) = some {} := rfl
    rw [field?_group (List.mem_cons_self ..) grouped missing]
    refine engine?_table fun leaf inGroup => ?_
    rw [← inGroup]
    exact each leaf
  have observability : field? setting.entries "observability" {} observability? =
      some settings.observability := by
    have missing : observability? (.table []) = some {} := rfl
    rw [field?_group (List.mem_cons_of_mem _ (List.mem_cons_self ..)) grouped missing]
    refine observability?_table fun leaf inGroup => ?_
    rw [← inGroup]
    exact each leaf
  have serviceName : field? setting.entries "service_name" "" Setting.asText? =
      some settings.serviceName := each .serviceName
  have environment : field? setting.entries "environment" "" Setting.asText? =
      some settings.environment := each .environment
  cases setting with
  | table entries =>
    rw [Setting.entries_table] at engine observability serviceName environment
    simp only [ofSetting?, fields?, Option.bind_eq_bind, Option.bind_some, serviceName,
      environment, engine, observability]
    rfl
  | _ => exact absurd table Bool.false_ne_true

end Reading

/-! ### Variables for settings -/

namespace Leaf

/-- The place of a setting as a path. -/
def path (leaf : Leaf) : List Setting.Step := leaf.place.map Setting.Step.name

theorem gives?_path (leaf other : Leaf) (setting : Setting) :
    setting.gives? leaf.path other.place = if leaf = other then some setting else none := by
  by_cases same : leaf = other
  · rw [if_pos same, ← same]
    exact setting.gives?_names leaf.place
  · rw [if_neg same]
    exact setting.gives?_of_apart (not_prefix_place same) (not_prefix_place (Ne.symm same))

/-- A layer for a setting puts tables where groups of settings go. -/
theorem keepsGroups_path (leaf : Leaf) (setting : Setting) :
    Layer.KeepsGroups ⟨leaf.path, setting⟩ := by
  intro group known inner given
  cases within : leaf.group with
  | none =>
    have path : leaf.path = [.name leaf.name] := by simp [path, place, within]
    have noGroup : leaf.name ∉ groups := by cases leaf <;> decide
    have differs : leaf.name ≠ group := fun same => noGroup (same ▸ known)
    rw [Layer.gives?_cons path, if_neg differs] at given
    exact absurd given (Option.some_ne_none inner).symm
  | some outer =>
    have path : leaf.path = [.name outer, .name leaf.name] := by simp [path, place, within]
    rw [Layer.gives?_cons path] at given
    obtain ⟨_, same⟩ := Option.ite_none_right_eq_some.mp given
    exact Option.some.inj same ▸ rfl

/-- The name of the variable of the process that is for a setting, in lower case, with a pair of
underscores behind the group. -/
def variableName (leaf : Leaf) : String := "rules_" ++ String.intercalate "__" leaf.place

/-- That a variable is for a setting, whatever the case of its name. -/
def IsNamedBy (leaf : Leaf) (name : String) : Prop := Text.lower name = leaf.variableName

instance (leaf : Leaf) (name : String) : Decidable (leaf.IsNamedBy name) :=
  inferInstanceAs (Decidable (Text.lower name = leaf.variableName))

theorem variablePath?_of_isNamedBy {leaf : Leaf} {name : String} (named : leaf.IsNamedBy name) :
    variablePath? name = some leaf.path := by
  have opening : ∀ leaf ∈ all, variableOpening.toList.isPrefixOf leaf.variableName.toList := by
    decide +kernel
  have written : ∀ leaf ∈ all, Setting.pathOf (pointed
      (leaf.variableName.toList.drop variableOpening.length)) = leaf.path := by
    decide +kernel
  unfold variablePath?
  rw [named]
  simp only [opening leaf leaf.mem_all, written leaf leaf.mem_all, if_true]

/-- A variable is for one setting at most. -/
theorem IsNamedBy.unique {leaf other : Leaf} {name : String} (named : leaf.IsNamedBy name)
    (otherNamed : other.IsNamedBy name) : leaf = other := by
  by_contra differs
  have paths : leaf.path = other.path := Option.some.inj
    ((variablePath?_of_isNamedBy named).symm.trans (variablePath?_of_isNamedBy otherNamed))
  have given := leaf.gives?_path leaf .nothing
  rw [paths, gives?_path, if_neg (Ne.symm differs), if_pos rfl] at given
  exact nomatch given

/-- The layer of a variable that is for a setting. -/
theorem ofVariable?_of_isNamedBy {leaf : Leaf} {name : String} (named : leaf.IsNamedBy name)
    (text : String) : Layer.ofVariable? name text = some ⟨leaf.path, ofVariable text⟩ := by
  unfold Layer.ofVariable?
  rw [variablePath?_of_isNamedBy named]
  rfl

end Leaf

/-- A variable gives a text, a number or a Boolean. -/
theorem isSingle_ofVariable (text : String) : (ofVariable text).isSingle := by
  unfold ofVariable
  split
  · rfl
  · rfl
  · cases Number.ofText? text <;> dsimp only <;> split <;> split <;> rfl

end Settings

end Rulebook
