/-
This file holds the settings of the service and where they come from. There are four layers over
the built-in values: the default file, the file of the environment, the file of the service, and
variables of the process. A later layer replaces what it names, setting by setting.
-/
import Rulebook.Toml
import Rulebook.Event

namespace Rulebook

/-- How rules are loaded and run. -/
structure EngineSettings where
  rulesPath : String := "config/rules.json"
  triggerTimeoutMs : Nat := 5000
  watchRules : Bool := true
  reloadDebounceMs : Nat := 500
  deriving DecidableEq, Inhabited

/-- What is logged and measured. -/
structure ObservabilitySettings where
  logLevel : String := "info"
  jsonLogs : Bool := false
  metricsEnabled : Bool := false
  metricsPort : Nat := 9090
  deriving DecidableEq, Inhabited

/-- The settings of the service. -/
structure Settings where
  serviceName : String := ""
  environment : String := ""
  engine : EngineSettings := {}
  observability : ObservabilitySettings := {}
  deriving DecidableEq, Inhabited

namespace Settings

/-- Whether the service runs in production. -/
def isProduction (settings : Settings) : Bool := settings.environment == "production"

/-! ### Reading -/

/-- The fields of a group of settings: the entries of a table, or the items of a list in the order
of the names. -/
def fields? (names : List String) : Setting → Option (List (String × Setting))
  | .table entries => some entries
  | .list items => some (names.zip items)
  | _ => none

/-- A field of a group, or its built-in value. -/
def field? {α : Type} (fields : List (String × Setting)) (name : String) (builtIn : α)
    (read : Setting → Option α) : Option α :=
  match fields.lookup name with
  | none => some builtIn
  | some setting => read setting

/-- The largest port. -/
def maxPort : Nat := 65535

/-- Reads the settings of the engine. -/
def engine? (setting : Setting) : Option EngineSettings := do
  let builtIn : EngineSettings := {}
  let fields ← fields? ["rules_path", "trigger_timeout_ms", "watch_rules", "reload_debounce_ms"]
    setting
  let count := Setting.asCount? Setting.maxCount
  return {
    rulesPath := ← field? fields "rules_path" builtIn.rulesPath Setting.asText?
    triggerTimeoutMs := ← field? fields "trigger_timeout_ms" builtIn.triggerTimeoutMs count
    watchRules := ← field? fields "watch_rules" builtIn.watchRules Setting.asFlag?
    reloadDebounceMs := ← field? fields "reload_debounce_ms" builtIn.reloadDebounceMs count }

/-- Reads the settings of logs and measures. -/
def observability? (setting : Setting) : Option ObservabilitySettings := do
  let builtIn : ObservabilitySettings := {}
  let fields ← fields? ["log_level", "json_logs", "metrics_enabled", "metrics_port"] setting
  return {
    logLevel := ← field? fields "log_level" builtIn.logLevel Setting.asText?
    jsonLogs := ← field? fields "json_logs" builtIn.jsonLogs Setting.asFlag?
    metricsEnabled := ← field? fields "metrics_enabled" builtIn.metricsEnabled Setting.asFlag?
    metricsPort := ← field? fields "metrics_port" builtIn.metricsPort
      (Setting.asCount? maxPort) }

/-- Reads all settings. Names that mean nothing are left out, and a setting of the wrong kind is
an error. -/
def ofSetting? (setting : Setting) : Option Settings := do
  let builtIn : Settings := {}
  let fields ← fields? ["service_name", "environment", "engine", "observability"] setting
  return {
    serviceName := ← field? fields "service_name" builtIn.serviceName Setting.asText?
    environment := ← field? fields "environment" builtIn.environment Setting.asText?
    engine := ← field? fields "engine" builtIn.engine engine?
    observability := ← field? fields "observability" builtIn.observability observability? }

/-! ### Variables of the process -/

/-- The setting that the text of a variable gives: a Boolean or a number if it spells one. -/
def ofVariable (text : String) : Setting :=
  match Text.lower text with
  | "true" => .bool true
  | "false" => .bool false
  | _ =>
    let (negative, digits) := splitSign text.toList
    let size : Int := digitsValue digits
    let value := if negative then -size else size
    if !digits.isEmpty && digits.all Char.isDigit && Setting.isShort value then
      .integer value
    else
      match Number.ofText? text with
      | some number => .real number
      | none => .text text

/-- A name with a point for each pair of underscores. -/
def pointed : List Char → List Char
  | [] => []
  | '_' :: '_' :: rest => '.' :: pointed rest
  | character :: rest => character :: pointed rest

/-- What the names of variables for settings begin with, in any case. -/
def variableOpening : String := "rules_"

/-- The path that a variable sets: its name in lower case without the opening, where pairs of
underscores stand for points. -/
def variablePath? (name : String) : Option (List Setting.Step) :=
  let lowered := (Text.lower name).toList
  if variableOpening.toList.isPrefixOf lowered then
    some (Setting.pathOf (pointed (lowered.drop variableOpening.length)))
  else none

/-! ### Layers -/

/-- A setting for a place. -/
structure Layer where
  path : List Setting.Step
  setting : Setting

namespace Layer

/-- Settings with a layer laid over them. -/
def onto (earlier : Setting) (layer : Layer) : Setting := layer.setting.layAt layer.path earlier

/-- The layer of a setting whose name writes its path. -/
def ofNamed (name : String) (setting : Setting) : Layer := ⟨Setting.pathOf name.toList, setting⟩

/-- The layer of a variable of the process. -/
def ofVariable? (name text : String) : Option Layer :=
  (variablePath? name).map fun path => ⟨path, ofVariable text⟩

/-- The layers of a file, one for each of its outer entries; none if it cannot be read. A mark of
the byte order at its start does not belong to its text. -/
def ofFile? (content : ByteArray) : Option (List Layer) := do
  let text ← String.fromUTF8? content
  let table ← Toml.ofText? (String.ofList (Toml.withoutMark text.toList))
  return table.entries.map fun (name, setting) => ofNamed name setting

end Layer

/-- Where settings come from. -/
structure Sources where
  serviceName : String
  /-- The environment that is named by a variable of the process. -/
  environment : Option String
  /-- The content of a file in the directory of settings, if it is there. -/
  file : String → Option ByteArray
  /-- The variables of the process. -/
  environmentVariables : List (String × String)

namespace Sources

/-- The environment whose file is read. -/
def environmentName (sources : Sources) : String := sources.environment.getD "development"

/-- What the files are called after, the ones that count less first. -/
def subjects (sources : Sources) : List String :=
  ["default", sources.environmentName, sources.serviceName]

/-- The name of a file of settings. -/
def fileName (subject : String) : String := subject ++ ".toml"

/-- The name of the file that stands in for one that is not there. -/
def spareName (subject : String) : String := subject ++ ".toml.toml"

/-- The names of all files that may be asked for. -/
def fileNames (sources : Sources) : List String :=
  sources.subjects.flatMap fun subject => [fileName subject, spareName subject]

/-- Whether a file that is called after something has a name in front of its extension. -/
def isNamed (subject : String) : Bool := !subject.isEmpty && !subject.endsWith "/"

/-- The content of the file that is called after something. A file without a name in front of its
extension counts for nothing. -/
def content? (sources : Sources) (subject : String) : Option ByteArray :=
  match sources.file (fileName subject) with
  | some content => if isNamed subject then some content else none
  | none => sources.file (spareName subject)

/-- The layers of the files that are there; none if one of them cannot be read. -/
def fileLayers? (sources : Sources) : Option (List Layer) :=
  ((sources.subjects.filterMap sources.content?).mapM Layer.ofFile?).map List.flatten

/-- What holds if no layer says otherwise. -/
def baseLayers (sources : Sources) : List Layer :=
  [.ofNamed "service_name" (.text sources.serviceName),
    .ofNamed "environment" (.text sources.environmentName)]

/-- All layers, the ones that count less first. -/
def layers? (sources : Sources) : Option (List Layer) := do
  let files ← sources.fileLayers?
  let variableLayers := sources.environmentVariables.filterMap fun (name, text) =>
    Layer.ofVariable? name text
  return sources.baseLayers ++ files ++ variableLayers

end Sources

/-- The settings that some sources give; none if a file cannot be read or a setting is of the
wrong kind. -/
def load? (sources : Sources) : Option Settings := do
  let layers ← sources.layers?
  ofSetting? (layers.foldl Layer.onto (.table []))

end Settings

end Rulebook
